import Compositor.Proofs.Export.Agreement

/-!
# What an export leaves behind

Whatever the servers and the tool do, an export leaves every file as it was, and none that
it has stored. The copy of a remote image is there when the tool is started, and the
command names it as the input of the background.
-/
namespace Compositor.Composition

/-- The command of an export is complete in the world `v`, and the tool is started next. -/
def Prepared (c : Composition) (outPath : Argument) (encoder : EncoderProfile) (w : World)
    (command : List String) (v : World) : Prop :=
  ∃ context, w.contexts[c.context.index]? = some context ∧
    c.prepare outPath encoder ⟨w.manifests.length⟩ (w.withManifest context.directory) =
      (.ok command, v)

theorem ReadsCopy.command {c : Composition} {id : ManifestId} {command : List String}
    {w v : World} {source : String} (h : c.ReadsCopy id (Argument.ofTexts command) w v)
    (hremote : c.ShowsRemote source) :
    ∃ tool path rest, World.Copied id source path w v ∧
      command = tool :: "-y" :: "-loop" :: "1" :: "-i" :: path :: rest := by
  obtain ⟨tool, path, rest, hcopied, hargs⟩ := h source hremote
  have hcommand := Argument.command_ofTexts command
  rw [hargs] at hcommand
  cases tool with
  | str tool =>
    obtain ⟨others, hothers⟩ : ∃ others, Argument.command rest = .ok others := by
      cases hrest : Argument.command rest with
      | ok others => exact ⟨others, rfl⟩
      | error e => simp [Background.copyArgs, Argument.command, hrest, Except.map] at hcommand
    refine ⟨tool, path, others, hcopied, ?_⟩
    simpa [Background.copyArgs, Argument.command, hothers, Except.map, eq_comm] using hcommand
  | _ => cases hcommand

/-- Every file and every directory is as before, however the export ends. If the tool was
started to show a remote image, a copy with the whole body of the answer stood at the path
that the command names as its first input, where there was nothing before the export. -/
theorem exports_tidy (launch : Launch) (c : Composition) (outPath : Argument)
    (encoder : EncoderProfile) (progress verbose : Bool) (w : World) :
    (∀ path,
      (toFileBy launch c outPath encoder progress verbose w).2.files.entry path =
        w.files.entry path ∧
      (toFileBy launch c outPath encoder progress verbose w).2.files.list path =
        w.files.list path) ∧
    ∀ source, c.ShowsRemote source → ∃ news,
      (toFileBy launch c outPath encoder progress verbose w).2.events = w.events ++ news ∧
      ∀ start ∈ Event.starts news, ∃ tool path rest response v,
        let command := tool :: "-y" :: "-loop" :: "1" :: "-i" :: path :: rest
        c.Prepared outPath encoder w command v ∧
        start = .spawn launch command .devnull (outputTarget verbose) (outputTarget verbose)
          (v.present command) ∧
        w.Answers source response ∧ response.cut = none ∧
        w.files.exists_ path = false ∧ v.files.read path = .ok response.body := by
  obtain ⟨run, hrun, hcourse⟩ := c.exports outPath encoder progress verbose w
  simp only [hrun]
  cases hcourse with
  | homeless =>
    exact ⟨fun _ => ⟨rfl, rfl⟩, fun _ _ => ⟨[], (List.append_nil _).symm, nofun⟩⟩
  | unprepared home prepared quiet like =>
    obtain ⟨news, hevents, hnews⟩ := quiet.events
    refine ⟨fun path => ⟨FileTree.entry_like like path, FileTree.list_like like path⟩,
      fun _ _ => ⟨news, hevents, ?_⟩⟩
    rw [Event.starts_quiet hnews]
    exact nofun
  | @started context command v files manifests home prepared quiet like copied =>
    obtain ⟨news, hevents, hnews⟩ := quiet.events
    refine ⟨fun path => ⟨FileTree.entry_like like path, FileTree.list_like like path⟩,
      fun source hremote => ⟨news ++ (starting v launch command progress verbose ++
        ending v progress (toolResult command verbose v.nextProcess)), ?_, ?_⟩⟩
    · rw [hevents]
      simp only [List.append_assoc]
    · obtain ⟨tool, path, rest, ⟨response, hanswers, hwhole, hstored⟩, rfl⟩ :=
        copied.command hremote
      intro start hstart
      rw [Event.starts_append, Event.starts_quiet hnews, List.nil_append, starts_run,
        List.mem_singleton] at hstart
      exact ⟨tool, path, rest, response, v, ⟨context, home, prepared⟩, hstart, hanswers, hwhole,
        hstored.files.absent, hstored.files.read⟩

/-- An image at an address over a canvas that is given. -/
def poster : Composition where
  background := some {
    kind := .image, width := 0, height := 0, fps := 30, color := none,
    source := some "https://a.example/p.png", trim := none, audioEnabled := false, volume := 1,
    info := none }
  layers := []
  hint := some ⟨.int 64, .int 36, .int 30⟩
  length := some (.int 2)
  context := ⟨0⟩

/-- A world in which the image of the poster can be fetched, with a directory for it. -/
def online : World :=
  { ready with
    tempRoot := "/tmp"
    files := ⟨[(["/"], .directory), (["/", "tmp"], .directory), (["/", "tmp", "one"], .directory)]⟩
    exchanges := [("GET https://a.example/p.png",
      [⟨0, .ok { status := 200, reason := "OK", headers := [("Content-Type", "image/png")]
                 body := .bytes [1, 2, 3] }⟩])] }

-- the tool is started with the copy, which is gone in the end
example :
    let after := (poster.toFile "out.mp4" EncoderProfile.h264 true false online).2
    (Event.starts after.events).length = 1 ∧ after.files = online.files := by
  decide +kernel

end Compositor.Composition
