import Compositor.Proofs.Export.Compiling

/-!
# Running an export

An export prepares its command, starts the tool once and releases its files. Both ways of
exporting are brought into one form: what is prepared and what is left behind does not
depend on the way, only the start of the tool does.
-/
namespace Compositor

/-! ## Starting the tool -/

namespace Composition

/-- What the caller is told, if it wants to know. -/
def reports (wanted : Bool) (status : String) : List Event :=
  if wanted then [.progress status] else []

theorem report_apply (wanted : Bool) (status : String) (w : World) :
    report wanted status w = (.ok (), { w with events := w.events ++ reports wanted status }) := by
  cases wanted with
  | true => rfl
  | false =>
    change (Except.ok (), w) = (Except.ok (), { w with events := w.events ++ [] })
    rw [List.append_nil]

/-- What becomes of a command when the process turns out in some way. -/
def toolResult (command : List String) (verbose : Bool) : ProcessReply → Except Fault Unit
  | .refused e => .error (startFault command e)
  | .finished code _ stderr => checkExit code (seenErrors verbose stderr) command

/-- What happens until the tool is started. -/
def starting (w : World) (launch : Launch) (command : List String) (progress verbose : Bool) :
    List Event :=
  w.messages .info ("Running FFmpeg: " ++ commandLine command) ++
    reports progress "processing" ++
    [.spawn launch command .devnull (outputTarget verbose) (outputTarget verbose)
      (w.present command)]

/-- What happens when the tool has ended. -/
def ending (w : World) (progress : Bool) : Except Fault Unit → List Event
  | .ok () => reports progress "completed" ++ w.messages .info "FFmpeg completed successfully"
  | .error _ => []

theorem runTool_apply (launch : Launch) (command : List String) (progress verbose : Bool)
    (w : World) :
    runTool launch command progress verbose w =
      (toolResult command verbose w.nextProcess, { w with
        processes := w.processes.tail
        events := w.events ++ starting w launch command progress verbose }) := by
  rw [runTool, Act.info, Act.bind_apply, Act.log_apply]
  dsimp only
  rw [Act.bind_apply, report_apply]
  dsimp only
  rw [Act.bind_apply, Act.spawn_apply]
  dsimp only
  rw [List.append_assoc, List.append_assoc]
  change (match w.nextProcess with
    | .refused e => Act.fail (startFault command e)
    | .finished code _ stderr =>
      Act.ofExcept (checkExit code (seenErrors verbose stderr) command)) _ = _
  cases w.nextProcess with
  | refused e => rfl
  | finished code stdout stderr =>
    dsimp only [toolResult]
    cases checkExit code (seenErrors verbose stderr) command <;> rfl

theorem finish_apply (progress : Bool) (w : World) :
    finish progress w = (.ok (), { w with events := w.events ++ ending w progress (.ok ()) }) := by
  rw [finish, Act.bind_apply, report_apply]
  dsimp only
  rw [Act.info, Act.log_apply]
  dsimp only
  rw [List.append_assoc]
  rfl

end Composition

/-! ## The scope of a manifest -/

theorem World.Pending.quiet {id : ManifestId} {directory : String} {w v : World}
    (h : Pending id (w.withManifest directory) v) : Quiet w v := by
  have hquiet : Quiet (w.withManifest directory) v :=
    h.elim Aside.toQuiet fun ⟨_, _, hstored⟩ => hstored.toQuiet
  exact ⟨hquiet.processes, hquiet.events⟩

namespace Composition

/-- Rendering into a file in either way. -/
def toFileBy (launch : Launch) (c : Composition) (outPath : Argument) (encoder : EncoderProfile)
    (progress verbose : Bool) : Act Unit :=
  match launch with
  | .blocking => c.toFile outPath encoder progress verbose
  | .asynchronous => c.toFileAsync outPath encoder progress verbose

/-- The command of an export, ready to be run. -/
def prepare (c : Composition) (outPath : Argument) (encoder : EncoderProfile)
    (manifest : ManifestId) : Act (List String) := do
  let arguments ← c.command outPath encoder .null (some manifest)
  Act.ofExcept (Argument.command arguments)

variable {c : Composition} {outPath : Argument} {encoder : EncoderProfile}
  {progress verbose : Bool} {w v : World}

theorem toFile_eq : c.toFile outPath encoder progress verbose =
    Manifest.during c.context fun id => c.prepare outPath encoder id >>= fun command =>
      runTool .blocking command progress verbose >>= fun _ => finish progress := by
  simp only [toFile, prepare, bind_assoc]

theorem toFileAsync_eq : c.toFileAsync outPath encoder progress verbose =
    (Manifest.during c.context fun id => c.prepare outPath encoder id >>= fun command =>
      runTool .asynchronous command progress verbose) >>= fun _ => finish progress := by
  simp only [toFileAsync, prepare, bind_assoc]

/-- An export that has nowhere to put its files does not start. -/
theorem toFileBy_homeless (h : w.contexts[c.context.index]? = none) (launch : Launch) :
    toFileBy launch c outPath encoder progress verbose w = (.error .noAttribute, w) := by
  have hduring (act : ManifestId → Act Unit) :
      Manifest.during c.context act w = (.error .noAttribute, w) := by
    rw [Manifest.during, Act.bind_apply, Manifest.create, Act.bind_apply, Context.ofId_missing h]
  cases launch with
  | blocking => rw [toFileBy, toFile_eq, hduring]
  | asynchronous => rw [toFileBy, toFileAsync_eq, Act.bind_apply, hduring]

/-- The files of an export are stored while its command is prepared. -/
theorem stages_prepare (c : Composition) (outPath : Argument) (encoder : EncoderProfile)
    (id : ManifestId) : (c.prepare outPath encoder id).Stages id fun command =>
      c.ReadsCopy id (Argument.ofTexts command) := by
  refine .before c.context (c.stages_command outPath encoder .null) (fun _ => .ofExcept _) ?_
  intro arguments command w w' w'' hread haside hcommand source hremote
  obtain ⟨tool, path, rest, hcopied, rfl⟩ := hread source hremote
  have hall := Argument.command_ok (Act.ofExcept_ok (Prod.ext hcommand rfl))
  exact ⟨tool, path, rest, hcopied.aside haside, hall.symm⟩

/-- An export stores at most one file besides. -/
theorem toFileBy_apply {context : Context} {r : Except Fault (List String)}
    (hc : w.contexts[c.context.index]? = some context)
    (h : c.prepare outPath encoder ⟨w.manifests.length⟩ (w.withManifest context.directory) =
      (r, v)) :
    ∃ files manifests, w.files.Like files ∧ ∀ launch,
      toFileBy launch c outPath encoder progress verbose w =
        match r with
        | .error e => (.error e, { v with files, manifests })
        | .ok command =>
          let result := toolResult command verbose v.nextProcess
          (result, { v with
            files
            manifests
            processes := v.processes.tail
            events := v.events ++ starting v launch command progress verbose ++
              ending v progress result }) := by
  obtain ⟨hpending, -⟩ := c.stages_prepare outPath encoder _ _ _ (w.withManifest_last _)
  rw [h] at hpending
  obtain ⟨files, manifests, hlike, hrelease⟩ :=
    Manifest.release_apply (w.withManifest_last _) hpending
  refine ⟨files, manifests, hlike, fun launch => ?_⟩
  have hduring {act : ManifestId → Act Unit} {result : Except Fault Unit} {v' : World}
      (hact : act ⟨w.manifests.length⟩ (w.withManifest context.directory) = (result, v'))
      (hfiles : v'.files = v.files) (hmanifests : v'.manifests = v.manifests) :
      Manifest.during c.context act w = (result, { v' with files, manifests }) := by
    rw [Manifest.during, Act.bind_apply, Manifest.create_apply hc]
    exact Act.andFinally_apply hact (hrelease v' hfiles hmanifests)
  cases r with
  | error e =>
    have hfail {act : List String → Act Unit} :
        (c.prepare outPath encoder ⟨w.manifests.length⟩ >>= act)
          (w.withManifest context.directory) = (.error e, v) := by
      rw [Act.bind_apply, h]
    cases launch with
    | blocking => rw [toFileBy, toFile_eq, hduring hfail rfl rfl]
    | asynchronous => rw [toFileBy, toFileAsync_eq, Act.bind_apply, hduring hfail rfl rfl]
  | ok command =>
    dsimp only
    -- an export that waits finishes inside the scope of its manifest, the other one behind it
    cases launch with
    | blocking =>
      have hact : (c.prepare outPath encoder ⟨w.manifests.length⟩ >>= fun command =>
          runTool .blocking command progress verbose >>= fun _ => finish progress)
            (w.withManifest context.directory) =
          (toolResult command verbose v.nextProcess, { v with
            processes := v.processes.tail
            events := v.events ++ starting v .blocking command progress verbose ++
              ending v progress (toolResult command verbose v.nextProcess) }) := by
        rw [Act.bind_apply, h]
        dsimp only
        rw [Act.bind_apply, runTool_apply]
        cases toolResult command verbose v.nextProcess with
        | error e => rw [ending, List.append_nil]
        | ok u =>
          dsimp only
          rw [finish_apply]
          rfl
      rw [toFileBy, toFile_eq, hduring hact (by rfl) (by rfl)]
    | asynchronous =>
      have hact : (c.prepare outPath encoder ⟨w.manifests.length⟩ >>= fun command =>
          runTool .asynchronous command progress verbose) (w.withManifest context.directory) =
          (toolResult command verbose v.nextProcess, { v with
            processes := v.processes.tail
            events := v.events ++ starting v .asynchronous command progress verbose }) := by
        rw [Act.bind_apply, h]
        dsimp only
        rw [runTool_apply]
      rw [toFileBy, toFileAsync_eq, Act.bind_apply, hduring hact (by rfl) (by rfl)]
      cases toolResult command verbose v.nextProcess with
      | error e => rw [ending, List.append_nil]
      | ok u =>
        dsimp only
        rw [finish_apply]
        rfl

/-- The courses that an export can take, as results and worlds for both ways of starting
the tool: there is no context, or no command comes out, or the tool is started. -/
inductive Exports (c : Composition) (outPath : Argument) (encoder : EncoderProfile)
    (progress verbose : Bool) (w : World) : (Launch → Except Fault Unit × World) → Prop
  | homeless : Exports c outPath encoder progress verbose w fun _ => (.error .noAttribute, w)
  | unprepared {context : Context} {e : Fault} {v : World} {files : FileTree}
      {manifests : List Manifest}
      (home : w.contexts[c.context.index]? = some context)
      (prepared : c.prepare outPath encoder ⟨w.manifests.length⟩
        (w.withManifest context.directory) = (.error e, v))
      (quiet : World.Quiet w v) (like : w.files.Like files) :
      Exports c outPath encoder progress verbose w fun _ =>
        (.error e, { v with files, manifests })
  | started {context : Context} {command : List String} {v : World} {files : FileTree}
      {manifests : List Manifest}
      (home : w.contexts[c.context.index]? = some context)
      (prepared : c.prepare outPath encoder ⟨w.manifests.length⟩
        (w.withManifest context.directory) = (.ok command, v))
      (quiet : World.Quiet w v) (like : w.files.Like files)
      (copied : c.ReadsCopy ⟨w.manifests.length⟩ (Argument.ofTexts command)
        (w.withManifest context.directory) v) :
      Exports c outPath encoder progress verbose w fun launch =>
        let result := toolResult command verbose v.nextProcess
        (result, { v with
          files
          manifests
          processes := v.processes.tail
          events := v.events ++ starting v launch command progress verbose ++
            ending v progress result })

theorem exports (c : Composition) (outPath : Argument) (encoder : EncoderProfile)
    (progress verbose : Bool) (w : World) :
    ∃ run, (∀ launch, toFileBy launch c outPath encoder progress verbose w = run launch) ∧
      Exports c outPath encoder progress verbose w run := by
  cases hc : w.contexts[c.context.index]? with
  | none => exact ⟨_, fun launch => toFileBy_homeless hc launch, .homeless⟩
  | some context =>
    obtain ⟨hpending, hread⟩ := c.stages_prepare outPath encoder _ _ _
      (w.withManifest_last context.directory)
    match h : c.prepare outPath encoder ⟨w.manifests.length⟩ (w.withManifest context.directory) with
    | (.error e, v) =>
      rw [h] at hpending
      obtain ⟨files, manifests, hlike, hrun⟩ := toFileBy_apply hc h
      exact ⟨_, hrun, .unprepared hc h hpending.quiet hlike⟩
    | (.ok command, v) =>
      rw [h] at hpending hread
      obtain ⟨files, manifests, hlike, hrun⟩ := toFileBy_apply hc h
      exact ⟨_, hrun, .started hc h hpending.quiet hlike (hread command rfl)⟩

end Composition

end Compositor
