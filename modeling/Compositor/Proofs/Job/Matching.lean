import Compositor.Proofs.Job.Importing

/-!
# Whether a clip has the format that was asked for

A removal asks for one format and fetches one result. Nobody compares the two: the clip has
the format of the address of the result, which is the requested one if the service answers
with a matching address, and for other addresses only if a stacked video was requested.
-/
namespace Compositor

/-! ## The last exchanges -/

/-- What the service replied about a job in an exchange. -/
def Exchange.status? (e : Exchange) : Option JobStatus :=
  e.document?.bind fun data => (Record.object JobStatus.read data).toExcept.toOption

namespace Removal.Proceeds

variable {c : Client} {source : String} {s s' : Stage} {talk : List Exchange}

theorem of_imported (h : Proceeds c source .imported talk s') : talk = [] ∧ s' = .imported := by
  cases h with
  | rest => exact ⟨rfl, rfl⟩
  | step address asked => cases asked

/-- Only the result is fetched when the job is completed. -/
theorem of_completed {status : JobStatus} (h : Proceeds c source (.completed status) talk s') :
    talk = [] ∧ s' = .completed status ∨ s' = .stopped ∨
      s' = .imported ∧ ∃ address e, talk = [e] ∧ status.video = some address ∧
        Address.Target.prepare address.text [] = .ok e.url := by
  cases h with
  | rest => exact .inl ⟨rfl, rfl⟩
  | @step _ _ e talk address asked sent rest =>
    rw [Stage.next, Stage.unlessFailed] at rest
    split at rest
    · exact .inr (.inl rest.of_stopped.2)
    · obtain ⟨rfl, rfl⟩ := rest.of_imported
      refine .inr (.inr ⟨rfl, ?_⟩)
      cases hvideo : status.video with
      | none => simp [Stage.asks, hvideo] at asked
      | some found =>
        obtain ⟨-, rfl⟩ : e.method = "GET" ∧ address = found.text := by
          simpa [Stage.asks, hvideo] using asked
        exact ⟨found, e, rfl, rfl, sent⟩

/-- The job was completed by the last answer about it. -/
theorem of_running {job : Json} {status : JobStatus} (h : Proceeds c source s talk s')
    (hs : s = .running job) (hs' : s' = .completed status) :
    ∃ before polled, talk = before ++ [polled] ∧ polled.status? = some status := by
  induction h with
  | rest s =>
    rw [hs] at hs'
    cases hs'
  | @step s s' e talk address asked sent rest ih =>
    subst hs hs'
    unfold Exchange.status?
    rw [Stage.next, Stage.told] at rest ih
    cases hdocument : e.document? with
    | none =>
      rw [hdocument] at rest
      cases rest.of_stopped.2
    | some data =>
      rw [hdocument, Option.map_some, Option.getD_some] at rest ih
      cases hread : (Record.object JobStatus.read data).toExcept with
      | error error =>
        rw [hread] at rest
        cases rest.of_stopped.2
      | ok answered =>
        rw [hread] at rest ih
        dsimp only at rest ih
        unfold Stage.judged at rest ih
        cases hstate : answered.state with
        | completed =>
          rw [hstate] at rest
          rcases of_completed rest with ⟨rfl, hcompleted⟩ | hstopped | ⟨himported, -⟩
          · cases hcompleted
            exact ⟨[], e, rfl, by rw [hdocument]; simp [hread, Except.toOption]⟩
          · cases hstopped
          · cases himported
        | failed =>
          rw [hstate] at rest
          cases rest.of_stopped.2
        | created | uploaded | processing =>
          rw [hstate] at ih
          obtain ⟨before, polled, rfl, hpolled⟩ := ih rfl rfl
          exact ⟨e :: before, polled, rfl, hpolled⟩

end Removal.Proceeds

namespace Video

open Removal

variable {video : Video} {client : Client} {options : RemovalOptions} {telling : Bool}
  {interval webhook : Json} {context : Option ContextId}

/-- A preferred format is chosen. -/
theorem chooseFormat_preferred {id : ContextId} {f g : TransparentFormat} {w w' : World}
    (hprefer : options.prefer = .format g) (h : chooseFormat id options w = (.ok f, w')) :
    f = g := by
  unfold chooseFormat at h
  rw [hprefer] at h
  cases h
  rfl

/-- A removal that ends with a clip has asked for one format. The last status told where the
result is, and the last request fetched it. -/
theorem removal_fetches {w w' : World} {clip : Foreground}
    (h : video.removeBackground client options telling interval webhook context w =
      (.ok clip, w')) :
    ∃ (f : TransparentFormat) (id : ContextId) (status : JobStatus) (w₁ : World),
      w'.formats = w.formats ++ [.str f.name] ∧
      (∀ g, options.prefer = .format g → f = g) ∧
      importResult status id w₁ = (.ok clip, w') ∧
      ∃ (talk : List Exchange) (polled fetched : Exchange) (address : WebAddress),
        World.Talked w w' (talk ++ [polled, fetched]) ∧
        polled.status? = some status ∧ status.video = some address ∧
        Address.Target.prepare address.text [] = .ok fetched.url := by
  obtain ⟨id, w₁, hid, h⟩ := Act.bind_eq_ok h
  obtain ⟨f, w₂, hchoose, h⟩ := Act.bind_eq_ok h
  obtain ⟨_, w₃, hlog₁, h⟩ := Act.bind_eq_ok h
  obtain ⟨job, w₄, hcreate, h⟩ := Act.bind_eq_ok h
  obtain ⟨_, w₅, hlog₂, h⟩ := Act.bind_eq_ok h
  obtain ⟨settings, w₆, hsettings, h⟩ := Act.bind_eq_ok h
  obtain ⟨data, w₇, hstart, h⟩ := Act.bind_eq_ok h
  obtain ⟨_, w₈, hlog₃, h⟩ := Act.bind_eq_ok h
  obtain ⟨status, w₉, hwait, h⟩ := Act.bind_eq_ok h
  obtain ⟨_, w₁₀, hlog₄, himport⟩ := Act.bind_eq_ok h
  have hstarted : World.Asked w w₈ [.str f.name] := by
    have hchosen : World.Asked w w₃ [] :=
      ((Act.AsksNoFormat.silent (Context.silent_orDefault context)).of_run hid).trans
        (((Act.AsksNoFormat.silent (silent_chooseFormat options)).of_run hchoose).trans
          ((Act.AsksNoFormat.log _ _).of_run hlog₁))
    have hcreated : World.Asked w₃ w₆ [] :=
      ((createJob_asks video client id).of_run hcreate).trans
        (((Act.AsksNoFormat.log _ _).of_run hlog₂).trans
          ((Act.AsksNoFormat.ofExcept _).of_run hsettings))
    have hbackground := startRequest_background (Act.ofExcept_ok hsettings)
    exact hchosen.trans (hcreated.trans ((start_asks hbackground hstart).trans
      ((Act.AsksNoFormat.log _ _).of_run hlog₃)))
  have hwaited : World.Asked w₈ w₁₀ [] := ((client.wait_asks job interval none telling).of_run
    hwait).trans ((Act.AsksNoFormat.log _ _).of_run hlog₄)
  obtain ⟨-, -, -, -, -, -, -, -, himported⟩ := importResult_opens himport
  refine ⟨f, id, status, w₁₀, (hstarted.trans (hwaited.trans himported)).formats,
    fun g hprefer => chooseFormat_preferred hprefer hchoose, himport, ?_⟩
  -- the last question of the waiting is answered with the status that is imported
  have hpolling : (client.wait job interval none telling).Converses client "" (.running job)
      (fun status s' => s' = .completed status) := client.converses_wait ""
  obtain ⟨polls, s, htalked, hproceeds, hok⟩ := hpolling w₈
  rw [hwait] at htalked hok
  obtain rfl := hok status rfl
  obtain ⟨before, polled, rfl, hpolled⟩ := hproceeds.of_running rfl rfl
  have hfetching : (importResult status id).Converses client "" (.completed status)
      (fun _ s' => s' = .imported) := converses_importResult status
  obtain ⟨last, s', htalked', hproceeds', hok'⟩ := hfetching w₁₀
  rw [himport] at htalked' hok'
  obtain rfl := hok' clip rfl
  rcases hproceeds'.of_completed with
    ⟨-, hnever⟩ | hnever | ⟨-, address, fetched, rfl, hvideo, hsent⟩
  · cases hnever
  · cases hnever
  · obtain ⟨first, hfirst⟩ := hstarted.talked
    have hsilent : World.Talked w₉ w₁₀ [] := by
      have hlog : (Act.info "Job completed, downloading result..." w₉).2.traffic = w₉.traffic :=
        Act.silent_log .info _ w₉
      rw [hlog₄] at hlog
      exact .silent hlog
    refine ⟨first ++ before, polled, fetched, address, ?_, hpolled, hvideo, hsent⟩
    have htalk := hfirst.trans (htalked.trans (hsilent.trans htalked'))
    simpa using htalk

/-- A clip has the format of the address of the result, and a stacked video is taken for
granted if the address has no known extension. So it has the format that was asked for
exactly if the extension stands for that format, or tells nothing and a stacked video was
asked for. That temporary files have absolute paths matters because the clip is opened by
the path of its file. -/
theorem removal_format {w w' : World} {clip : Foreground}
    (h : video.removeBackground client options telling interval webhook context w =
      (.ok clip, w'))
    (hplaced : ∀ c ∈ w'.contexts, Path.isAbsolute (Path.normal c.directory) = true) :
    ∃ (f : TransparentFormat) (talk : List Exchange) (polled fetched : Exchange)
      (status : JobStatus) (address : WebAddress) (ext : String),
      w'.formats = w.formats ++ [.str f.name] ∧
      (∀ g, options.prefer = .format g → f = g) ∧
      World.Talked w w' (talk ++ [polled, fetched]) ∧
      polled.status? = some status ∧ status.video = some address ∧
      Address.Target.prepare address.text [] = .ok fetched.url ∧
      Locator.extension address.text = .ok ext ∧
      clip.format = (ForegroundFormat.ofExtension? ext).getD .stacked ∧
      (clip.format.name = f.name ↔
        (∃ g, ForegroundFormat.ofExtension? ext = some g ∧ g.name = f.name) ∨
          ForegroundFormat.ofExtension? ext = none ∧ f = .stackedVideo) := by
  obtain ⟨f, id, status, w₁, hformats, hprefer, himport, talk, polled, fetched, address, htalked,
    hpolled, hvideo, hsent⟩ := removal_fetches h
  obtain ⟨found, ext, hfound, hext, hclip⟩ := importResult_format himport hplaced
  obtain rfl : found = address := Option.some.inj (hfound.symm.trans hvideo)
  refine ⟨f, talk, polled, fetched, status, found, ext, hformats, hprefer, htalked, hpolled,
    hvideo, hsent, hext, hclip, ?_⟩
  rw [hclip]
  cases ForegroundFormat.ofExtension? ext with
  | some g => simp
  | none => cases f <;> decide

/-- A response with a document. -/
def replied (document : String) : HttpReply :=
  ⟨0, .ok { status := 200, reason := "OK", headers := []
            body := .bytes (document.toList.map fun c => UInt8.ofNat c.toNat) }⟩

/-- A world with a local video, in which a job is completed. The address of its result has no
extension, and the probing tool takes too long to tell anything about it. -/
def completed : World :=
  { World.initial with
    files := ⟨World.initial.files.entries ++ [(["/", "clip.mp4"], .file (.bytes []))]⟩
    runs := [("/tmp/processed_n0.mp4", [.timedOut ""])]
    contexts := [⟨"ffmpeg", "ffprobe", "/tmp", []⟩]
    exchanges := [
      ("POST https://a.example/v1/jobs",
        [replied "\x7b\"id\":\"j\",\"upload_url\":\"https://b.example/\"\x7d"]),
      ("PUT https://b.example/", [replied ""]),
      ("POST https://a.example/v1/jobs/j/start", [replied "\x7b\x7d"]),
      ("GET https://a.example/v1/jobs/j/status", [replied ("\x7b\"id\":\"j\",\"status\":" ++
        "\"completed\",\"filename\":\"\",\"created_at\":\"\"," ++
        "\"processed_video_url\":\"https://[::1]/result\"\x7d")]),
      ("GET https://[::1]/result", [replied ""])] }

/-- A removal for which a format with alpha in the stream is preferred. -/
def webmRemoval : Act Foreground :=
  removeBackground ⟨.file, "/clip.mp4"⟩ ⟨"https://a.example", .real 30, "key"⟩
    ⟨.format .webmVp9, none⟩ false (.int 2) .null (some ⟨0⟩)

/-- What is left of a removal: the format of its clip, its last request, and whether all
contexts have absolute directories. -/
def outcome (run : Except Fault Foreground × World) :
    Option ForegroundFormat × Option (String × String) × Bool :=
  (run.1.toOption.map Foreground.format, (Event.requests run.2.events).getLast?,
    run.2.contexts.all fun c => Path.isAbsolute (Path.normal c.directory))

/-- The result is fetched, and taken for a stacked video. -/
theorem outcome_webmRemoval : outcome (webmRemoval completed) =
    (some .stacked, some ("GET", "https://[::1]/result"), true) := by decide +kernel

theorem ok_of_outcome {run : Except Fault Foreground × World} {format : ForegroundFormat}
    {request : String × String} (h : outcome run = (some format, some request, true)) :
    ∃ clip w', run = (.ok clip, w') ∧ clip.format = format ∧
      (Event.requests w'.events).getLast? = some request ∧
      ∀ c ∈ w'.contexts, Path.isAbsolute (Path.normal c.directory) = true := by
  obtain ⟨hformat, hrest⟩ := Prod.ext_iff.mp h
  obtain ⟨hlast, hplaced⟩ := Prod.ext_iff.mp hrest
  obtain ⟨clip, hclip, hstacked⟩ := Option.map_eq_some_iff.mp hformat
  exact ⟨clip, run.2, Prod.ext (ok_of_toOption hclip) rfl, hstacked, hlast,
    List.all_eq_true.mp hplaced⟩

theorem removal_format_completed : ∃ clip w', webmRemoval completed = (.ok clip, w') ∧
    (∀ c ∈ w'.contexts, Path.isAbsolute (Path.normal c.directory) = true) ∧
    ∃ (f : TransparentFormat) (talk : List Exchange) (polled fetched : Exchange)
      (status : JobStatus) (address : WebAddress) (ext : String),
      w'.formats = completed.formats ++ [.str f.name] ∧
      (∀ g, Preference.format .webmVp9 = .format g → f = g) ∧
      World.Talked completed w' (talk ++ [polled, fetched]) ∧
      polled.status? = some status ∧ status.video = some address ∧
      Address.Target.prepare address.text [] = .ok fetched.url ∧
      Locator.extension address.text = .ok ext ∧
      clip.format = (ForegroundFormat.ofExtension? ext).getD .stacked ∧
      (clip.format.name = f.name ↔
        (∃ g, ForegroundFormat.ofExtension? ext = some g ∧ g.name = f.name) ∨
          ForegroundFormat.ofExtension? ext = none ∧ f = .stackedVideo) := by
  obtain ⟨clip, w', h, -, -, hplaced⟩ := ok_of_outcome outcome_webmRemoval
  exact ⟨clip, w', h, hplaced, removal_format h hplaced⟩

/-- A result whose address has no known extension need not have the format that was asked
for. -/
theorem nameless_result_mistaken : ¬ ∀ (video : Video) (client : Client) (options : RemovalOptions)
    (telling : Bool) (interval webhook : Json) (context : Option ContextId) (w w' : World)
    (clip : Foreground) (f : TransparentFormat) (url ext : String),
    video.removeBackground client options telling interval webhook context w = (.ok clip, w') →
    w'.formats = w.formats ++ [.str f.name] →
    (Event.requests w'.events).getLast? = some ("GET", url) → Locator.extension url = .ok ext →
    ForegroundFormat.ofExtension? ext = none → clip.format.name = f.name := by
  intro hall
  obtain ⟨clip, w', h, hstacked, hlast, -⟩ := ok_of_outcome outcome_webmRemoval
  obtain ⟨f, -, -, -, hformats, hprefer, -⟩ := removal_fetches h
  obtain rfl := hprefer .webmVp9 rfl
  have hext : Locator.extension "https://[::1]/result" = .ok "" :=
    ok_of_toOption (by decide +kernel)
  have hname := hall _ _ _ _ _ _ _ _ _ _ _ _ _ h hformats hlast hext (by decide)
  rw [hstacked] at hname
  exact absurd hname (by decide)

end Video

end Compositor
