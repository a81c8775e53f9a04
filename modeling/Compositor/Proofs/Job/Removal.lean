import Compositor.Proofs.Job.Waiting

/-!
# A removal keeps to the protocol

From the first question for the source to the download of the result, every request of a
removal is one that its stage allows. A clip comes out only at the last stage.
-/
namespace Compositor

open Act.Speaks (send exchange request)

/-! ## Downloads -/

namespace Download

variable {c : Client} {video : Video} {url : String} {s : Removal.Stage}

/-- A response of which something is missing is not stored. -/
theorem store_whole {path : String} {response : Response} {w : World}
    (h : (store url path response w).1 = .ok ()) : response.whole = .ok response := by
  rw [store, Act.getThe_bind] at h
  cases hwrite : w.files.write path response.body with
  | error e =>
    rw [hwrite] at h
    cases h
  | ok files =>
    rw [hwrite] at h
    obtain ⟨u, w₁, -, h⟩ := Act.bind_ok h
    unfold Response.whole at h ⊢
    cases hcut : response.cut with
    | none => rfl
    | some failure =>
      rw [hcut] at h
      cases h

theorem speaks_fetch (hasked : ("GET", url) ∈ s.visits video) (timeout : Json) :
    (fetch url timeout).Speaks c video s fun response s' => ∃ e : Exchange,
      e.method = "GET" ∧ e.arrived? = some response ∧
        (400 ≤ response.status && response.status < 600) = false ∧ s' = s.next e := by
  refine (send (.visit hasked rfl)).bind fun reply s' hheard => ?_
  match reply, hheard with
  | .error error, _ => exact .fail _
  | .ok (response, target), ⟨e, hmethod, harrived, hs⟩ =>
    dsimp only
    unfold Response.checkStatus
    cases hstatus : (400 ≤ response.status && response.status < 600 : Bool) with
    | true => exact .fail _
    | false => exact .pure ⟨e, hmethod, harrived, hstatus, hs⟩

/-- A download is one exchange that has not failed. -/
theorem speaks_toFile (hasked : ("GET", url) ∈ s.visits video) {makePath : Json → Act String}
    {good : String → Prop} (hsilent : ∀ ext, (makePath ext).IsSilent)
    (hgood : ∀ ext w path, (makePath ext w).1 = .ok path → good path) (default timeout : Json) :
    (toFile url makePath default timeout).Speaks c video s fun path s' =>
      good path ∧ ∃ e : Exchange, e.method = "GET" ∧ e.failed = false ∧ s' = s.next e := by
  refine .after (Act.silent_log _ _) fun _ _ _ => (speaks_fetch hasked timeout).bind ?_
  rintro response s' ⟨e, hmethod, harrived, hstatus, hs⟩
  refine .ofExcept_bind fun ext _ => .after (hsilent ext) fun w path hpath => ?_
  refine .after (.store World.traffic_hidesFiles _ _ _) fun w' u hstore => .pure ?_
  refine ⟨hgood ext w path hpath, e, hmethod, ?_, hs⟩
  have hresponse : e.response? = some response := by
    rw [Exchange.response?, harrived, Option.bind_some, store_whole hstore]
    rfl
  rw [Exchange.failed_of_response hresponse, hstatus]

end Download

namespace Removal

variable {c : Client} {video : Video} {context : ContextId}

theorem silent_toolLists (flag name : String) : (toolLists context flag name).IsSilent := by
  refine .bind (.contextId _) fun _ => .bind (Act.silent_runCommand _ _) fun reply => ?_
  split
  · exact .pure _
  · exact .bind (Act.silent_log _ _) fun _ => .pure _
  · exact .bind (Act.silent_log _ _) fun _ => .pure _

theorem silent_chooseFormat (options : RemovalOptions) :
    (chooseFormat context options).IsSilent := by
  have hwrites : (toolWritesAlpha context).IsSilent :=
    .bind (silent_toolLists _ _) fun _ => .ite (silent_toolLists _ _) (.pure _)
  unfold chooseFormat
  split
  · exact .pure _
  · exact .bind hwrites fun _ => .ite (.bind (Act.silent_log _ _) fun _ => .pure _)
      (.bind (Act.silent_log _ _) fun _ => .pure _)

/-! ## Creating the job -/

/-- Where the answer to the question for the source leads. -/
theorem Stage.next_head {e : Exchange} (hmethod : e.method = "HEAD") :
    Stage.opened.next e = if e.allowsLink then .linkable else .unlinkable := by
  rw [next, if_pos (by simp [hmethod])]

/-- A failed or refused question for the source leads to an upload. -/
theorem speaks_isPublic (hurl : video.kind = .url) :
    (isPublic video.source).Speaks c video .opened fun linked s' =>
      if linked then s' = .linkable else s' = .opened ∨ s' = .unlinkable := by
  have hasked : ("HEAD", video.source) ∈ Stage.opened.visits video := by
    simp [Stage.visits, hurl]
  refine (exchange (.visit hasked rfl)).bind fun reply s' hheard => ?_
  rcases reply with error | ⟨response, target⟩
  · refine .after (Act.silent_log _ _) fun _ _ _ => .pure (hheard.imp_right ?_)
    rintro ⟨e, hmethod, hnone, rfl⟩
    rw [Stage.next_head hmethod, Exchange.allowsLink, hnone]
    rfl
  · obtain ⟨e, hmethod, hresponse, hs⟩ := hheard
    rw [Stage.next_head hmethod] at hs
    dsimp only
    by_cases hstatus : (response.status != 200 && response.status != 204) = true
    · have hallows : e.allowsLink = false := by
        rw [Exchange.allowsLink_of_response hresponse]
        simp_all
      rw [if_pos hstatus]
      exact .pure (.inr (by rw [hs, hallows]; rfl))
    · rw [if_neg hstatus]
      refine .ofExcept_bind fun tooLarge hlength => .pure ?_
      have hallows : e.allowsLink = !tooLarge := by
        rw [Exchange.allowsLink_of_response hresponse, hlength]
        simp at hstatus ⊢
        tauto
      rw [hs, hallows]
      cases tooLarge with
      | true => exact .inr rfl
      | false => rfl

theorem speaks_createLinkJob :
    (createLinkJob video.source c).Speaks c video .linkable fun job s' =>
      ∃ answer, field answer "id" = .ok job ∧ s' = .ready answer := by
  refine .ofExcept_bind fun record _ => (request List.mem_cons_self).bind ?_
  rintro answer s' ⟨e, -, hdocument, rfl⟩
  refine .silent (.ofExcept _) fun w job hjob => ⟨answer, Act.ofExcept_ok (Prod.ext hjob rfl), ?_⟩
  simp [Stage.next, Stage.told, hdocument]

/-- The source is at hand, and the video can be uploaded next. -/
theorem speaks_localVideo {answer : Json} (context : ContextId) :
    (localVideo video.source context).Speaks c video (.reserved answer) fun _ s' =>
      s' = .fetched answer ∨ s' = .reserved answer ∧ isRemote video.source = false := by
  refine .ofExcept_bind fun type htype => ?_
  by_cases hurl : type = .url
  · subst hurl
    have hremote : isRemote video.source = true := by rw [isRemote, htype]
    have hasked : ("GET", video.source) ∈ (Stage.reserved answer).visits video := by
      simp [Stage.visits, hremote]
    refine (Download.speaks_toFile hasked (fun _ => Context.silent_tempPath _ _ _)
      (fun _ _ _ _ => trivial) _ _).weaken ?_
    rintro path s' ⟨-, e, hmethod, hfailed, rfl⟩
    exact .inl (by simp [Stage.next, Stage.unlessFailed, hmethod, hfailed])
  · rw [if_neg (by simpa using hurl)]
    refine .pure (.inr ⟨rfl, ?_⟩)
    rw [isRemote, htype]
    cases type <;> simp_all

/-- What was uploaded belongs to a job that can be started. -/
theorem speaks_upload {answer target : Json} (htarget : field answer "upload_url" = .ok target)
    (contentType : String) (context : ContextId) :
    (upload target.text video.source contentType context).Speaks c video (.reserved answer)
      fun _ s' => s' = .ready answer := by
  refine (speaks_localVideo context).bind fun path s' hs' => .after .look fun w files _ => ?_
  have hasked : ("PUT", target.text) ∈ s'.visits video := by
    rcases hs' with rfl | ⟨rfl, hlocal⟩
    · simp [Stage.visits, Stage.uploads, htarget]
    · simp [Stage.visits, Stage.uploads, htarget, hlocal]
  have hnext {e : Exchange} (hmethod : e.method = "PUT") (hfailed : e.failed = false) :
      s'.next e = .ready answer := by
    rcases hs' with rfl | ⟨rfl, -⟩ <;> simp [Stage.next, Stage.unlessFailed, hmethod, hfailed]
  cases files.files.read path with
  | error e => exact .fail _
  | ok content =>
    refine (exchange (.visit hasked (Request.keys_contentType _))).bind fun reply s'' hheard => ?_
    cases reply with
    | error error => exact .fail _
    | ok answered =>
      obtain ⟨response, url⟩ := answered
      obtain ⟨e, hmethod, hresponse, hs⟩ := hheard
      dsimp only [bind, Except.bind]
      unfold Response.checkStatus
      rw [← Exchange.failed_of_response hresponse]
      cases hfailed : e.failed with
      | true => exact .fail _
      | false => exact .pure (hs.trans (hnext hmethod hfailed))

theorem speaks_createUploadJob {s : Stage} (hs : s = .opened ∨ s = .unlinkable) :
    (createUploadJob video.source c context).Speaks c video s fun job s' =>
      ∃ answer, field answer "id" = .ok job ∧ s' = .ready answer := by
  have hasked : ("POST", c.baseUrl ++ "/v1/jobs") ∈ s.calls c := by
    rcases hs with rfl | rfl <;> exact List.mem_cons_self
  have hnext {e : Exchange} (hmethod : e.method = "POST") {answer : Json}
      (hdocument : e.document? = some answer) : s.next e = .reserved answer := by
    rcases hs with rfl | rfl <;> simp [Stage.next, Stage.told, hmethod, hdocument]
  refine .ofExcept_bind fun name _ => (request hasked).bind ?_
  rintro answer s' ⟨e, hmethod, hdocument, rfl⟩
  rw [hnext hmethod hdocument]
  refine .ofExcept_bind fun target htarget => (speaks_upload htarget _ context).bind ?_
  rintro _ s' rfl
  exact .silent (.ofExcept _) fun w job hjob =>
    ⟨answer, Act.ofExcept_ok (Prod.ext hjob rfl), rfl⟩

theorem speaks_createJob :
    (createJob video c context).Speaks c video .opened fun job s' =>
      ∃ answer, field answer "id" = .ok job ∧ s' = .ready answer := by
  unfold createJob
  by_cases hurl : video.kind = .url
  · rw [if_pos (by simpa using hurl)]
    refine (speaks_isPublic hurl).bind fun linked s' hs' => ?_
    cases linked with
    | true =>
      obtain rfl : s' = .linkable := hs'
      exact speaks_createLinkJob
    | false => exact speaks_createUploadJob hs'
  · rw [if_neg (by simpa using hurl)]
    exact .after (.pure _) fun w linked hlinked => by
      cases hlinked
      exact speaks_createUploadJob (.inl rfl)

/-! ## Running the job -/

theorem speaks_start {answer job : Json} (hjob : field answer "id" = .ok job)
    (settings : Option StartRequest) :
    (c.start job settings).Speaks c video (.ready answer) fun _ s' => s' = .running job := by
  refine (request (by simp [Stage.calls, hjob])).weaken ?_
  rintro data s' ⟨e, -, hdocument, rfl⟩
  simp [Stage.next, Stage.told, hdocument, hjob]

/-- A result is stored under an extension without a slash. -/
theorem resultExtension_plain {url ext : String} (h : resultExtension url = .ok ext) :
    Path.IsPlain ext := by
  obtain ⟨found, -, h⟩ := bind_eq_ok.mp h
  have hall : ∀ e ∈ ".mp4" :: resultExtensions, Path.IsPlain e := by
    unfold Path.IsPlain resultExtensions
    decide
  cases h
  split
  · rename_i hknown
    exact hall _ (List.mem_cons_of_mem _ (List.contains_iff_mem.mp hknown))
  · exact hall _ List.mem_cons_self

theorem tempPath_spaced {ext : String} (hext : Path.IsPlain ext) {w : World} {path : String}
    (h : (Context.tempPath context ext "processed_" w).1 = .ok path) : Path.IsSpaced path := by
  obtain ⟨c, w₁, -, h⟩ := Act.bind_ok h
  exact Act.freshFile_spaced (by unfold Path.IsPlain; decide) hext h

/-- The result is fetched once, and opening it takes no other request. -/
theorem speaks_importResult (status : JobStatus) :
    (importResult status context).Speaks c video (.completed status) fun _ s' =>
      s' = .imported := by
  unfold importResult
  cases hvideo : status.video with
  | none => exact .fail _
  | some address =>
    have hasked : ("GET", address.text) ∈ (Stage.completed status).visits video := by
      simp [Stage.visits, hvideo]
    refine .ofExcept_bind fun ext hext => ?_
    refine (Download.speaks_toFile hasked (fun _ => Context.silent_tempPath _ _ _)
      (fun _ _ _ => tempPath_spaced (resultExtension_plain hext)) _ _).bind ?_
    rintro path s' ⟨hspaced, e, -, hfailed, rfl⟩
    refine .silent (.ofLocator World.traffic_hidesTools hspaced _) fun _ _ _ => ?_
    simp [Stage.next, Stage.unlessFailed, hfailed]

theorem converses_importResult {source : String} (status : JobStatus) :
    (importResult status context).Converses c source (.completed status) fun _ s' =>
      s' = .imported := by
  have hspeaks : (importResult status context).Speaks c ⟨.file, source⟩ (.completed status)
      fun _ s' => s' = .imported := speaks_importResult status
  exact hspeaks.converses nofun

end Removal

namespace Video

open Removal

/-- A removal of any video keeps to the protocol, with the key on its calls alone. -/
theorem speaks_removeBackground (video : Video) (client : Client) (options : RemovalOptions)
    (telling : Bool) (interval webhook : Json) (context : Option ContextId) :
    (video.removeBackground client options telling interval webhook context).Speaks client video
      .opened fun _ s' => s' = .imported := by
  refine .after (Context.silent_orDefault _) fun _ context _ => ?_
  refine .after (silent_chooseFormat options) fun _ format _ => ?_
  refine .after (Act.silent_log _ _) fun _ _ _ => speaks_createJob.bind ?_
  rintro job s' ⟨answer, hjob, rfl⟩
  refine .after (Act.silent_log _ _) fun _ _ _ => .ofExcept_bind fun settings _ => ?_
  refine (speaks_start hjob settings).bind ?_
  rintro _ s' rfl
  refine .after (Act.silent_log _ _) fun _ _ _ => (Client.speaks_wait video).bind ?_
  rintro status s' rfl
  exact .after (Act.silent_log _ _) fun _ _ _ => speaks_importResult status

variable {source : String} {video : Video}

theorem ofLocator_ok (h : ofLocator source = .ok video) :
    video.source = source ∧ (video.kind = .url → isRemote source = true) := by
  obtain ⟨type, htype, h⟩ := bind_eq_ok.mp h
  cases h
  rw [isRemote, htype]
  cases type <;> simp

theorem converses_removeBackground (h : ofLocator source = .ok video) (client : Client)
    (options : RemovalOptions) (telling : Bool) (interval webhook : Json)
    (context : Option ContextId) :
    (video.removeBackground client options telling interval webhook context).Converses client source
      .opened fun _ s' => s' = .imported := by
  obtain ⟨rfl, hkind⟩ := ofLocator_ok h
  exact (speaks_removeBackground video client options telling interval webhook context).converses
    hkind

/-- What a removal says to servers keeps to the protocol, whatever they answer, and so does
every part of it. Nothing follows an exchange that has failed but the question for the
source, and a clip comes out only at the end, when nothing but that question has failed. -/
theorem removal_ordered (h : ofLocator source = .ok video) (client : Client)
    (options : RemovalOptions) (telling : Bool) (interval webhook : Json)
    (context : Option ContextId) (w : World) :
    let run := video.removeBackground client options telling interval webhook context w
    ∃ talk stage, World.Talked w run.2 talk ∧ Proceeds client source .opened talk stage ∧
      (∀ before e after, talk = before ++ e :: after → e.failed = true → e.method ≠ "HEAD" →
        after = []) ∧
      ((∃ clip, run.1 = .ok clip) → stage = .imported ∧
        ∀ e ∈ talk, e.method ≠ "HEAD" → e.failed = false) := by
  intro run
  obtain ⟨talk, stage, htalked, hproceeds, hok⟩ :=
    converses_removeBackground h client options telling interval webhook context w
  refine ⟨talk, stage, htalked, hproceeds, ?_, ?_⟩
  · rintro before e after rfl hfailed hmethod
    exact (hproceeds.failed_last hfailed hmethod).1
  · rintro ⟨clip, hclip⟩
    obtain rfl := hok clip hclip
    refine ⟨rfl, fun e he hmethod => ?_⟩
    obtain ⟨before, after, rfl⟩ := List.append_of_mem he
    cases hfailed : e.failed with
    | false => rfl
    | true => exact absurd (hproceeds.failed_last hfailed hmethod).2 nofun

/-- A video on the web. -/
def linked : Video := ⟨.url, "https://a.example/clip.mp4"⟩

theorem linked_eq : ofLocator "https://a.example/clip.mp4" = .ok linked := by rfl

/-- A world in which nobody may fetch that video, and in which the service is down. -/
def forbidden : World :=
  { World.initial with
    contexts := [⟨"ffmpeg", "ffprobe", "/tmp", []⟩]
    exchanges := [
      ("HEAD https://a.example/clip.mp4",
        [⟨0, .ok { status := 403, reason := "Forbidden", headers := [], body := .bytes [] }⟩]),
      ("POST https://api.example/v1/jobs",
        [⟨0, .ok { status := 503, reason := "Unavailable", headers := [], body := .bytes [] }⟩])] }

/-- A removal of the background of that video. -/
def attempt : Act Foreground :=
  linked.removeBackground ⟨"https://api.example", .real 30, "key"⟩ ⟨.format .webmVp9, none⟩ false
    (.int 2) .null (some ⟨0⟩)

theorem removal_ordered_forbidden : ofLocator "https://a.example/clip.mp4" = .ok linked ∧
    ∃ talk stage, World.Talked forbidden (attempt forbidden).2 talk ∧
      Proceeds ⟨"https://api.example", .real 30, "key"⟩ "https://a.example/clip.mp4" .opened talk
        stage ∧
      (∀ before e after, talk = before ++ e :: after → e.failed = true → e.method ≠ "HEAD" →
        after = []) ∧
      ((∃ clip, (attempt forbidden).1 = .ok clip) → stage = .imported ∧
        ∀ e ∈ talk, e.method ≠ "HEAD" → e.failed = false) :=
  ⟨linked_eq, removal_ordered linked_eq _ _ _ _ _ _ _⟩

-- the video would be uploaded, but no job can be created for it
example : (Event.requests (attempt forbidden).2.events).map Prod.fst = ["HEAD", "POST"] := by
  decide +kernel

end Video

end Compositor
