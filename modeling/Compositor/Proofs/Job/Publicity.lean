import Compositor.Proofs.Decimal.Digits
import Compositor.Proofs.Job.Requesting

/-!
# Whether a video is public

Before a job is created for a video on the web, its server is asked for the video. If the answer
is a success that announces no more than the service fetches, the service is told the address,
and otherwise the video is uploaded. One kind of answer ends the removal before anything is
posted: a length of characters that all count as digits, but are not read as a number, because
one of them is no decimal digit or because there are too many.
-/
namespace Compositor

variable {α β : Type}

/-! ## What is posted -/

/-- What is posted, and to which address. -/
def Event.post? : Event → Option (String × Body)
  | .request method url _ body _ => if method = "POST" then some (url, body) else none
  | _ => none

namespace World

/-- What was posted up to now. -/
def posts (w : World) : List (String × Body) := w.events.filterMap Event.post?

theorem posts_append {w w' : World} {events : List Event} (h : w'.events = w.events ++ events) :
    w'.posts = w.posts ++ events.filterMap Event.post? := by
  rw [posts, h, List.filterMap_append]
  rfl

theorem posts_hidesFiles : HidesFiles posts := by
  refine ⟨fun _ _ => rfl, fun _ _ => rfl, fun w level text => ?_⟩
  exact (posts_append rfl).trans (List.append_nil _)

end World

/-- Whatever a request posts, it posts itself, and the requests with which it is sent on are not
counted. -/
theorem Sending.record_posts (s : Sending) (timeout : Json) (hops : List Sending) :
    (s.record timeout hops).filterMap Event.post? =
      if s.method = "POST" then [(s.url, s.body)] else [] := by
  have hhops : (hops.map fun hop =>
      Event.hop hop.method hop.url hop.headers hop.body timeout).filterMap Event.post? = [] := by
    simp [Event.post?, List.filterMap_map, Function.comp_def]
  rw [record, List.filterMap_cons, hhops]
  by_cases hpost : s.method = "POST" <;> simp [Event.post?, hpost]

/-- Only a request with the method `POST` posts something. -/
theorem Request.leaves_posts {r : Request} {events : List Event} (h : r.Leaves events)
    (hpost : r.method ≠ "POST") : events.filterMap Event.post? = [] := by
  unfold Leaves at h
  split at h
  · obtain ⟨hops, rfl⟩ := h
    rw [Sending.record_posts, if_neg hpost]
  · rw [h, List.filterMap_nil]

namespace Act.Keeps

theorem send_posts {r : Request} (h : r.method ≠ "POST") : (Act.send r).Keeps World.posts := by
  intro w
  obtain ⟨events, hevents, hleaves⟩ := send_records r w
  rw [World.posts_append hevents, Request.leaves_posts hleaves h, List.append_nil]

theorem exchange_posts {r : Request} (h : r.method ≠ "POST") :
    (exchange r).Keeps World.posts := by
  intro w
  obtain ⟨events, hevents, hleaves⟩ := exchange_records r w
  rw [World.posts_append hevents, Request.leaves_posts hleaves h, List.append_nil]

end Act.Keeps

/-- The request ends in a failure that is not known to the library that sends it. -/
def Request.Escapes (r : Request) (w : World) : Prop :=
  ∃ url, Address.Target.prepare r.url r.fields = .ok url ∧ headerError? r.headers = none ∧
    ∃ text, (w.courseOf ⟨r.method, url, r.headers, r.body⟩).outcome = .error (none, text)

theorem Ending.answer_cases (e : Ending) :
    (∃ text, e.outcome = .error (none, text)) ∧ e.answer = .error .wrongValue ∨
      (¬ ∃ text, e.outcome = .error (none, text)) ∧ ∃ reply, e.answer = .ok reply := by
  rw [Ending.answer]
  cases e.outcome with
  | ok response => exact .inr ⟨by simp, _, rfl⟩
  | error failure =>
    obtain ⟨family, text⟩ := failure
    cases family with
    | none => exact .inl ⟨⟨text, rfl⟩, rfl⟩
    | some family => exact .inr ⟨by simp, _, rfl⟩

/-- Only such a failure ends the sender of a request. -/
theorem Act.send_answers (r : Request) (w : World) :
    r.Escapes w ∧ (send r w).1 = .error .wrongValue ∨
      ¬ r.Escapes w ∧ ∃ reply, (send r w).1 = .ok reply := by
  cases htarget : Address.Target.prepare r.url r.fields with
  | error e =>
    refine .inr ⟨?_, .error (.target e), ?_⟩
    · rintro ⟨url, hurl, -⟩
      cases htarget.symm.trans hurl
    · rw [send, htarget]
      rfl
  | ok url =>
    cases hheaders : Request.headerError? r.headers with
    | some e =>
      refine .inr ⟨?_, .error e, ?_⟩
      · rintro ⟨url, -, hnone, -⟩
        cases hheaders.symm.trans hnone
      · rw [send, htarget]
        dsimp only
        rw [hheaders]
        rfl
    | none =>
      have hescapes : r.Escapes w ↔ ∃ text,
          (w.courseOf ⟨r.method, url, r.headers, r.body⟩).outcome = .error (none, text) := by
        refine ⟨?_, fun hfails => ⟨url, htarget, hheaders, hfails⟩⟩
        rintro ⟨url', hurl, -, hfails⟩
        obtain rfl := Except.ok.inj (htarget.symm.trans hurl)
        exact hfails
      rw [hescapes, send_apply htarget hheaders]
      exact Ending.answer_cases _

theorem Act.exchange_answers (r : Request) (w : World) :
    r.Escapes w ∧ (∃ w', exchange r w = (.error .wrongValue, w')) ∨
      ¬ r.Escapes w ∧ ∃ answer w', exchange r w = (.ok answer, w') := by
  rw [exchange, bind_apply]
  refine (send_answers r w).imp (And.imp_right fun hfault => ?_) (And.imp_right fun hsent => ?_)
  · match hsend : send r w with
    | (.error e, w') =>
      rw [hsend] at hfault
      cases hfault
      exact ⟨w', rfl⟩
    | (.ok reply, w') =>
      rw [hsend] at hfault
      cases hfault
  · obtain ⟨reply, hreply⟩ := hsent
    match hsend : send r w with
    | (.error e, w') =>
      rw [hsend] at hreply
      cases hreply
    | (.ok reply', w') =>
      rcases reply' with error | ⟨response, url⟩ <;> exact ⟨_, _, rfl⟩

/-- What follows an action and posts nothing leaves the list of what was posted. -/
theorem Act.bind_posts {x : Act α} {f : α → Act β} {w : World} {posted : List (String × Body)}
    (hx : (x w).2.posts = posted) (hf : ∀ a, (f a).Keeps World.posts) :
    ((x >>= f) w).2.posts = posted :=
  bind_stays (P := fun w' => w'.posts = posted) hx fun a w' h => (hf a w').trans h

theorem Act.ok_bind (a : α) (f : α → Act β) : (Act.ofExcept (.ok a) >>= f) = f a := rfl

/-- A client whose requests for new jobs can be sent. -/
structure Client.Reaches (c : Client) (target : String) : Prop where
  address : Address.Target.prepare (c.baseUrl ++ "/v1/jobs") [] = .ok target
  headers : Request.headerError? (c.headers (.json .null)) = none

theorem Client.create_posts {c : Client} {target : String} (h : c.Reaches target) (job : Json)
    (w : World) : (c.create job w).2.posts = w.posts ++ [(target, .json job)] := by
  obtain ⟨events, hevents, hleaves⟩ := c.request_records "POST" "/v1/jobs" [] (.json job) w
  have hheaders : Request.headerError? (c.headers (.json job)) = none := h.headers
  rw [Request.Leaves, h.address, hheaders] at hleaves
  obtain ⟨hops, rfl⟩ := hleaves
  rw [create, World.posts_append hevents, Sending.record_posts, if_pos rfl]

namespace Removal

/-! ## The length that a server announces -/

/-- The number of bytes that a length is, if all its characters are decimal digits. -/
def byteCount? (length : String) : Option Nat :=
  if length.toList ≠ [] ∧ length.toList.all (fun c => (Text.decimalValue? c).isSome) then
    some (Text.number length.toList)
  else none

/-- A length whose characters count as digits, but which is not read as a number. -/
structure Unreadable (length : String) : Prop where
  nonempty : length.toList ≠ []
  digits : Text.DigitLike length.toList
  unread : (∃ c ∈ length.toList, Text.decimalValue? c = none) ∨
    Decimal.digitLimit < length.toList.length

variable {length : String}

theorem digitLike_of_decimal {cs : List Char} (h : ∀ c ∈ cs, (Text.decimalValue? c).isSome) :
    Text.DigitLike cs := by
  intro c hc
  rw [Text.isDigitLike, h c hc, Bool.true_or]

theorem isTooLarge_of_digits (hne : length.toList ≠ []) (hdigits : Text.DigitLike length.toList) :
    isTooLarge (some length) = match Decimal.readInt? length with
      | some n => .ok (decide (maxLinkBytes < n))
      | none => .error .wrongValue := by
  have hempty : length.isEmpty = false := by
    rw [Bool.eq_false_iff]
    intro h
    exact hne (String.toList_eq_nil_iff.mpr (String.isEmpty_iff.mp h))
  have hall : length.toList.all Text.isDigitLike = true := List.all_eq_true.mpr hdigits
  rw [isTooLarge, hempty, hall]
  change (Json.toInt (.str length) >>= fun n => Except.ok (decide (maxLinkBytes < n))) = _
  rw [Json.toInt]
  cases Decimal.readInt? length <;> rfl

theorem isTooLarge_unreadable (h : Unreadable length) :
    isTooLarge (some length) = .error .wrongValue := by
  have hread : ¬ (length.toList.all (fun c => (Text.decimalValue? c).isSome) ∧
      length.toList.length ≤ Decimal.digitLimit) := by
    rintro ⟨hdecimal, hshort⟩
    rcases h.unread with ⟨c, hc, hnone⟩ | hlong
    · have hsome := List.all_eq_true.mp hdecimal c hc
      rw [hnone] at hsome
      cases hsome
    · omega
  rw [isTooLarge_of_digits h.nonempty h.digits, Decimal.readInt?_digits h.digits h.nonempty,
    if_neg hread]

theorem isTooLarge_readable (h : ¬ Unreadable length) :
    ∃ large, isTooLarge (some length) = .ok large ∧
      (large = false ↔ ∀ n ∈ byteCount? length, n ≤ 1000000000) := by
  by_cases hdigits : length.toList ≠ [] ∧ Text.DigitLike length.toList
  · obtain ⟨hne, hdigits⟩ := hdigits
    have hread : length.toList.all (fun c => (Text.decimalValue? c).isSome) ∧
        length.toList.length ≤ Decimal.digitLimit := by
      constructor
      · refine List.all_eq_true.mpr fun c hc => ?_
        by_contra hnone
        exact h ⟨hne, hdigits, .inl ⟨c, hc, by simpa using hnone⟩⟩
      · by_contra hlong
        exact h ⟨hne, hdigits, .inr (not_le.mp hlong)⟩
    have hcount : byteCount? length = some (Text.number length.toList) := if_pos ⟨hne, hread.1⟩
    refine ⟨_, by rw [isTooLarge_of_digits hne hdigits, Decimal.readInt?_digits hdigits hne,
      if_pos hread], ?_⟩
    rw [hcount, decide_eq_false_iff_not]
    simp only [Option.mem_def, Option.some.injEq, forall_eq', maxLinkBytes]
    omega
  · have hcount : byteCount? length = none :=
      if_neg fun hdecimal =>
        hdigits ⟨hdecimal.1, digitLike_of_decimal (List.all_eq_true.mp hdecimal.2)⟩
    have hnodigits : (length.isEmpty || !length.toList.all Text.isDigitLike) = true := by
      by_contra hboth
      rw [Bool.not_eq_true, Bool.or_eq_false_iff, Bool.not_eq_false'] at hboth
      obtain ⟨hempty, hall⟩ := hboth
      refine hdigits ⟨fun hnil => ?_, List.all_eq_true.mp hall⟩
      rw [String.isEmpty_iff.mpr (String.toList_eq_nil_iff.mp hnil)] at hempty
      cases hempty
    refine ⟨false, by rw [isTooLarge, if_pos hnodigits], ?_⟩
    rw [hcount]
    simp

/-! ## The answer of the server -/

/-- The question for a video. -/
def question (url : String) : Request := ⟨"HEAD", url, [], [], .none, .int 5⟩

/-- What the server of a video answers. -/
abbrev Answer := Except RequestError (Response × String)

/-- The answer is a success that announces no length above the limit. -/
def MayFetch (answer : Answer) : Prop :=
  ∃ response url, answer = .ok (response, url) ∧ (response.status = 200 ∨ response.status = 204) ∧
    ∀ length ∈ response.header? "Content-Length", ∀ n ∈ byteCount? length, n ≤ 1000000000

/-- The answer is a success that announces a length which cannot be read. -/
def Trips (answer : Answer) : Prop :=
  ∃ response url, answer = .ok (response, url) ∧ (response.status = 200 ∨ response.status = 204) ∧
    ∃ length ∈ response.header? "Content-Length", Unreadable length

/-- What follows from an answer. -/
def judgeAnswer : Answer → Except Fault Bool
  | .error _ => .ok false
  | .ok (response, _) =>
    if response.status != 200 && response.status != 204 then .ok false
    else (isTooLarge (response.header? "Content-Length")).map (!·)

theorem judgeAnswer_success {response : Response}
    (h : response.status = 200 ∨ response.status = 204) (url : String) :
    judgeAnswer (.ok (response, url)) =
      (isTooLarge (response.header? "Content-Length")).map (!·) := by
  have hsuccess : (response.status != 200 && response.status != 204) = false := by
    rcases h with h | h <;> rw [h] <;> rfl
  rw [judgeAnswer, hsuccess, if_neg Bool.false_ne_true]

theorem judgeAnswer_trips {answer : Answer} (h : Trips answer) :
    judgeAnswer answer = .error .wrongValue := by
  obtain ⟨response, url, rfl, hstatus, length, hlength, hunreadable⟩ := h
  rw [judgeAnswer_success hstatus, Option.mem_def.mp hlength, isTooLarge_unreadable hunreadable]
  rfl

theorem judgeAnswer_reads {answer : Answer} (h : ¬ Trips answer) :
    ∃ linked, judgeAnswer answer = .ok linked ∧ (linked = true ↔ MayFetch answer) := by
  rcases answer with error | ⟨response, url⟩
  · exact ⟨false, rfl, by simp [MayFetch]⟩
  by_cases hstatus : response.status = 200 ∨ response.status = 204
  · have hlarge : ∃ large, isTooLarge (response.header? "Content-Length") = .ok large ∧
        (large = false ↔ ∀ length ∈ response.header? "Content-Length",
          ∀ n ∈ byteCount? length, n ≤ 1000000000) := by
      cases hheader : response.header? "Content-Length" with
      | none => exact ⟨false, rfl, by simp⟩
      | some length =>
        have hreadable : ¬ Unreadable length := fun hunreadable =>
          h ⟨response, url, rfl, hstatus, length, hheader, hunreadable⟩
        simpa using isTooLarge_readable hreadable
    obtain ⟨large, htooLarge, hiff⟩ := hlarge
    refine ⟨!large, by rw [judgeAnswer_success hstatus, htooLarge]; rfl, ?_⟩
    rw [Bool.not_eq_true', hiff]
    constructor
    · exact fun hlength => ⟨response, url, rfl, hstatus, hlength⟩
    · rintro ⟨_, _, ⟨⟩, -, hlength⟩
      exact hlength
  · have hrefused : (response.status != 200 && response.status != 204) = true := by
      rw [not_or] at hstatus
      simpa using hstatus
    refine ⟨false, by rw [judgeAnswer, if_pos hrefused], ?_⟩
    constructor
    · exact nofun
    · rintro ⟨_, _, ⟨⟩, hsuccess, -⟩
      exact absurd hsuccess hstatus

/-- Asking posts nothing, and what comes of it is judged by the answer alone, if there is one. -/
theorem isPublic_run (url : String) (w : World) :
    (question url).Escapes w ∧
        (∃ w', isPublic url w = (.error .wrongValue, w') ∧ w'.posts = w.posts) ∨
      ¬ (question url).Escapes w ∧ ∃ answer w', (Act.exchange (question url) w).1 = .ok answer ∧
        isPublic url w = (judgeAnswer answer, w') ∧ w'.posts = w.posts := by
  have hkeeps := Act.Keeps.exchange_posts (r := question url) (by simp [question]) w
  refine (Act.exchange_answers (question url) w).imp (And.imp_right ?_) (And.imp_right ?_)
  · rintro ⟨w₁, hrun⟩
    rw [hrun] at hkeeps
    rw [question] at hrun
    exact ⟨w₁, by rw [isPublic, Act.bind_apply, hrun], hkeeps⟩
  rintro ⟨answer, w₁, hrun⟩
  have hposts : w₁.posts = w.posts := by rwa [hrun] at hkeeps
  refine ⟨answer, (isPublic url w).2, by rw [hrun], ?_⟩
  rw [question] at hrun
  rw [isPublic, Act.bind_apply, hrun]
  rcases answer with error | ⟨response, target⟩
  · have hlog := Act.Keeps.log World.posts_hidesFiles .debug
      ("URL check failed for " ++ url ++ ": " ++ error.message) w₁
    dsimp only
    rw [Act.bind_apply, Act.debug, Act.log_apply]
    rw [Act.log_apply] at hlog
    exact ⟨rfl, hlog.trans hposts⟩
  · dsimp only
    rw [judgeAnswer]
    by_cases hstatus : (response.status != 200 && response.status != 204) = true
    · rw [if_pos hstatus, if_pos hstatus]
      exact ⟨rfl, hposts⟩
    · rw [if_neg hstatus, if_neg hstatus]
      cases isTooLarge (response.header? "Content-Length") <;> exact ⟨rfl, hposts⟩

/-! ## Creating the job -/

variable {source name : String} {job : LinkJob} {c : Client} {target : String}

theorem createLinkJob_posts (hjob : (LinkJob.read [("video_url", .str source)]).toExcept = .ok job)
    (h : c.Reaches target) (w : World) :
    (createLinkJob source c w).2.posts = w.posts ++ [(target, .json job.toJson)] := by
  rw [createLinkJob, hjob, Act.ok_bind]
  exact Act.bind_posts (Client.create_posts h _ w) fun answer => .ofExcept _

/-- Uploading a video posts nothing. -/
theorem upload_posts (url source contentType : String) (context : ContextId) :
    (upload url source contentType context).Keeps World.posts := by
  have hlocal : (localVideo source context).Keeps World.posts := by
    refine .bind (.ofExcept _) fun type => .ite ?_ (.pure _)
    exact .toFile World.posts_hidesFiles (.send_posts (by simp))
      (fun ext => .tempPath World.posts_hidesFiles _ _ _) _
  refine .bind hlocal fun path => .bind .look fun w => ?_
  split
  · exact .fail _
  · refine .bind (.exchange_posts (by simp)) fun result => ?_
    dsimp only
    split
    · exact .pure _
    · exact .fail _

theorem createUploadJob_posts (hname : uploadName source = .ok name) (h : c.Reaches target)
    (context : ContextId) (w : World) : (createUploadJob source c context w).2.posts =
      w.posts ++ [(target, .json (UploadJob.toJson ⟨name, uploadType source⟩))] := by
  rw [createUploadJob, hname, Act.ok_bind]
  exact Act.bind_posts (Client.create_posts h _ w) fun answer => .bind (.ofExcept _) fun url =>
    .bind (upload_posts _ _ _ _) fun _ => .ofExcept _

/-- A video that was opened has a name. -/
theorem exists_uploadName {video : Video} (h : Video.ofLocator source = .ok video) :
    ∃ name, uploadName source = .ok name := by
  obtain ⟨type, htype, -⟩ := bind_eq_ok.mp h
  obtain ⟨parts, hparts, -⟩ := bind_eq_ok.mp htype
  rw [uploadName, Locator.fileName, hparts]
  exact ⟨_, rfl⟩

/-- A job for a video on the web is one request: with the address if the answer of its server
allows it, and for an upload otherwise. There are two exceptions, in which nothing is posted and
the removal ends in a fault: the question for the video fails in a way that the library does not
know, or it is answered with a length of digits that cannot be read. -/
theorem createJob_posts {video : Video} (hvideo : Video.ofLocator source = .ok video)
    (hurl : video.kind = .url)
    (hjob : (LinkJob.read [("video_url", .str source)]).toExcept = .ok job)
    (hservice : c.Reaches target) (context : ContextId) (w : World) :
    let run := createJob video c context w
    ((question source).Escapes w → run.1 = .error .wrongValue ∧ run.2.posts = w.posts) ∧
    (¬ (question source).Escapes w → ∃ answer, (Act.exchange (question source) w).1 = .ok answer ∧
      (Trips answer → run.1 = .error .wrongValue ∧ run.2.posts = w.posts) ∧
      (¬ Trips answer → MayFetch answer →
        run.2.posts = w.posts ++ [(target, .json job.toJson)]) ∧
      (¬ Trips answer → ¬ MayFetch answer → ∃ name, uploadName source = .ok name ∧
        run.2.posts =
          w.posts ++ [(target, .json (UploadJob.toJson ⟨name, uploadType source⟩))])) := by
  obtain ⟨rfl, -⟩ := Video.ofLocator_ok hvideo
  have hfault {e : Fault} {w₁ : World} (h : isPublic video.source w = (.error e, w₁)) :
      createJob video c context w = (.error e, w₁) := by
    rw [createJob, hurl]
    change (isPublic video.source >>= _) w = _
    rw [Act.bind_apply, h]
  have hgoes {linked : Bool} {w₁ : World} (h : isPublic video.source w = (.ok linked, w₁)) :
      createJob video c context w = (if linked then createLinkJob video.source c
        else createUploadJob video.source c context) w₁ := by
    rw [createJob, hurl]
    change (isPublic video.source >>= _) w = _
    rw [Act.bind_apply, h]
  intro run
  rcases isPublic_run video.source w with
    ⟨hescapes, w₁, hpublic, hposts⟩ | ⟨hknown, answer, w₁, hanswer, hpublic, hposts⟩
  · refine ⟨fun _ => ?_, fun hknown => absurd hescapes hknown⟩
    rw [show run = _ from hfault hpublic]
    exact ⟨rfl, hposts⟩
  refine ⟨fun hescapes => absurd hescapes hknown, fun _ => ⟨answer, hanswer, fun htrips => ?_,
    fun hreads hfetch => ?_, fun hreads hupload => ?_⟩⟩
  · rw [judgeAnswer_trips htrips] at hpublic
    rw [show run = _ from hfault hpublic]
    exact ⟨rfl, hposts⟩
  · obtain ⟨linked, hjudge, hlinked⟩ := judgeAnswer_reads hreads
    rw [hjudge] at hpublic
    rw [show run = _ from hgoes hpublic, ← hposts, hlinked.mpr hfetch]
    exact createLinkJob_posts hjob hservice w₁
  · obtain ⟨linked, hjudge, hlinked⟩ := judgeAnswer_reads hreads
    have hno : linked = false := by
      by_contra hyes
      exact hupload (hlinked.mp ((Bool.not_eq_false _).mp hyes))
    obtain ⟨name, hname⟩ := exists_uploadName hvideo
    rw [hjudge] at hpublic
    rw [show run = _ from hgoes hpublic, ← hposts, hno]
    exact ⟨name, hname, createUploadJob_posts hname hservice context w₁⟩

/-- A video on the web. -/
def clip : Video := ⟨.url, "https://[::1]/clip.mp4"⟩

def service : Client := ⟨"https://api.example", .real 30, "key"⟩

/-- An answer that announces a length. -/
def lengthy (length : String) : Response :=
  { status := 200, reason := "OK", headers := [("Content-Length", length)], body := .bytes [] }

/-- A world in which the server of that video gives this answer. -/
def announcing (length : String) : World :=
  { World.initial with
    exchanges := [("HEAD https://[::1]/clip.mp4", [⟨0, .ok (lengthy length)⟩])] }

theorem clip_eq : Video.ofLocator "https://[::1]/clip.mp4" = .ok clip :=
  ok_of_toOption (by decide +kernel)

theorem service_reaches : service.Reaches "https://api.example/v1/jobs" where
  address := by
    have htarget : (Address.Target.prepare "https://api.example/v1/jobs" []).toOption =
        some "https://api.example/v1/jobs" := by decide +kernel
    exact ok_of_toOption htarget
  headers := rfl

theorem exists_link : ∃ job,
    (LinkJob.read [("video_url", .str "https://[::1]/clip.mp4")]).toExcept = .ok job := by
  have hread : (LinkJob.read [("video_url", .str "https://[::1]/clip.mp4")]).toExcept.isOk =
      true := by decide +kernel
  cases hjob : (LinkJob.read [("video_url", .str "https://[::1]/clip.mp4")]).toExcept with
  | ok job => exact ⟨job, rfl⟩
  | error e =>
    rw [hjob] at hread
    cases hread

/-- A video of just as many bytes as the service fetches. -/
theorem createJob_posts_largest :
    Video.ofLocator "https://[::1]/clip.mp4" = .ok clip ∧ clip.kind = .url ∧
    service.Reaches "https://api.example/v1/jobs" ∧
    ∃ job, (LinkJob.read [("video_url", .str "https://[::1]/clip.mp4")]).toExcept = .ok job ∧
      (createJob clip service ⟨0⟩ (announcing "1000000000")).2.posts =
        [("https://api.example/v1/jobs", .json job.toJson)] := by
  obtain ⟨job, hjob⟩ := exists_link
  obtain ⟨-, hknown⟩ :=
    createJob_posts clip_eq rfl hjob service_reaches ⟨0⟩ (announcing "1000000000")
  have hanswered : ¬ (question "https://[::1]/clip.mp4").Escapes (announcing "1000000000") := by
    rcases Act.exchange_answers (question "https://[::1]/clip.mp4") (announcing "1000000000") with
      ⟨-, w', hrun⟩ | ⟨hknown, -⟩
    · have hok : (Act.exchange (question "https://[::1]/clip.mp4")
          (announcing "1000000000")).1.isOk = true := by decide +kernel
      rw [hrun] at hok
      cases hok
    · exact hknown
  obtain ⟨answer, hanswer, -, hlinked, -⟩ := hknown hanswered
  have hreply : (Act.exchange (question "https://[::1]/clip.mp4")
      (announcing "1000000000")).1.toOption.bind (·.toOption) =
      some (lengthy "1000000000", "https://[::1]/clip.mp4") := by decide +kernel
  rw [hanswer] at hreply
  obtain rfl := ok_of_toOption hreply
  have hlength : (lengthy "1000000000").header? "Content-Length" = some "1000000000" := by
    decide +kernel
  have hreads : ¬ Unreadable "1000000000" := by
    rintro ⟨-, -, ⟨c, hc, hnone⟩ | hlong⟩
    · have hdecimal : "1000000000".toList.all (fun c => (Text.decimalValue? c).isSome) = true := by
        decide +kernel
      have hsome := List.all_eq_true.mp hdecimal c hc
      rw [hnone] at hsome
      cases hsome
    · exact absurd hlong (by decide)
  have hcount : byteCount? "1000000000" = some 1000000000 := by decide +kernel
  refine ⟨clip_eq, rfl, service_reaches, job, hjob, hlinked ?_ ?_⟩
  · rintro ⟨_, _, ⟨⟩, -, length, hfound, hunreadable⟩
    obtain rfl := Option.some.inj (hlength.symm.trans hfound)
    exact hreads hunreadable
  · refine ⟨_, _, rfl, .inl rfl, fun length hfound n hn => ?_⟩
    obtain rfl := Option.some.inj (hlength.symm.trans hfound)
    exact (Option.some.inj (hcount.symm.trans hn)).ge

/-- A superscript counts as a digit, but is not read as a number. -/
theorem superscript_breaks_job :
    (¬ ∀ (source : String) (video : Video) (job : LinkJob) (c : Client) (target : String)
      (context : ContextId) (w : World), Video.ofLocator source = .ok video → video.kind = .url →
      (LinkJob.read [("video_url", .str source)]).toExcept = .ok job → c.Reaches target →
      ∃ body, (createJob video c context w).2.posts = w.posts ++ [(target, body)]) ∧
    byteCount? "²" = none ∧
    (createJob clip service ⟨0⟩ (announcing "²")).1.isOk = false ∧
    (createJob clip service ⟨0⟩ (announcing "²")).2.posts.length = 0 := by
  have hnone : (createJob clip service ⟨0⟩ (announcing "²")).2.posts.length = 0 := by
    decide +kernel
  refine ⟨fun hall => ?_, by decide +kernel, by decide +kernel, hnone⟩
  obtain ⟨job, hjob⟩ := exists_link
  obtain ⟨body, hposts⟩ := hall _ _ _ _ _ ⟨0⟩ (announcing "²") clip_eq rfl hjob service_reaches
  rw [hposts] at hnone
  cases hnone

end Removal

end Compositor
