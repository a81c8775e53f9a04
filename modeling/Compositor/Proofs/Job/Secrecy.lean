import Compositor.Proofs.Job.Removal

/-!
# The key stays with the service

Two removals that differ in the key of their client cannot be told apart by anything but the
key in the headers of their calls: they send the same requests, run the same commands, rest
and tell the caller at the same times, and come to the same end. The visits to addresses that
others choose carry no key at all.
-/
namespace Compositor

/-- The same client with a key. -/
def Client.keyed (c : Client) (key : String) : Client := { c with key := .str key }

variable {key key' : String}

namespace Client

/-- The headers of a call differ in the key only. -/
theorem headers_keyed (c : Client) (body : Body) :
    Request.withKey key' ((c.keyed key).headers body) = (c.keyed key').headers body := by
  have hname : Request.isKey ("X-Api-Key", .str key) = true := by
    change (Text.lower "X-Api-Key" == "x-api-key") = true
    decide +kernel
  have hsigned : Request.withKey key' [("X-Api-Key", .str key)] = [("X-Api-Key", .str key')] :=
    congrArg ([·]) (if_pos hname)
  have htype := Request.withKey_of_keys (Request.keys_contentType "application/json") key'
  cases body with
  | none => exact hsigned
  | json | content => exact congrArg₂ (· ++ ·) hsigned htype

section

variable (hkey : Request.isHeaderText key) (hkey' : Request.isHeaderText key')
include hkey hkey'

theorem mirrors_request (c : Client) (method endpoint : String) (fields : List (String × String))
    (body : Body) : ((c.keyed key).request method endpoint fields body).Mirrors
      ((c.keyed key').request method endpoint fields body) key' := by
  have herror : Request.headerError? (Request.withKey key' ((c.keyed key).headers body)) =
      Request.headerError? ((c.keyed key).headers body) := by
    refine Request.headerError?_withKey hkey' fun value hvalue => ⟨key, ?_, hkey⟩
    rw [headers_keys] at hvalue
    exact List.mem_singleton.mp hvalue
  have hsend := Act.Mirrors.send (r := ⟨method, c.baseUrl ++ endpoint, fields,
    (c.keyed key).headers body, body, c.timeout⟩) herror
  dsimp only at hsend
  rw [headers_keyed] at hsend
  refine .bind (.exchange hsend) fun reply => ?_
  rcases reply with error | ⟨response, url⟩
  · exact .fail _
  · exact .ofExcept _

theorem mirrors_status (c : Client) (job : Json) :
    ((c.keyed key).status job).Mirrors ((c.keyed key').status job) key' :=
  .bind (mirrors_request hkey hkey' c _ _ _ _) fun _ => .ofExcept _

theorem mirrors_start (c : Client) (job : Json) (request : Option StartRequest) :
    ((c.keyed key).start job request).Mirrors ((c.keyed key').start job request) key' :=
  mirrors_request hkey hkey' c _ _ _ _

/-- The rounds of waiting differ in the questions for the status only. -/
theorem mirrors_loop (c : Client) (job interval : Json) (timeout : Option Json) (telling : Bool)
    (started : Float) (rounds : Nat) (last : Option JobState) :
    (Polling.loop ((c.keyed key).watch job interval timeout telling started) job timeout rounds
      last).Mirrors
    (Polling.loop ((c.keyed key').watch job interval timeout telling started) job timeout rounds
      last) key' := by
  induction rounds generalizing last with
  | zero => exact .pure _
  | succ rounds ih =>
    rw [Polling.loop_succ, Polling.loop_succ]
    refine .bind (mirrors_status hkey hkey' c job) fun status => .bind ?_ fun _ =>
      .bind ?_ fun final => ?_
    · cases Polling.news last status.state with
      | some state => exact .ite (.emit rfl) (.pure _)
      | none => exact .pure _
    · unfold Polling.judge
      split
      · exact .pure _
      · exact .fail _
      · rw [watch_isLate, watch_isLate]
        exact .bind (.look fun _ _ => .ofExcept _) fun _ => .ite (.fail _) (.pure _)
    · cases final with
      | some final => exact .pure _
      | none =>
        have hrest : (sleep interval).Mirrors (sleep interval) key' :=
          .bind (.emit rfl) fun _ => .bind (.ofExcept _) fun _ =>
            .change (fun _ => rfl) fun _ _ => rfl
        exact .bind hrest fun _ => ih _

theorem mirrors_wait (c : Client) (job interval : Json) (timeout : Option Json) (telling : Bool) :
    ((c.keyed key).wait job interval timeout telling).Mirrors
      ((c.keyed key').wait job interval timeout telling) key' := by
  refine .look fun w events => .bind (.look fun w events => ?_) fun final => ?_
  · exact mirrors_loop hkey hkey' c _ _ _ _ _ _ _
  cases final with
  | some status => exact .pure _
  | none => exact mirrors_status hkey hkey' c job

end

end Client

namespace Removal

variable {context : ContextId}

theorem mirrors_toolLists (flag name : String) :
    (toolLists context flag name).Mirrors (toolLists context flag name) key := by
  refine .bind (Context.mirrors_ofId _) fun _ => .bind (.runCommand _ _) fun reply => ?_
  split
  · exact .pure _
  · exact .bind (.log _ _) fun _ => .pure _
  · exact .bind (.log _ _) fun _ => .pure _

theorem mirrors_chooseFormat (options : RemovalOptions) :
    (chooseFormat context options).Mirrors (chooseFormat context options) key := by
  have hwrites : (toolWritesAlpha context).Mirrors (toolWritesAlpha context) key :=
    .bind (mirrors_toolLists _ _) fun _ => .ite (mirrors_toolLists _ _) (.pure _)
  unfold chooseFormat
  split
  · exact .pure _
  · exact .bind hwrites fun _ => .ite (.bind (.log _ _) fun _ => .pure _)
      (.bind (.log _ _) fun _ => .pure _)

/-! ## Visits -/

theorem mirrors_isPublic (url : String) : (isPublic url).Mirrors (isPublic url) key := by
  refine .bind (.exchange (.send_keyless rfl)) fun reply => ?_
  rcases reply with error | ⟨response, target⟩
  · exact .bind (.log _ _) fun _ => .pure _
  · exact .ite (.pure _) (.bind (.ofExcept _) fun _ => .pure _)

theorem mirrors_upload (url source contentType : String) :
    (upload url source contentType context).Mirrors (upload url source contentType context)
      key := by
  have hlocal : (localVideo source context).Mirrors (localVideo source context) key :=
    .bind (.ofExcept _) fun _ =>
      .ite (Download.mirrors_toFile _ (fun _ => Context.mirrors_tempPath _ _ _) _ _) (.pure _)
  have hsend (path : String) (content : Content) :
      (sendFile url path contentType content).Mirrors (sendFile url path contentType content)
        key := by
    refine .bind (.exchange (.send_keyless (Request.keys_contentType _))) fun reply => ?_
    dsimp only
    split
    · exact .pure _
    · exact .fail _
  refine .bind hlocal fun path => .look fun w events => ?_
  dsimp only
  split
  · exact .fail _
  · exact hsend _ _

theorem mirrors_importResult (status : JobStatus) :
    (importResult status context).Mirrors (importResult status context) key := by
  unfold importResult
  split
  · exact .fail _
  · exact .bind (.ofExcept _) fun _ => .bind (Download.mirrors_toFile _
      (fun _ => Context.mirrors_tempPath _ _ _) _ _) fun _ => Foreground.mirrors_ofLocator _ _

/-! ## The whole removal -/

section

variable (hkey : Request.isHeaderText key) (hkey' : Request.isHeaderText key')
include hkey hkey'

theorem mirrors_createJob (c : Client) (video : Video) :
    (createJob video (c.keyed key) context).Mirrors (createJob video (c.keyed key') context)
      key' := by
  have hlink : (createLinkJob video.source (c.keyed key)).Mirrors
      (createLinkJob video.source (c.keyed key')) key' :=
    .bind (.ofExcept _) fun _ => .bind (c.mirrors_request hkey hkey' _ _ _ _) fun _ => .ofExcept _
  have hupload : (createUploadJob video.source (c.keyed key) context).Mirrors
      (createUploadJob video.source (c.keyed key') context) key' :=
    .bind (.ofExcept _) fun _ => .bind (c.mirrors_request hkey hkey' _ _ _ _) fun _ =>
      .bind (.ofExcept _) fun _ => .bind (mirrors_upload _ _ _) fun _ => .ofExcept _
  have hlinked (linked : Bool) : (if linked = true then createLinkJob video.source (c.keyed key)
      else createUploadJob video.source (c.keyed key) context).Mirrors
      (if linked = true then createLinkJob video.source (c.keyed key')
        else createUploadJob video.source (c.keyed key') context) key' := .ite hlink hupload
  unfold createJob
  exact .ite (.bind (mirrors_isPublic _) hlinked) (.bind (.pure _) hlinked)

theorem mirrors_removeBackground (video : Video) (c : Client) (options : RemovalOptions)
    (telling : Bool) (interval webhook : Json) (context : Option ContextId) :
    (video.removeBackground (c.keyed key) options telling interval webhook context).Mirrors
      (video.removeBackground (c.keyed key') options telling interval webhook context) key' :=
  .bind (Context.mirrors_orDefault _) fun _ => .bind (mirrors_chooseFormat _) fun _ =>
    .bind (.log _ _) fun _ => .bind (mirrors_createJob hkey hkey' c video) fun _ =>
    .bind (.log _ _) fun _ => .bind (.ofExcept _) fun _ =>
    .bind (c.mirrors_start hkey hkey' _ _) fun _ => .bind (.log _ _) fun _ =>
    .bind (c.mirrors_wait hkey hkey' _ _ _ _) fun _ => .bind (.log _ _) fun _ =>
    mirrors_importResult _

end

end Removal

/-! ## Redirects -/

namespace World

/-- No answer sends a request on. -/
def Stay (replies : Replies) : Prop :=
  ∀ entry ∈ replies, ∀ reply ∈ entry.2, ∀ response, reply.outcome = .ok response →
    response.onward = .stays

theorem Stay.takeReply {replies left : Replies} {request : String} {reply : HttpReply}
    (h : Stay replies) (htake : takeReply request replies = some (reply, left)) :
    (∀ response, reply.outcome = .ok response → response.onward = .stays) ∧ Stay left := by
  induction replies generalizing left with
  | nil => cases htake
  | cons entry rest ih =>
    obtain ⟨k, own⟩ := entry
    obtain ⟨hown, hrest⟩ := List.forall_mem_cons.mp h
    unfold World.takeReply at htake
    split at htake
    · cases own with
      | nil => cases htake
      | cons first more =>
        cases htake
        obtain ⟨hfirst, hmore⟩ := List.forall_mem_cons.mp hown
        exact ⟨hfirst, List.forall_mem_cons.mpr ⟨hmore, hrest⟩⟩
    · obtain ⟨⟨reply', left'⟩, hfound, heq⟩ := Option.map_eq_some_iff.mp htake
      cases heq
      obtain ⟨hreply, hleft⟩ := ih hrest hfound
      exact ⟨hreply, List.forall_mem_cons.mpr ⟨hown, hleft⟩⟩

theorem Stay.settle {replies : Replies} (h : Stay replies) (budget : Nat) (s : Sending) :
    (settle budget replies s).hops = [] ∧ Stay (settle budget replies s).replies := by
  unfold World.settle
  cases htake : World.takeReply s.key replies with
  | none => exact ⟨rfl, h⟩
  | some found =>
    obtain ⟨reply, left⟩ := found
    obtain ⟨hreply, hleft⟩ := h.takeReply htake
    have hdone : ∃ outcome, reply.turn = .done outcome := by
      unfold HttpReply.turn
      cases houtcome : reply.outcome with
      | error failure => exact ⟨_, rfl⟩
      | ok response =>
        dsimp only
        rw [hreply response houtcome]
        exact ⟨_, rfl⟩
    obtain ⟨outcome, hdone⟩ := hdone
    dsimp only
    rw [hdone]
    exact ⟨rfl, hleft⟩

theorem Stay.replay {replies : Replies} (h : Stay replies) (asked : List (String × String)) :
    ∀ e ∈ (replay replies asked).1, e.hops = [] := by
  induction asked generalizing replies with
  | nil => exact List.forall_mem_nil _
  | cons request rest ih =>
    obtain ⟨hhops, hleft⟩ := h.settle maxRedirects ⟨request.1, request.2, [], .none⟩
    exact List.forall_mem_cons.mpr ⟨congrArg (List.map Sending.asked) hhops, ih hleft⟩

theorem Talked.no_hops {w w' : World} {talk : List Exchange} (h : Talked w w' talk)
    (hstay : Stay w.exchanges) : ∀ e ∈ talk, e.hops = [] := by
  obtain ⟨asked, -, htalk⟩ := h
  have hall := hstay.replay asked
  rwa [htalk] at hall

end World

/-- The address that a request goes to, or one with which it was sent on. -/
def Event.address? : Event → Option String
  | .request _ url _ _ _ | .hop _ url _ _ _ => some url
  | _ => none

namespace Video

/-- The key goes with the calls to the service and nowhere else. With another key, a removal
comes to the same result in the same world, and its record is the same but for the key in the
headers of requests. Every request is a call or a visit of its stage, with the key on the calls
and on nothing else, and all calls go to endpoints below the address of the service. If servers
send a request on, the key goes with it exactly if it was a call; where none does, there are no
requests but these. -/
theorem removal_hides_key (video : Video) (client : Client) {key key' : String}
    (hkey : Request.isHeaderText key) (hkey' : Request.isHeaderText key')
    (options : RemovalOptions) (telling : Bool) (interval webhook : Json)
    (context : Option ContextId) (w : World) :
    let run key :=
      video.removeBackground (client.keyed key) options telling interval webhook context w
    ∃ news talk stage, (run key).2.events = w.events ++ news ∧
      run key' = ((run key).1,
        { (run key).2 with events := w.events ++ news.map (Event.withKey key') }) ∧
      World.Talked w (run key).2 talk ∧
      Removal.Signs (client.keyed key) video .opened (news.filter Event.isTransfer) talk stage ∧
      (∀ event ∈ news, event.keys ≠ [] → event.keys = [.str key] ∧
        ∃ (endpoint : String) (call : Sending) (timeout : Json) (hops : List Sending),
          Address.Target.prepare (client.baseUrl ++ ("/v1/" ++ endpoint)) [] = .ok call.url ∧
          event ∈ call.record timeout hops ∧
          call.record timeout hops <:+: news.filter Event.isTransfer) ∧
      (World.Stay w.exchanges → ∀ event ∈ news, event.isHop = false) := by
  intro run
  have hmirrors := Removal.mirrors_removeBackground hkey hkey' video client options telling
    interval webhook context
  obtain ⟨news, hnews, hrun⟩ := hmirrors w w.events
  obtain ⟨events, talk, stage, hevents, htalked, hsigns, -⟩ :=
    speaks_removeBackground video (client.keyed key) options telling interval webhook context w
  have hasked : events = news.filter Event.isTransfer := by
    rw [World.traffic, World.traffic, hnews, List.filter_append] at hevents
    exact (List.append_cancel_left hevents).symm
  subst hasked
  have htransfer {event : Event} (hevent : event ∈ news) (h : event.isTransfer = true) :
      event ∈ news.filter Event.isTransfer := List.mem_filter.mpr ⟨hevent, h⟩
  refine ⟨news, talk, stage, hnews, hrun, htalked, hsigns, fun event hevent hkeyed => ?_,
    fun hstay event hevent => ?_⟩
  · refine hsigns.of_keyed (htransfer hevent ?_) hkeyed
    cases event with
    | request | hop => rfl
    | _ => exact absurd rfl hkeyed
  · cases event with
    | hop method url headers body timeout =>
      exact hsigns.no_hop (htalked.no_hops hstay) (htransfer hevent rfl)
    | _ => rfl

/-- A world in which a video is to be uploaded to an endpoint of the service, by which its job
is started as well. -/
def misdirected : World :=
  let answer := "\x7b\"id\":\"j\",\"upload_url\":\"https://a.example/v1/jobs/j/start\"\x7d"
  { World.initial with
    files := ⟨World.initial.files.entries ++ [(["/", "clip.mp4"], .file (.bytes []))]⟩
    contexts := [⟨"ffmpeg", "ffprobe", "/tmp", []⟩]
    exchanges := [
      ("POST https://a.example/v1/jobs",
        [⟨0, .ok { status := 200, reason := "OK", headers := []
                   body := .bytes (Text.Utf8.encode answer) }⟩]),
      ("PUT https://a.example/v1/jobs/j/start",
        [⟨0, .ok { status := 200, reason := "OK", headers := [], body := .bytes [] }⟩]),
      ("POST https://a.example/v1/jobs/j/start",
        [⟨0, .ok { status := 401, reason := "Unauthorized", headers := [], body := .bytes [] }⟩])] }

/-- A world in which the service sends the request for a new job on to another one. -/
def redirected : World :=
  { misdirected with
    exchanges := [("POST https://a.example/v1/jobs",
      [⟨0, .ok { status := 302, reason := "Found", headers := [], body := .bytes []
                 onward := .to "https://b.example/v1/jobs" }⟩])] }

/-- A removal with a key. -/
def removalWith (key : String) : Act Foreground :=
  let client : Client := ⟨"https://a.example", .real 30, .null⟩
  removeBackground ⟨.file, "/clip.mp4"⟩ (client.keyed key) ⟨.format .webmVp9, none⟩ false
    (.int 2) .null (some ⟨0⟩)

theorem removal_hides_key_redirected :
    Request.isHeaderText "key" = true ∧ Request.isHeaderText "other" = true ∧
    ∃ news talk stage, (removalWith "key" redirected).2.events = redirected.events ++ news ∧
      removalWith "other" redirected = ((removalWith "key" redirected).1,
        { (removalWith "key" redirected).2 with
          events := redirected.events ++ news.map (Event.withKey "other") }) ∧
      World.Talked redirected (removalWith "key" redirected).2 talk ∧
      Removal.Signs ⟨"https://a.example", .real 30, "key"⟩ ⟨.file, "/clip.mp4"⟩ .opened
        (news.filter Event.isTransfer) talk stage ∧
      (∀ event ∈ news, event.keys ≠ [] → event.keys = [.str "key"] ∧
        ∃ (endpoint : String) (call : Sending) (timeout : Json) (hops : List Sending),
          Address.Target.prepare ("https://a.example" ++ ("/v1/" ++ endpoint)) [] = .ok call.url ∧
          event ∈ call.record timeout hops ∧
          call.record timeout hops <:+: news.filter Event.isTransfer) ∧
      (World.Stay redirected.exchanges → ∀ event ∈ news, event.isHop = false) :=
  ⟨by decide, by decide, removal_hides_key ⟨.file, "/clip.mp4"⟩
    ⟨"https://a.example", .real 30, .null⟩ (by decide) (by decide) _ _ _ _ _ redirected⟩

/-- The key goes with a call that is sent on, and then it leaves the service. -/
theorem key_leaves_service : ¬ ∀ (video : Video) (client : Client) (key : String)
    (options : RemovalOptions) (telling : Bool) (interval webhook : Json)
    (context : Option ContextId) (w : World), Request.isHeaderText key → w.events = [] →
    ∀ event ∈ (video.removeBackground (client.keyed key) options telling interval webhook
      context w).2.events, event.keys ≠ [] →
      ∃ endpoint, event.address? = some (client.baseUrl ++ ("/v1/" ++ endpoint)) := by
  intro hall
  have hkeyed : (removalWith "key" redirected).2.events.filterMap (fun event =>
      if event.keys.isEmpty then none else event.address?) =
        ["https://a.example/v1/jobs", "https://b.example/v1/jobs"] := by
    decide +kernel
  obtain ⟨event, hevent, haddress⟩ := List.mem_filterMap.mp
    (hkeyed ▸ List.mem_cons_of_mem _ List.mem_cons_self :
      "https://b.example/v1/jobs" ∈ (removalWith "key" redirected).2.events.filterMap _)
  split at haddress
  · cases haddress
  · rename_i hkeys
    obtain ⟨endpoint, hservice⟩ := hall ⟨.file, "/clip.mp4"⟩
      ⟨"https://a.example", .real 30, .null⟩ "key" _ _ _ _ _ redirected (by decide) rfl event hevent
      (by simpa using hkeys)
    have hother : "https://b.example/v1/jobs".toList[8]? = some 'b' := by decide +kernel
    have hhost : ("https://a.example" ++ ("/v1/" ++ endpoint)).toList[8]? = some 'a' := by
      rw [String.toList_append, List.getElem?_append_left (by decide +kernel)]
      decide +kernel
    rw [Option.some.inj (haddress.symm.trans hservice), hhost] at hother
    cases hother

-- the upload carries no key, although it goes to the address of a call
example : (removalWith "key" misdirected).2.events.filterMap (fun
    | .request method url headers _ _ => some (method, url, (Request.keys headers).map Json.text)
    | _ => none) = [
      ("POST", "https://a.example/v1/jobs", ["key"]),
      ("PUT", "https://a.example/v1/jobs/j/start", []),
      ("POST", "https://a.example/v1/jobs/j/start", ["key"])] := by
  decide +kernel

end Video

end Compositor
