import Compositor.Proofs.Job.Protocol
import Compositor.Proofs.World.Mirroring

/-!
# Which requests are signed

A removal sends two kinds of requests. The client calls endpoints of the service, and signs
these calls with its key. It also visits addresses that come from the caller or from an
answer of the service: the source, the place for the upload and the result. Such an address
may be anything, and no visit carries the key. Which of the two a request is depends on the
stage that the removal has reached, and not on its address. Servers may send requests on to
other addresses, and then the key goes with the calls, wherever these are sent.
-/
namespace Compositor

/-- The type of a body is no key. -/
theorem Request.keys_contentType (type : Json) : keys [("Content-Type", type)] = [] := by
  have htype : isKey ("Content-Type", type) = false := by
    change (Text.lower "Content-Type" == "x-api-key") = false
    decide +kernel
  simp [keys, htype]

/-- The client sends its key, if it has one, and no other. -/
theorem Client.headers_keys (c : Client) (body : Body) :
    Request.keys (c.headers body) = c.key.some?.toList := by
  have hkey (value : Json) : Request.isKey ("X-Api-Key", value) = true := by
    change (Text.lower "X-Api-Key" == "x-api-key") = true
    decide +kernel
  have hsigned : Request.keys ((c.key.some?.map fun key => ("X-Api-Key", key)).toList) =
      c.key.some?.toList := by
    cases c.key.some? <;> simp [Request.keys, hkey]
  have htype := Request.keys_contentType "application/json"
  unfold headers
  rw [Request.keys, List.filter_append, List.map_append]
  cases body with
  | none => exact (List.append_nil _).trans hsigned
  | json | content => exact (congrArg₂ _ hsigned htype).trans (List.append_nil _)

namespace Sending

/-- A redirect takes no key off a request. -/
theorem goOn_keys (s : Sending) (status : Int) (url : String) :
    Request.keys (s.goOn status url).headers = Request.keys s.headers := by
  have hkept (header : String × Json) (hkey : Request.isKey header = true) :
      isBodyHeader header.1 = false := by
    have hname : Text.lower header.1 = "x-api-key" := eq_of_beq hkey
    rw [isBodyHeader, hname]
    decide
  unfold goOn Request.keys
  dsimp only
  split
  · rfl
  · rw [List.filter_filter]
    refine congrArg _ (List.filter_congr fun header _ => ?_)
    cases hkey : Request.isKey header with
    | false => rfl
    | true => simp [hkept header hkey]

end Sending

theorem World.settle_keys {budget : Nat} {replies : Replies} {s hop : Sending}
    (h : hop ∈ (settle budget replies s).hops) :
    Request.keys hop.headers = Request.keys s.headers := by
  induction budget generalizing s replies with
  | zero =>
    unfold settle at h
    split at h
    · cases h
    · dsimp only at h
      split at h <;> cases h
  | succ budget ih =>
    unfold settle at h
    split at h
    · cases h
    · dsimp only at h
      split at h
      · cases h
      · split at h
        · cases h
        · rcases List.mem_cons.mp h with rfl | h
          · exact s.goOn_keys _ _
          · exact (ih h).trans (s.goOn_keys _ _)

/-- The requests with which a request is sent on carry its key. -/
theorem World.hops_keys {w : World} {s hop : Sending} (h : hop ∈ (w.courseOf s).hops) :
    Request.keys hop.headers = Request.keys s.headers := settle_keys h

namespace Removal

namespace Stage

/-- The calls that may be made next: a job is created, started or asked for its status. -/
def calls (c : Client) : Stage → List (String × String)
  | opened | linkable | unlinkable => [("POST", c.baseUrl ++ "/v1/jobs")]
  | ready answer =>
    match field answer "id" with
    | .ok job => [("POST", c.baseUrl ++ ("/v1/jobs/" ++ job.text ++ "/start"))]
    | .error _ => []
  | running job => [("GET", c.baseUrl ++ ("/v1/jobs/" ++ job.text ++ "/status"))]
  | reserved _ | fetched _ | completed _ | imported | stopped => []

/-- The visits that may be paid next: to the source, to the place for the upload and to the
result. -/
def visits (video : Video) : Stage → List (String × String)
  | opened => if video.kind == .url then [("HEAD", video.source)] else []
  | reserved answer => if isRemote video.source then [("GET", video.source)] else uploads answer
  | fetched answer => uploads answer
  | completed status =>
    match status.video with
    | some address => [("GET", address.text)]
    | none => []
  | linkable | unlinkable | ready _ | running _ | imported | stopped => []

variable {c : Client} {video : Video} {s : Stage} {method address : String}

/-- No request is both. -/
theorem not_mem_calls (h : (method, address) ∈ s.visits video) :
    (method, address) ∉ s.calls c := by
  cases s with
  | opened =>
    simp [visits] at h
    simp [calls, h]
  | reserved | fetched | completed => exact List.not_mem_nil
  | _ => cases h

/-- Calls and visits are all that a removal may ask. -/
theorem mem_asks (hkind : video.kind = .url → isRemote video.source = true)
    (h : (method, address) ∈ s.visits video ++ s.calls c) :
    (method, address) ∈ s.asks c video.source := by
  cases s with
  | opened =>
    by_cases hurl : video.kind = .url
    · simpa [asks, visits, calls, hurl, hkind hurl] using h
    · have hcall : (method, address) ∈ opened.calls c := by simpa [visits, hurl] using h
      exact List.mem_append_right _ hcall
  | reserved | fetched | completed =>
    rw [calls, List.append_nil] at h
    exact h
  | _ => exact h

/-- Calls go to endpoints of the service. -/
theorem endpoint_of_call (h : (method, address) ∈ s.calls c) :
    ∃ endpoint, address = c.baseUrl ++ ("/v1/" ++ endpoint) := by
  have hinside (job : Json) (deed : String) :
      "/v1/jobs/" ++ job.text ++ deed = "/v1/" ++ ("jobs/" ++ job.text ++ deed) := by
    simp only [← String.append_assoc]
    rfl
  cases s with
  | opened | linkable | unlinkable =>
    obtain ⟨-, rfl⟩ := Prod.ext_iff.mp (List.mem_singleton.mp h)
    exact ⟨"jobs", rfl⟩
  | ready answer =>
    simp only [calls] at h
    split at h
    · obtain ⟨-, rfl⟩ := Prod.ext_iff.mp (List.mem_singleton.mp h)
      exact ⟨_, congrArg (c.baseUrl ++ ·) (hinside _ "/start")⟩
    · cases h
  | running job =>
    obtain ⟨-, rfl⟩ := Prod.ext_iff.mp (List.mem_singleton.mp h)
    exact ⟨_, congrArg (c.baseUrl ++ ·) (hinside job "/status")⟩
  | _ => cases h

end Stage

/-- What a stage allows to be sent. The key of the client is on its calls, and on nothing
else. -/
structure Stage.Allows (s : Stage) (c : Client) (video : Video) (method address : String)
    (headers : List (String × Json)) : Prop where
  asked : (method, address) ∈ s.visits video ++ s.calls c
  signed : Request.keys headers =
    if (method, address) ∈ s.calls c then c.key.some?.toList else []

/-- A removal goes from one stage to another one while requests are recorded and exchanges
take place. Each request is one that its stage allows, with its headers, and behind it come
those with which servers sent it on. They carry the key if it does. -/
inductive Signs (c : Client) (video : Video) : Stage → List Event → List Exchange → Stage → Prop
  | rest (s : Stage) : Signs c video s [] [] s
  | step {s s' : Stage} {e : Exchange} {events : List Event} {talk : List Exchange}
      {address : String} {headers : List (String × Json)} {body : Body} {timeout : Json}
      {hops : List Sending}
      (allowed : s.Allows c video e.method address headers)
      (sent : Address.Target.prepare address [] = .ok e.url)
      (followed : hops.map Sending.asked = e.hops)
      (carried : ∀ hop ∈ hops, Request.keys hop.headers = Request.keys headers)
      (rest : Signs c video (s.next e) events talk s') :
      Signs c video s (Sending.record ⟨e.method, e.url, headers, body⟩ timeout hops ++ events)
        (e :: talk) s'

variable {c : Client} {video : Video} {s s' s'' : Stage} {method address : String}
  {headers : List (String × Json)} {events events' : List Event} {talk talk' : List Exchange}

theorem Stage.Allows.visit (hasked : (method, address) ∈ s.visits video)
    (hkeyless : Request.keys headers = []) : s.Allows c video method address headers :=
  ⟨List.mem_append_left _ hasked, by rw [hkeyless, if_neg (not_mem_calls hasked)]⟩

theorem Stage.Allows.call (hasked : (method, address) ∈ s.calls c) (body : Body) :
    s.Allows c video method address (c.headers body) :=
  ⟨List.mem_append_right _ hasked, by rw [c.headers_keys, if_pos hasked]⟩

namespace Signs

theorem trans (h : Signs c video s events talk s') (h' : Signs c video s' events' talk' s'') :
    Signs c video s (events ++ events') (talk ++ talk') s'' := by
  induction h with
  | rest s => exact h'
  | step allowed sent followed carried _ ih =>
    rw [List.append_assoc]
    exact .step allowed sent followed carried (ih h')

/-- Without its headers, the record keeps to the protocol. -/
theorem proceeds (hkind : video.kind = .url → isRemote video.source = true)
    (h : Signs c video s events talk s') : Proceeds c video.source s talk s' := by
  induction h with
  | rest s => exact .rest s
  | step allowed sent _ _ _ ih => exact .step _ (Stage.mem_asks hkind allowed.asked) sent ih

/-- Whatever carries a key belongs to a call of the client, with its key, to an endpoint of the
service: it is this call, or servers have sent the call on with it. -/
theorem of_keyed (h : Signs c video s events talk s') {event : Event} (hevent : event ∈ events)
    (hkeyed : event.keys ≠ []) : event.keys = c.key.some?.toList ∧
      ∃ (endpoint : String) (call : Sending) (timeout : Json) (hops : List Sending),
        Address.Target.prepare (c.baseUrl ++ ("/v1/" ++ endpoint)) [] = .ok call.url ∧
        event ∈ call.record timeout hops ∧ call.record timeout hops <:+: events := by
  induction h with
  | rest s => cases hevent
  | @step s s' e events talk address headers body timeout hops allowed sent _ carried rest ih =>
    rcases List.mem_append.mp hevent with hevent | hevent
    · have hkeys : event.keys = Request.keys headers := by
        rcases List.mem_cons.mp hevent with rfl | hhop
        · rfl
        · obtain ⟨hop, hmem, rfl⟩ := List.mem_map.mp hhop
          exact carried hop hmem
      have hsigned := allowed.signed
      by_cases hcall : (e.method, address) ∈ s.calls c
      · obtain ⟨endpoint, rfl⟩ := Stage.endpoint_of_call hcall
        rw [if_pos hcall] at hsigned
        exact ⟨hkeys.trans hsigned, endpoint, ⟨e.method, e.url, headers, body⟩, timeout, hops, sent,
          hevent, [], events, rfl⟩
      · rw [if_neg hcall] at hsigned
        exact absurd (hkeys.trans hsigned) hkeyed
    · obtain ⟨hkeys, endpoint, call, timeout', hops', hcall, hmem, before, after, rfl⟩ := ih hevent
      refine ⟨hkeys, endpoint, call, timeout', hops', hcall, hmem,
        Sending.record ⟨e.method, e.url, headers, body⟩ timeout hops ++ before, after, ?_⟩
      simp only [List.append_assoc]

/-- Where no server sends a request on, there is nothing but requests. -/
theorem no_hop (h : Signs c video s events talk s') (hstays : ∀ e ∈ talk, e.hops = [])
    {event : Event} (hevent : event ∈ events) : event.isHop = false := by
  induction h with
  | rest s => cases hevent
  | step allowed sent followed carried rest ih =>
    rcases List.mem_append.mp hevent with hevent | hevent
    · rw [hstays _ List.mem_cons_self, List.map_eq_nil_iff] at followed
      subst followed
      cases List.mem_singleton.mp hevent
      rfl
    · exact ih (fun e he => hstays e (List.mem_cons_of_mem _ he)) hevent

end Signs

end Removal

end Compositor
