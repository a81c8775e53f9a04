import Compositor.Proofs.Job.Signing

/-!
# Keeping to the protocol

`x.Speaks c video s post`: what the action `x` says to servers keeps to the protocol from the
stage `s` on, with the key of the client on its calls alone, whether it succeeds or not, and
if it succeeds, `post` holds of its answer and the stage it has reached. Requests are steps of
the protocol; silent actions stay where they are. `x.Converses c source s post` says the same
without a word about headers.
-/
namespace Compositor

open Removal

variable {α β : Type}

def Act.Speaks (x : Act α) (c : Client) (video : Video) (s : Stage)
    (post : α → Stage → Prop) : Prop :=
  ∀ w, ∃ events talk s', (x w).2.traffic.2 = w.traffic.2 ++ events ∧
    World.Talked w (x w).2 talk ∧ Signs c video s events talk s' ∧
    ∀ a, (x w).1 = .ok a → post a s'

def Act.Converses (x : Act α) (c : Client) (source : String) (s : Stage)
    (post : α → Stage → Prop) : Prop :=
  ∀ w, ∃ talk s', World.Talked w (x w).2 talk ∧ Proceeds c source s talk s' ∧
    ∀ a, (x w).1 = .ok a → post a s'

namespace Act.Speaks

variable {c : Client} {video : Video} {s : Stage} {x : Act α} {post : α → Stage → Prop}

theorem converses (hx : x.Speaks c video s post)
    (hkind : video.kind = .url → isRemote video.source = true) :
    x.Converses c video.source s post := by
  intro w
  obtain ⟨events, talk, s', -, htalked, hsigns, hok⟩ := hx w
  exact ⟨talk, s', htalked, hsigns.proceeds hkind, hok⟩

/-- A silent action stays where it is. -/
theorem silent (hx : x.IsSilent) (h : ∀ w a, (x w).1 = .ok a → post a s) :
    x.Speaks c video s post := by
  intro w
  refine ⟨[], [], s, ?_, .silent (hx w), .rest s, h w⟩
  rw [hx w, List.append_nil]

theorem pure {a : α} (h : post a s) : (Pure.pure a : Act α).Speaks c video s post :=
  silent (.pure a) fun _ _ ha => Except.ok.inj ha ▸ h

theorem fail (e : Fault) : (Act.fail e : Act α).Speaks c video s post :=
  silent (.fail e) fun _ _ ha => nomatch ha

theorem weaken {post' : α → Stage → Prop} (hx : x.Speaks c video s post)
    (h : ∀ a s', post a s' → post' a s') : x.Speaks c video s post' := by
  intro w
  obtain ⟨events, talk, s', hevents, htalked, hsigns, hok⟩ := hx w
  exact ⟨events, talk, s', hevents, htalked, hsigns, fun a ha => h a s' (hok a ha)⟩

theorem bind {f : α → Act β} {post' : β → Stage → Prop} (hx : x.Speaks c video s post)
    (hf : ∀ a s', post a s' → (f a).Speaks c video s' post') :
    (x >>= f).Speaks c video s post' := by
  intro w
  obtain ⟨events, talk, s', hevents, htalked, hsigns, hok⟩ := hx w
  rw [bind_apply]
  match hrun : x w with
  | (.error e, w') =>
    rw [hrun] at hevents htalked
    exact ⟨events, talk, s', hevents, htalked, hsigns, nofun⟩
  | (.ok a, w') =>
    rw [hrun] at hevents htalked hok
    obtain ⟨events', talk', s'', hevents', htalked', hsigns', hok'⟩ := hf a s' (hok a rfl) w'
    refine ⟨events ++ events', talk ++ talk', s'', ?_, htalked.trans htalked',
      hsigns.trans hsigns', hok'⟩
    rw [hevents', hevents, List.append_assoc]

/-- After a silent action one goes on at the same stage. -/
theorem after {f : α → Act β} {post' : β → Stage → Prop} (hx : x.IsSilent)
    (hf : ∀ w a, (x w).1 = .ok a → (f a).Speaks c video s post') :
    (x >>= f).Speaks c video s post' := by
  have hstays : x.Speaks c video s fun a s' => s' = s ∧ ∃ w, (x w).1 = .ok a :=
    silent hx fun w _ ha => ⟨rfl, w, ha⟩
  exact hstays.bind fun a _ ⟨hs, w, ha⟩ => hs ▸ hf w a ha

theorem ofExcept_bind {r : Except Fault α} {f : α → Act β} {post' : β → Stage → Prop}
    (hf : ∀ a, r = .ok a → (f a).Speaks c video s post') :
    (ofExcept r >>= f).Speaks c video s post' := by
  cases r with
  | ok a => exact hf a rfl
  | error e => exact .fail e

/-! ## Requests -/

section

variable {method address : String} {headers : List (String × Json)} {body : Body} {timeout : Json}

/-- What the sender of a request knows: the exchange and the stage it leads to, or that no
response arrived. -/
def Heard (method : String) (s : Stage) (response? : Exchange → Option Response)
    (reply : Except RequestError (Response × String)) (s' : Stage) : Prop :=
  match reply with
  | .ok (response, _) => ∃ e : Exchange, e.method = method ∧ response? e = some response ∧
      s' = s.next e
  | .error _ => s' = s ∨ ∃ e : Exchange, e.method = method ∧ response? e = none ∧ s' = s.next e

/-- Whoever hears of an exchange knows where it leads. -/
theorem heard_answer {e : Exchange} {reply : Except RequestError (Response × String)}
    (h : e.answer = .ok reply) : Heard e.method s Exchange.arrived? reply (s.next e) := by
  unfold Ending.answer at h
  split at h
  · rename_i response houtcome
    cases h
    exact ⟨e, rfl, by rw [Exchange.arrived?, houtcome]; rfl, rfl⟩
  · rename_i family text houtcome
    cases h
    exact .inr ⟨e, rfl, by rw [Exchange.arrived?, houtcome]; rfl, rfl⟩
  · cases h

theorem send (hallowed : s.Allows c video method address headers) :
    (send ⟨method, address, [], headers, body, timeout⟩).Speaks c video s
      (Heard method s Exchange.arrived?) := by
  cases htarget : Address.Target.prepare address [] with
  | error error =>
    rw [Act.send, htarget]
    exact .pure (.inl rfl)
  | ok url =>
    cases hheaders : Request.headerError? headers with
    | some error =>
      rw [Act.send, htarget]
      dsimp only
      rw [hheaders]
      exact .pure (.inl rfl)
    | none =>
      intro w
      let sending : Sending := ⟨method, url, headers, body⟩
      let e : Exchange := w.exchangeOf sending
      let hops := (w.courseOf sending).hops
      let r : Request := ⟨method, address, [], headers, body, timeout⟩
      rw [send_apply (r := r) htarget hheaders]
      refine ⟨sending.record timeout hops, [e], s.next e, ?_, w.talked_sent sending timeout, ?_,
        fun reply hreply => heard_answer (e := e) hreply⟩
      · have hall : (sending.record timeout hops).filter Event.isTransfer =
            sending.record timeout hops :=
          List.filter_eq_self.mpr fun event => Sending.transfers_of_mem_record
        rw [World.traffic, World.sent, List.filter_append, hall]
        rfl
      · have hkeys : ∀ hop ∈ hops, Request.keys hop.headers = Request.keys headers :=
          fun hop hhop => World.hops_keys hhop
        have hsigns : Signs c video s (sending.record timeout hops ++ []) [e] (s.next e) :=
          .step (e := e) hallowed htarget rfl hkeys (.rest _)
        rwa [List.append_nil] at hsigns

theorem exchange (hallowed : s.Allows c video method address headers) :
    (exchange ⟨method, address, [], headers, body, timeout⟩).Speaks c video s
      (Heard method s Exchange.response?) := by
  refine (send hallowed).bind fun reply s' hheard => ?_
  match reply, hheard with
  | .error error, .inl hs => exact .pure (.inl hs)
  | .error error, .inr ⟨e, hmethod, hnone, hs⟩ =>
    exact .pure (.inr ⟨e, hmethod, by rw [Exchange.response?, hnone]; rfl, hs⟩)
  | .ok (response, url), ⟨e, hmethod, hsome, hs⟩ =>
    have hresponse : e.response? = response.whole.toOption := by
      rw [Exchange.response?, hsome, Option.bind_some]
    refine .pure ?_
    cases hwhole : response.whole with
    | ok whole =>
      rw [hwhole] at hresponse
      exact ⟨e, hmethod, hresponse, hs⟩
    | error error =>
      rw [hwhole] at hresponse
      exact .inr ⟨e, hmethod, hresponse, hs⟩

/-- A request to the service leads on by the document of its answer. -/
theorem request {method endpoint : String} {body : Body}
    (hasked : (method, c.baseUrl ++ endpoint) ∈ s.calls c) :
    (c.request method endpoint [] body).Speaks c video s fun data s' =>
      ∃ e : Exchange, e.method = method ∧ e.document? = some data ∧ s' = s.next e := by
  refine (exchange (.call hasked body)).bind fun reply s' hheard => ?_
  match reply, hheard with
  | .error error, _ => exact .fail _
  | .ok (response, url), ⟨e, hmethod, hresponse, hs⟩ =>
    refine silent (.ofExcept _) fun w data hdata => ⟨e, hmethod, ?_, hs⟩
    rw [Exchange.document?, hresponse, Option.bind_some, ofExcept_ok (Prod.ext hdata rfl)]
    rfl

end

end Act.Speaks

end Compositor
