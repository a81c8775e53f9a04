import Compositor.Proofs.World.Keeping

/-!
# Talking to servers

The world records every request, and it holds the answers that servers are going to give.
The two together tell what was said between two moments: `w.Talked w' talk` says that `talk`
is the list of the exchanges, each a request and what came of it when all redirects were
followed. It is read off from the record alone, not from what the program makes of the
answers.
-/
namespace Compositor

variable {α : Type}

/-- A request that was sent, the requests with which servers sent it on, and how it ended. -/
structure Exchange extends Ending where
  method : String
  url : String
  hops : List (String × String)

/-- The method and the address of a request. -/
def Event.request? : Event → Option (String × String)
  | .request method url _ _ _ => some (method, url)
  | _ => none

/-- The requests among events. -/
def Event.requests (events : List Event) : List (String × String) :=
  events.filterMap Event.request?

@[simp] theorem Event.requests_append (a b : List Event) :
    requests (a ++ b) = requests a ++ requests b := List.filterMap_append

/-- What is read off from transfers alone does not depend on the events between them. -/
theorem Event.filterMap_transfers {read : Event → Option α}
    (h : ∀ e : Event, e.isTransfer = false → read e = none) (events : List Event) :
    (events.filter isTransfer).filterMap read = events.filterMap read := by
  rw [List.filterMap_filter]
  congr 1
  funext e
  cases htransfer : e.isTransfer with
  | false => simp [h e htransfer]
  | true => simp

/-- Hops are no requests of their own. -/
theorem Event.requests_record (s : Sending) (timeout : Json) (hops : List Sending) :
    requests (s.record timeout hops) = [(s.method, s.url)] := by
  have hhops : requests (hops.map fun hop => .hop hop.method hop.url hop.headers hop.body timeout) =
      [] := by
    simp [requests, request?, List.filterMap_map, Function.comp_def]
  change (s.method, s.url) :: requests _ = _
  rw [hhops]

namespace Sending

/-- The method and the address of a request, as it is sent. -/
def asked (s : Sending) : String × String := (s.method, s.url)

variable {s s' : Sending}

theorem key_of_asked (h : s.asked = s'.asked) : s.key = s'.key :=
  congrArg (fun asked : String × String => asked.1 ++ " " ++ asked.2) h

theorem goOn_of_asked (h : s.asked = s'.asked) (status : Int) (url : String) :
    (s.goOn status url).asked = (s'.goOn status url).asked :=
  congrArg (fun asked : String × String => (methodAfter status asked.1, url)) h

end Sending

namespace World

/-- What a request carries is of no account for its way: it goes on alike, ends alike and uses
up the same answers. -/
theorem settle_of_asked {s s' : Sending} (h : s.asked = s'.asked) (budget : Nat)
    (replies : Replies) :
    (settle budget replies s).toEnding = (settle budget replies s').toEnding ∧
      (settle budget replies s).hops.map Sending.asked =
        (settle budget replies s').hops.map Sending.asked ∧
      (settle budget replies s).replies = (settle budget replies s').replies := by
  have hurl : s.url = s'.url := congrArg Prod.snd h
  induction budget generalizing s s' replies with
  | zero =>
    unfold settle
    rw [Sending.key_of_asked h, hurl]
    cases takeReply s'.key replies with
    | none => exact ⟨rfl, rfl, rfl⟩
    | some found =>
      obtain ⟨reply, left⟩ := found
      cases reply.turn <;> exact ⟨rfl, rfl, rfl⟩
  | succ budget ih =>
    unfold settle
    rw [Sending.key_of_asked h, hurl]
    cases takeReply s'.key replies with
    | none => exact ⟨rfl, rfl, rfl⟩
    | some found =>
      obtain ⟨reply, left⟩ := found
      dsimp only
      cases reply.turn with
      | done outcome => exact ⟨rfl, rfl, rfl⟩
      | on status target =>
        cases target with
        | error failure => exact ⟨rfl, rfl, rfl⟩
        | ok url =>
          have hnext := Sending.goOn_of_asked h status url
          obtain ⟨hending, hhops, hreplies⟩ := ih hnext left rfl
          refine ⟨hending, ?_, hreplies⟩
          dsimp only
          rw [List.map_cons, List.map_cons, hnext, hhops]

/-- The exchanges that begin with requests, and the answers that are left. -/
def replay : Replies → List (String × String) → List Exchange × Replies
  | replies, [] => ([], replies)
  | replies, (method, url) :: rest =>
    let o := settle maxRedirects replies ⟨method, url, [], .none⟩
    let (talk, last) := replay o.replies rest
    (⟨o.toEnding, method, url, o.hops.map Sending.asked⟩ :: talk, last)

theorem replay_append (replies : Replies) (a b : List (String × String)) :
    replay replies (a ++ b) =
      ((replay replies a).1 ++ (replay (replay replies a).2 b).1,
        (replay (replay replies a).2 b).2) := by
  induction a generalizing replies with
  | nil => rfl
  | cons request a ih =>
    obtain ⟨method, url⟩ := request
    simp only [List.cons_append, replay, ih]

/-- The exchanges between two moments. -/
def Talked (w w' : World) (talk : List Exchange) : Prop :=
  ∃ asked, Event.requests w'.events = Event.requests w.events ++ asked ∧
    replay w.exchanges asked = (talk, w'.exchanges)

/-- The answers that are left, and the transfers up to now. -/
def traffic (w : World) : Replies × List Event := (w.exchanges, w.events.filter Event.isTransfer)

/-- The number of the answers that are left. -/
def answersLeft (w : World) : Nat := (w.exchanges.flatMap fun e => e.2).length

variable {w w' w'' : World} {talk talk' : List Exchange}

theorem Talked.silent (h : w'.traffic = w.traffic) : Talked w w' [] := by
  obtain ⟨hexchanges, hevents⟩ := Prod.ext_iff.mp h
  have hrequests (w : World) : Event.requests (w.traffic).2 = Event.requests w.events :=
    Event.filterMap_transfers (fun e he => by cases e <;> trivial) w.events
  refine ⟨[], ?_, ?_⟩
  · rw [List.append_nil, ← hrequests, hevents, hrequests]
  · rw [replay]
    exact congrArg _ hexchanges.symm

theorem Talked.trans (h : Talked w w' talk) (h' : Talked w' w'' talk') :
    Talked w w'' (talk ++ talk') := by
  obtain ⟨asked, hrequests, htalk⟩ := h
  obtain ⟨asked', hrequests', htalk'⟩ := h'
  refine ⟨asked ++ asked', by rw [hrequests', hrequests, List.append_assoc], ?_⟩
  rw [replay_append, htalk, htalk']

theorem takeReply_length {key : String} {replies left : Replies} {reply : HttpReply}
    (h : takeReply key replies = some (reply, left)) :
    (left.flatMap fun e => e.2).length + 1 = (replies.flatMap fun e => e.2).length := by
  induction replies generalizing left with
  | nil => cases h
  | cons e replies ih =>
    obtain ⟨k, own⟩ := e
    unfold takeReply at h
    split at h
    · cases own with
      | nil => cases h
      | cons first more =>
        cases h
        simp only [List.flatMap_cons, List.length_append, List.length_cons]
        omega
    · obtain ⟨⟨reply', left'⟩, htake, heq⟩ := Option.map_eq_some_iff.mp h
      cases heq
      have hrest := ih htake
      simp only [List.flatMap_cons, List.length_append]
      omega

/-- Each answer takes its time and is used up. -/
theorem settle_spends (budget : Nat) (replies : Replies) (s : Sending) :
    ((settle budget replies s).replies.flatMap fun e => e.2).length +
        (settle budget replies s).times.length = (replies.flatMap fun e => e.2).length := by
  induction budget generalizing s replies with
  | zero =>
    unfold settle
    cases htake : takeReply s.key replies with
    | none => rfl
    | some found =>
      obtain ⟨reply, left⟩ := found
      dsimp only
      cases reply.turn <;> exact takeReply_length htake
  | succ budget ih =>
    unfold settle
    cases htake : takeReply s.key replies with
    | none => rfl
    | some found =>
      obtain ⟨reply, left⟩ := found
      have hlength := takeReply_length htake
      dsimp only
      cases reply.turn with
      | done outcome => exact hlength
      | on status target =>
        cases target with
        | error failure => exact hlength
        | ok url =>
          have hrest := ih left (s.goOn status url)
          dsimp only
          rw [List.length_cons]
          omega

/-- A response is one of the answers that were left. -/
theorem settle_times {budget : Nat} {replies : Replies} {s : Sending} {response : Response}
    (h : (settle budget replies s).outcome = .ok response) :
    (settle budget replies s).times ≠ [] := by
  unfold settle at h ⊢
  cases htake : takeReply s.key replies with
  | none =>
    rw [htake] at h
    cases h
  | some found =>
    obtain ⟨reply, left⟩ := found
    dsimp only
    cases reply.turn with
    | done outcome => exact List.cons_ne_nil _ _
    | on status target =>
      cases budget with
      | zero => exact List.cons_ne_nil _ _
      | succ budget => cases target <;> exact List.cons_ne_nil _ _

theorem traffic_hidesFiles : HidesFiles traffic := by
  refine ⟨fun _ _ => rfl, fun _ _ => rfl, fun w level text => ?_⟩
  rw [traffic, List.filter_append]
  exact congrArg _ (List.append_nil _)

end World

/-- The exchange that a request begins. -/
def World.exchangeOf (w : World) (s : Sending) : Exchange :=
  let o := w.courseOf s
  ⟨o.toEnding, s.method, s.url, o.hops.map Sending.asked⟩

/-- A request is an exchange, and its answers are taken from those that are left. -/
theorem World.talked_sent (w : World) (s : Sending) (timeout : Json) :
    World.Talked w (w.sent s timeout) [w.exchangeOf s] := by
  have hsame : Sending.asked ⟨s.method, s.url, [], .none⟩ = s.asked := rfl
  obtain ⟨hending, hhops, hreplies⟩ := settle_of_asked hsame maxRedirects w.exchanges
  refine ⟨[(s.method, s.url)], ?_, ?_⟩
  · rw [← Event.requests_record s timeout (w.courseOf s).hops]
    exact Event.requests_append _ _
  · simp only [replay, exchangeOf, courseOf, hending, hhops, hreplies]
    rfl

/-- A request that can be sent is one exchange, and any other one is none. -/
theorem Act.send_talked (r : Request) (w : World) :
    (∃ error, send r w = (.ok (.error error), w)) ∨
      ∃ e : Exchange, e.method = r.method ∧ Address.Target.prepare r.url r.fields = .ok e.url ∧
        (send r w).1 = e.answer ∧ World.Talked w (send r w).2 [e] ∧
        ((∃ response, e.outcome = .ok response) →
          (send r w).2.answersLeft + 1 ≤ w.answersLeft) := by
  rcases send_cases r w with hnone | ⟨url, htarget, hsend⟩
  · exact .inl hnone
  · rw [hsend]
    let s : Sending := ⟨r.method, url, r.headers, r.body⟩
    refine .inr ⟨w.exchangeOf s, rfl, htarget, rfl, w.talked_sent s r.timeout, ?_⟩
    rintro ⟨response, hok⟩
    have hspent := World.settle_spends maxRedirects w.exchanges s
    have htimes := List.length_pos_iff.mpr (World.settle_times hok)
    change ((World.settle maxRedirects w.exchanges s).replies.flatMap fun e => e.2).length + 1 ≤ _
    unfold World.answersLeft
    omega

end Compositor
