import Compositor.Proofs.World.Act

/-!
# What the basic actions do

The result of each basic action and the world it leaves, as an equation. The worlds are
spelled out, so that what an action does not touch can be read off.
-/
namespace Compositor

variable {α β : Type}

namespace World

/-- The messages for one line of the log. -/
def messages (w : World) (level : LogLevel) (text : String) : List Event :=
  if w.logging then [.log level text] else []

/-- The answer of a command that runs to its end, by its last element. -/
def answer (w : World) (command : List Argument) (last : String) : RunReply :=
  if Act.hasNull command then .refused .nullCharacter
  else
    match takeRun last w.runs with
    | some (reply, _) => reply
    | none => w.platform.unforeseen command

/-- The elements of a command that are temporary files at the moment. -/
def present (w : World) (command : List String) : List String :=
  command.filter fun arg => arg.startsWith w.tempRoot && w.files.isFile arg

/-- An answer of a command leaves the answers of all others as they are. -/
theorem takeRun_other {key other : String} (hne : other ≠ key)
    {runs left : List (String × List RunReply)} {reply : RunReply}
    (h : takeRun key runs = some (reply, left)) :
    (takeRun other left).map Prod.fst = (takeRun other runs).map Prod.fst := by
  induction runs generalizing left with
  | nil => cases h
  | cons entry rest ih =>
    obtain ⟨k, replies⟩ := entry
    by_cases hk : (k == key) = true
    · have hskip : ¬(k == other) = true := fun he =>
        hne ((beq_iff_eq.mp he).symm.trans (beq_iff_eq.mp hk))
      simp only [takeRun, if_pos hk] at h
      cases replies with
      | nil => cases h
      | cons first more =>
        cases more <;> cases h <;>
          simp only [takeRun, if_neg hskip, Option.map_map, Function.comp_def]
    · simp only [takeRun, if_neg hk] at h
      obtain ⟨⟨found, rest'⟩, hrest, hsame⟩ := Option.map_eq_some_iff.mp h
      cases hsame
      have hlater := ih hrest
      by_cases ho : (k == other) = true
      · simp only [takeRun, if_pos ho]
        cases replies with
        | nil => rfl
        | cons first more => cases more <;> rfl
      · simpa only [takeRun, if_neg ho, Option.map_map, Function.comp_def] using hlater

/-- How the next process turns out. When nothing more is laid out, it succeeds in silence. -/
def nextProcess (w : World) : ProcessReply := w.processes.headD (.finished (some 0) "" [])

/-- A new manifest with a directory for its files. -/
def withManifest (w : World) (directory : String) : World :=
  { w with manifests := w.manifests ++ [⟨directory, []⟩] }

theorem withManifest_last (w : World) (directory : String) :
    (w.withManifest directory).manifests[w.manifests.length]? = some ⟨directory, []⟩ :=
  List.getElem?_concat_length

end World

namespace Act

theorem get_bind (f : World → Act β) (w : World) : ((get : Act World) >>= f) w = f w w := rfl

theorem getThe_bind (f : World → Act β) (w : World) :
    ((getThe World : Act World) >>= f) w = f w w := rfl

theorem modify_apply (f : World → World) (w : World) :
    (modify f : Act Unit) w = (.ok (), f w) := rfl

theorem set_apply (w w' : World) : (set w' : Act Unit) w = (.ok (), w') := rfl

theorem pure_apply (a : α) (w : World) : (pure a : Act α) w = (.ok a, w) := rfl

theorem emit_apply (e : Event) (w : World) :
    emit e w = (.ok (), { w with events := w.events ++ [e] }) := rfl

theorem log_apply (level : LogLevel) (text : String) (w : World) :
    log level text w = (.ok (), { w with events := w.events ++ w.messages level text }) := by
  rw [log, get_bind]
  unfold World.messages
  split
  · rfl
  · rw [List.append_nil]
    rfl

/-- What comes last succeeds and does not touch the result. -/
theorem andFinally_apply {act : Act α} {after : Act Unit} {w v v' : World}
    {r : Except Fault α} (hact : act w = (r, v)) (hafter : after v = (.ok (), v')) :
    andFinally act after w = (r, v') := by
  unfold andFinally
  rw [hact]
  dsimp only
  rw [hafter]

/-! ## Processes -/

theorem runCommand_apply {command : List Argument} {last : String}
    (hnull : hasNull command = false) (h : command.getLast? = some (.str last)) (timeout : Nat)
    (w : World) :
    ∃ runs, runCommand command timeout w =
        (.ok (w.answer command last),
          { w with runs, events := w.events ++ [.run command timeout] }) ∧
      ∀ other, other ≠ last →
        (World.takeRun other runs).map Prod.fst = (World.takeRun other w.runs).map Prod.fst := by
  rw [runCommand, World.answer, hnull, if_neg Bool.false_ne_true, if_neg Bool.false_ne_true,
    bind_apply, emit_apply]
  dsimp only
  rw [get_bind, h]
  dsimp only
  cases htake : World.takeRun last w.runs with
  | none => exact ⟨_, rfl, fun _ _ => rfl⟩
  | some found => exact ⟨_, rfl, fun other hne => World.takeRun_other hne htake⟩

/-- The system is not asked to run a command with a NUL in it. -/
theorem runCommand_null {command : List Argument} (hnull : hasNull command = true)
    (timeout : Nat) (w : World) :
    runCommand command timeout w = (.ok (.refused .nullCharacter), w) := by
  rw [runCommand, hnull, if_pos rfl]
  rfl

theorem spawn_apply (launch : Launch) (command : List String) (output errors : Redirect)
    (w : World) :
    spawn launch command output errors w = (.ok w.nextProcess, { w with
      processes := w.processes.tail
      events := w.events ++
        [.spawn launch command .devnull output errors (w.present command)] }) := by
  rw [spawn, get_bind, bind_apply, emit_apply, World.nextProcess]
  cases w.processes <;> rfl

end Act

/-! ## Requests -/

/-- A request, or a request with which another one was sent on. -/
def Event.isTransfer : Event → Bool
  | .request .. | .hop .. => true
  | _ => false

/-- A request with which another one was sent on. -/
def Event.isHop : Event → Bool
  | .hop .. => true
  | _ => false

theorem Sending.transfers_of_mem_record {s : Sending} {timeout : Json} {hops : List Sending}
    {e : Event} (h : e ∈ s.record timeout hops) : e.isTransfer = true := by
  rcases List.mem_cons.mp h with rfl | h
  · rfl
  · obtain ⟨hop, -, rfl⟩ := List.mem_map.mp h
    rfl

theorem Ending.outcome_of_answer {e : Ending} {response : Response} {place : String}
    (h : e.answer = .ok (.ok (response, place))) : e.outcome = .ok response := by
  unfold answer at h
  split at h
  · cases h
    assumption
  · cases h
  · cases h

namespace Act

/-- A request that can be sent is followed to its end. -/
theorem send_apply {r : Request} {url : String}
    (htarget : Address.Target.prepare r.url r.fields = .ok url)
    (hheaders : Request.headerError? r.headers = none) (w : World) :
    send r w = ((w.courseOf ⟨r.method, url, r.headers, r.body⟩).answer,
      w.sent ⟨r.method, url, r.headers, r.body⟩ r.timeout) := by
  rw [send, htarget]
  dsimp only
  rw [hheaders]
  dsimp only
  rw [get_bind, bind_apply, set_apply]
  dsimp only
  cases Ending.answer _ <;> rfl

/-- A request cannot be sent, or it is followed to its end. -/
theorem send_cases (r : Request) (w : World) :
    (∃ e, send r w = (.ok (.error e), w)) ∨
      ∃ url, Address.Target.prepare r.url r.fields = .ok url ∧
        send r w = ((w.courseOf ⟨r.method, url, r.headers, r.body⟩).answer,
          w.sent ⟨r.method, url, r.headers, r.body⟩ r.timeout) := by
  cases htarget : Address.Target.prepare r.url r.fields with
  | error e =>
    rw [send, htarget]
    exact .inl ⟨_, rfl⟩
  | ok url =>
    cases hheaders : Request.headerError? r.headers with
    | some e =>
      rw [send, htarget]
      dsimp only
      rw [hheaders]
      exact .inl ⟨_, rfl⟩
    | none => exact .inr ⟨url, rfl, send_apply htarget hheaders w⟩

end Act

/-! ## Contexts and manifests -/

theorem Context.ofId_apply {id : ContextId} {w : World} {c : Context}
    (hc : w.contexts[id.index]? = some c) : ofId id w = (.ok c, w) := by
  rw [ofId, Act.getThe_bind, hc]
  rfl

theorem Context.ofId_missing {id : ContextId} {w : World} (hc : w.contexts[id.index]? = none) :
    ofId id w = (.error .noAttribute, w) := by
  rw [ofId, Act.getThe_bind, hc]
  rfl

theorem Manifest.ofId_apply {id : ManifestId} {w : World} {m : Manifest}
    (hm : w.manifests[id.index]? = some m) : ofId id w = (.ok m, w) := by
  rw [ofId, Act.getThe_bind, hm]
  rfl

theorem Manifest.create_apply {context : ContextId} {w : World} {c : Context}
    (hc : w.contexts[context.index]? = some c) :
    create context w = (.ok ⟨w.manifests.length⟩, w.withManifest c.directory) := by
  rw [create, Act.bind_apply, Context.ofId_apply hc]
  rfl

end Compositor
