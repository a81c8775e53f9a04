import Compositor.Proofs.Fault.Values
import Compositor.Background
import Compositor.Foreground

/-!
# Actions that never miswire

`x.Yields post`: in every world, if the action `x` ends, `post` holds of its answer, and
otherwise its fault is none of wiring. Nothing is said about the world it leaves. The
rules follow the structure of actions, as those of `GraphBuilder.Assembles` do for
builders. Talking to tools and servers yields, whatever they answer.
-/
namespace Compositor

variable {α β : Type}

namespace Act

/-- Going on in the world that an action leaves, or with its fault. -/
theorem bind_apply (x : Act α) (f : α → Act β) (w : World) :
    (x >>= f) w = match x w with
      | (.ok a, w') => f a w'
      | (.error e, w') => (.error e, w') := by
  change ExceptT.bind x f w = _
  simp only [ExceptT.bind, ExceptT.mk, Bind.bind, StateT.bind, ExceptT.bindCont]
  cases x w with
  | mk r w' => cases r <;> rfl

theorem bind_ok {x : Act α} {f : α → Act β} {w : World} {b : β} (h : ((x >>= f) w).1 = .ok b) :
    ∃ a w', x w = (.ok a, w') ∧ (f a w').1 = .ok b := by
  rw [bind_apply] at h
  match hx : x w with
  | (.ok a, w') => rw [hx] at h; exact ⟨a, w', rfl, h⟩
  | (.error e, w') => rw [hx] at h; cases h

theorem bind_eq_ok {x : Act α} {f : α → Act β} {w w'' : World} {b : β}
    (h : (x >>= f) w = (.ok b, w'')) : ∃ a w', x w = (.ok a, w') ∧ f a w' = (.ok b, w'') := by
  rw [bind_apply] at h
  match hx : x w with
  | (.ok a, w') => rw [hx] at h; exact ⟨a, w', rfl, h⟩
  | (.error e, w') => rw [hx] at h; cases h

theorem bind_error {x : Act α} {f : α → Act β} {w : World} {e : Fault}
    (h : ((x >>= f) w).1 = .error e) :
    (x w).1 = .error e ∨ ∃ a w', x w = (.ok a, w') ∧ (f a w').1 = .error e := by
  rw [bind_apply] at h
  match hx : x w with
  | (.ok a, w') => rw [hx] at h; exact .inr ⟨a, w', rfl, h⟩
  | (.error e', w') => rw [hx] at h; cases h; exact .inl rfl

/-- What is true of the world behind an action, and stays true in whatever follows, is true in
the end. -/
theorem bind_stays {P : World → Prop} {x : Act α} {f : α → Act β} {w : World} (hx : P (x w).2)
    (hf : ∀ a w', P w' → P (f a w').2) : P ((x >>= f) w).2 := by
  rw [bind_apply]
  match hrun : x w with
  | (.ok a, w') =>
    rw [hrun] at hx
    exact hf a w' hx
  | (.error e, w') =>
    rw [hrun] at hx
    exact hx

theorem ofExcept_ok {r : Except Fault α} {w w' : World} {a : α}
    (h : ofExcept r w = (.ok a, w')) : r = .ok a := by
  cases r with
  | ok b => cases h; rfl
  | error e => cases h

theorem ofExcept_bind_ok {r : Except Fault α} {f : α → Act β} {w : World} {b : β}
    (h : ((ofExcept r >>= f) w).1 = .ok b) : ∃ a, r = .ok a ∧ (f a w).1 = .ok b := by
  cases r with
  | ok a => exact ⟨a, rfl, h⟩
  | error e => cases h

theorem ofExcept_error {r : Except Fault α} {w : World} {e : Fault}
    (h : (ofExcept r w).1 = .error e) : r = .error e := by
  cases r with
  | ok b => cases h
  | error e' => cases h; rfl

/-- What an action answers in any world. -/
def Yields (x : Act α) (post : α → Prop) : Prop :=
  ∀ w, match (x w).1 with
    | .ok a => post a
    | .error e => e.isWiring = false

namespace Yields

variable {x : Act α} {post : α → Prop}

theorem post_of_ok (hx : x.Yields post) {w : World} {a : α} (h : (x w).1 = .ok a) : post a := by
  have hw := hx w
  rwa [h] at hw

theorem clean (hx : x.Yields post) (w : World) : Clean (x w).1 := by
  intro e h
  have hw := hx w
  rwa [h] at hw

theorem pure {a : α} (h : post a) : (Pure.pure a : Act α).Yields post := fun _ => h

theorem forget (hx : x.Yields post) : x.Yields fun _ => True := by
  intro w
  have hw := hx w
  cases h : (x w).1 with
  | ok a => exact trivial
  | error e => rwa [h] at hw

theorem bind {f : α → Act β} {post' : β → Prop} (hx : x.Yields post)
    (hf : ∀ a, post a → (f a).Yields post') : (x >>= f).Yields post' := by
  intro w
  have hw := hx w
  rw [bind_apply]
  match h : x w with
  | (.ok a, w') =>
    rw [h] at hw
    exact hf a hw w'
  | (.error e, w') =>
    rw [h] at hw
    exact hw

theorem ite {p : Prop} [Decidable p] {y : Act α} (hx : x.Yields post) (hy : y.Yields post) :
    (if p then x else y).Yields post := by
  split
  · exact hx
  · exact hy

theorem fail {e : Fault} (h : e.isWiring = false) : (Act.fail e : Act α).Yields post := fun _ => h

theorem ofExcept {r : Except Fault α} (hr : Clean r) :
    (Act.ofExcept r).Yields fun a => r = .ok a := by
  intro w
  cases r with
  | ok a => exact rfl
  | error e => exact hr e rfl

end Yields

/-! ## Looking at the world and changing it -/

theorem yields_get : (get : Act World).Yields fun _ => True := fun _ => trivial

theorem yields_getThe : (getThe World : Act World).Yields fun _ => True := fun _ => trivial

theorem yields_set (w : World) : (set w : Act Unit).Yields fun _ => True := fun _ => trivial

theorem yields_modify (f : World → World) : (modify f : Act Unit).Yields fun _ => True :=
  fun _ => trivial

theorem yields_log (level : LogLevel) (message : String) :
    (log level message).Yields fun _ => True :=
  .bind yields_get fun _ _ => .ite (yields_modify _) (.pure trivial)

theorem yields_runCommand (command : List Argument) (timeout : Nat) :
    (runCommand command timeout).Yields fun _ => True := by
  refine .ite (.pure trivial) (.bind (yields_modify _) fun _ _ => .bind yields_get fun w _ => ?_)
  split
  · split
    · exact .bind (yields_set _) fun _ _ => .pure trivial
    · exact .pure trivial
  · exact .fail rfl

theorem clean_answer (e : Ending) : Clean e.answer := by
  unfold Ending.answer
  split
  · exact clean_ok _
  · exact clean_ok _
  · exact (clean_error _).mpr rfl

theorem yields_send (r : Request) : (send r).Yields fun _ => True := by
  unfold send
  split
  · exact .pure trivial
  · split
    · exact .pure trivial
    · exact .bind yields_get fun _ _ => .bind (yields_set _) fun _ _ =>
        (Yields.ofExcept (clean_answer _)).forget

theorem yields_claim {make : FileTree → String → Except SystemError FileTree}
    {pathFor : String → Except Fault String} (h : ∀ s, Clean (pathFor s)) (tries : Nat) :
    (claim make pathFor tries).Yields fun _ => True := by
  induction tries with
  | zero => exact .fail rfl
  | succ tries ih =>
    have hname : freshName.Yields fun _ => True :=
      .bind yields_get fun _ _ => .bind (yields_set _) fun _ _ => .pure trivial
    refine .bind hname fun name _ => .bind ((Yields.ofExcept (h name))) fun path _ =>
      .bind yields_get fun w _ => ?_
    split
    · exact .bind (yields_modify _) fun _ _ => .pure trivial
    · exact ih
    · exact .fail (Fault.isWiring_ofSystem _)

theorem yields_freshFile (directory : String) (before after : Json) :
    (freshFile directory before after).Yields fun _ => True := by
  have hpart : ∀ default v, Clean (pathPart default v) := by
    intro default v
    unfold pathPart
    split <;> simp [Fault.isWiring]
  have htries : tries.Yields fun _ => True := .bind yields_get fun _ _ => .pure trivial
  exact .bind yields_getThe fun _ _ => .bind htries fun tries _ => yields_claim
    (fun _ => .bind (hpart _ _) fun _ => .bind (hpart _ _) fun _ => clean_pure _) tries

end Act

/-! ## Contexts and decoders -/

theorem Context.yields_ofId (id : ContextId) : (ofId id).Yields fun _ => True := by
  refine .bind Act.yields_getThe fun w _ => ?_
  split
  · exact .pure trivial
  · exact .fail rfl

theorem Context.yields_hasDecoder (id : ContextId) (name : String) :
    (hasDecoder id name).Yields fun _ => True := by
  have hask : ∀ ffmpeg, (askDecoder ffmpeg name).Yields fun _ => True := by
    intro ffmpeg
    refine .bind (Act.yields_runCommand _ _) fun reply _ => ?_
    split
    · exact .ite (.pure trivial) (.bind (Act.yields_log _ _) fun _ _ => .pure trivial)
    · exact .bind (Act.yields_log _ _) fun _ _ => .pure trivial
    · exact .bind (Act.yields_log _ _) fun _ _ => .pure trivial
  refine .bind (yields_ofId id) fun c _ => ?_
  split
  · exact .pure trivial
  · exact .bind (hask _) fun _ _ => .bind (Act.yields_log _ _) fun _ _ =>
      .bind (Act.yields_modify _) fun _ _ => .pure trivial

theorem Manifest.yields_path (id : ManifestId) (suffix start : Json) :
    (path id suffix start).Yields fun _ => True := by
  have hid : (ofId id).Yields fun _ => True := by
    refine .bind Act.yields_getThe fun w _ => ?_
    split
    · exact .pure trivial
    · exact .fail rfl
  exact .bind hid fun _ _ => .bind (Act.yields_freshFile _ _ _) fun _ _ =>
    .bind (Act.yields_modify _) fun _ _ => .pure trivial

/-! ## Downloads -/

namespace Download

theorem clean_extension (guess : String → Option String) (contentType : Option String)
    (url : String) (default : Json) : Clean (extension guess contentType url default) := by
  unfold extension
  split
  · exact clean_ok _
  · exact .bind (.bind (Locator.clean_parts url) fun _ => clean_ok _) fun _ => clean_ok _

theorem yields_fetch (url : String) (timeout : Json) :
    (fetch url timeout).Yields fun _ => True := by
  refine .bind (Act.yields_send _) fun reply _ => ?_
  split
  · exact .fail rfl
  · split
    · exact .fail rfl
    · exact .pure trivial

theorem yields_store (url path : String) (response : Response) :
    (store url path response).Yields fun _ => True := by
  refine .bind Act.yields_getThe fun w _ => ?_
  split
  · exact .fail (Fault.isWiring_ofStep _ _)
  · refine .bind (Act.yields_modify _) fun _ _ => ?_
    split
    · exact .fail rfl
    · exact Act.yields_log _ _

theorem yields_toFile (url : String) {makePath : Json → Act String}
    (h : ∀ ext, (makePath ext).Yields fun _ => True) (default timeout : Json) :
    (toFile url makePath default timeout).Yields fun _ => True :=
  .bind (Act.yields_log _ _) fun _ _ => .bind (yields_fetch url timeout) fun _ _ =>
    .bind (.ofExcept (clean_extension _ _ _ _)) fun ext _ => .bind (h ext) fun _ _ =>
      .bind (yields_store _ _ _) fun _ _ => .pure trivial

end Download

end Compositor
