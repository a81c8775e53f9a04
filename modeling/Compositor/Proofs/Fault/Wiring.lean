import Compositor.Fault

/-!
# Faults of wiring

A graph that refuses a statement and a name that is in no table are faults of wiring.
`Clean` says of a computation that it never ends in one, whatever else may go wrong.
-/
namespace Compositor

variable {α β : Type}

/-- A sequence of two computations ends when both do. -/
theorem bind_eq_ok {ε : Type} {x : Except ε α} {f : α → Except ε β} {b : β} :
    (x >>= f) = .ok b ↔ ∃ a, x = .ok a ∧ f a = .ok b := by
  cases x with
  | ok a => exact ⟨fun h => ⟨a, rfl, h⟩, fun ⟨_, he, h⟩ => by cases he; exact h⟩
  | error e => exact ⟨nofun, fun ⟨_, he, _⟩ => nomatch he⟩

theorem ok_of_toOption {ε : Type} {x : Except ε α} {a : α} (h : x.toOption = some a) :
    x = .ok a := by
  cases x with
  | ok b => exact congrArg Except.ok (Option.some.inj h)
  | error e => cases h

/-- What follows a step does not depend on its result, as far as success goes. -/
theorem bind_ok_iff {ε : Type} {x : Except ε α} {f : α → Except ε β} {p : Prop}
    (hf : ∀ a, x = .ok a → ((∃ b, f a = .ok b) ↔ p)) :
    (∃ b, (x >>= f) = .ok b) ↔ (∃ a, x = .ok a) ∧ p := by
  cases x with
  | error e => exact ⟨fun ⟨_, h⟩ => (nomatch h), fun ⟨⟨_, h⟩, _⟩ => (nomatch h)⟩
  | ok a => exact (hf a rfl).trans ⟨fun hp => ⟨⟨a, rfl⟩, hp⟩, And.right⟩

/-- A refused statement, or a name that is in no table. -/
def Fault.isWiring : Fault → Bool
  | .graph _ | .noKey => true
  | _ => false

@[simp] theorem Fault.isWiring_ofSystem (e : SystemError) :
    (Fault.ofSystem e).isWiring = false := by
  cases e <;> rfl

@[simp] theorem Fault.isWiring_ofStep (step : String → StepError) (e : SystemError) :
    (Fault.ofStep step e).isWiring = false := by
  cases e <;> rfl

/-- A result that is no fault of wiring. -/
def Clean (x : Except Fault α) : Prop := ∀ e, x = .error e → e.isWiring = false

@[simp] theorem clean_ok (a : α) : Clean (.ok a) := by
  intro e h
  cases h

@[simp] theorem clean_pure (a : α) : Clean (pure a) := clean_ok a

@[simp] theorem clean_error (e : Fault) : Clean (.error e : Except Fault α) ↔ e.isWiring = false :=
  ⟨fun h => h e rfl, fun h _ he => by cases he; exact h⟩

namespace Clean

theorem bind {x : Except Fault α} {f : α → Except Fault β} (hx : Clean x)
    (hf : ∀ a, Clean (f a)) : Clean (x >>= f) := by
  cases x with
  | ok a => exact hf a
  | error e => exact fun e' he => hx e' (by cases he; rfl)

theorem map {x : Except Fault α} (hx : Clean x) (f : α → β) : Clean (x.map f) := by
  cases x with
  | ok a => exact clean_ok _
  | error e => exact fun e' he => hx e' (by cases he; rfl)

theorem ite {p : Prop} [Decidable p] {x y : Except Fault α} (hx : Clean x) (hy : Clean y) :
    Clean (if p then x else y) := by
  split
  · exact hx
  · exact hy

end Clean

end Compositor
