import Compositor.Json.Arithmetic
import Compositor.Layout.Size
import Compositor.Proofs.Graph.Growing

/-!
# Numbers in a statement

Numbers of all kinds and sizes are written with digits, signs, a point, an exponent and a few
letters, so that none of them ever shows a mark of the structure around it.
-/
namespace Compositor

theorem Unmarked.ofList {cs : List Char} (h : ∀ c ∈ cs, c ∉ Markup.marks) :
    Unmarked (String.ofList cs) := by
  intro c hc
  rw [String.toList_ofList] at hc
  exact h c hc

/-- A part of a text without marks. -/
theorem Unmarked.sublist {s : String} (hs : Unmarked s) {cs : List Char}
    (h : cs.Sublist s.toList) : Unmarked (String.ofList cs) :=
  .ofList fun c hc => hs c (h.subset hc)

theorem unmarked_nat (n : Nat) : Unmarked (toString n) := by
  intro c hc
  have hdigits : c ∈ Nat.toDigits 10 n := by
    rw [← Nat.toList_repr]
    exact hc
  have hdigit : c.isDigit = true := Nat.isDigit_of_mem_toDigits (by decide) (by decide) hdigits
  intro hm
  simp only [Markup.marks, List.mem_cons, List.not_mem_nil, or_false] at hm
  rcases hm with rfl | rfl | rfl <;> exact absurd hdigit (by decide)

theorem unmarked_int (n : Int) : Unmarked (toString n) := by
  have hminus : Unmarked "-" := by decide
  cases n with
  | ofNat n => exact unmarked_nat n
  | negSucc n => exact hminus.append (unmarked_nat (n + 1))

namespace Decimal

theorem Scaled.unmarked_zeros (n : Nat) : Unmarked (Scaled.zeros n) := by
  refine .ofList fun c hc => ?_
  rw [(List.mem_replicate.mp hc).2]
  decide

theorem Scaled.unmarked_positional (s : Scaled) : Unmarked s.positional := by
  have hpart : ∀ cs : List Char, cs.Sublist (toString s.digits).toList →
      Unmarked (String.ofList cs) := fun cs h => (unmarked_nat s.digits).sublist h
  have hzero : Unmarked "0." := by decide
  have hpoint : Unmarked "." := by decide
  unfold positional
  dsimp only
  split
  · exact (hzero.append (unmarked_zeros _)).append (hpart _ (.refl _))
  · refine ((hpart _ (List.take_sublist _ _)).append (unmarked_zeros _)).append hpoint |>.append ?_
    split
    · decide
    · exact hpart _ (List.drop_sublist _ _)

theorem Scaled.unmarked_scientific (style : Style) (s : Scaled) :
    Unmarked (s.scientific style) := by
  have hpart : ∀ cs : List Char, cs.Sublist (toString s.digits).toList →
      Unmarked (String.ofList cs) := fun cs h => (unmarked_nat s.digits).sublist h
  have hpoint : Unmarked "." := by decide
  have he : Unmarked "e" := by decide
  unfold scientific
  dsimp only
  refine (((hpart _ (List.take_sublist _ _)).append ?_).append he).append ?_ |>.append
    ((unmarked_zeros _).append (unmarked_nat _))
  · split
    · decide
    · exact hpoint.append (hpart _ (List.drop_sublist _ _))
  · split <;> decide

theorem unmarked_magnitudeText (x : Float) : Unmarked (magnitudeText x) := by
  unfold magnitudeText
  split
  · unfold Scaled.text
    split
    · exact Scaled.unmarked_positional _
    · exact Scaled.unmarked_scientific _ _
  · split <;> decide

theorem unmarked_text (x : Float) : Unmarked (text x) := by
  refine Unmarked.append ?_ (unmarked_magnitudeText x)
  split <;> decide

theorem unmarked_signedText (x : Float) : Unmarked (signedText x) := by
  refine Unmarked.append ?_ (unmarked_magnitudeText x)
  split <;> decide

end Decimal

theorem Size.unmarked_paramText (x : Float) : Unmarked (Size.paramText x) := by
  unfold paramText
  split
  · split
    · exact unmarked_int _
    · exact Decimal.unmarked_text x
  · exact Decimal.unmarked_text x

namespace Json

/-- A value that is a number. -/
def IsNumber (v : Json) : Prop := ∃ n, v.number? = some n

theorem IsNumber.unmarked {v : Json} (h : v.IsNumber) : Unmarked v.text := by
  cases v with
  | bool b => cases b <;> decide
  | int n => exact unmarked_int n
  | real x => exact Decimal.unmarked_text x
  | _ => exact absurd h.choose_spec nofun

theorem isNumber_toJson (n : Number) : n.toJson.IsNumber := by
  cases n <;> exact ⟨_, rfl⟩

/-- A sum is a number, whatever was added. -/
theorem isNumber_add {a b c : Json} (h : a.add b = .ok c) : c.IsNumber := by
  obtain ⟨m, -, h⟩ := bind_eq_ok.mp h
  obtain ⟨n, -, h⟩ := bind_eq_ok.mp h
  cases hsum : m.add n with
  | ok s =>
    rw [hsum] at h
    cases h
    exact isNumber_toJson s
  | error e =>
    rw [hsum] at h
    cases h

/-- Only numbers are written with a sign. -/
theorem unmarked_signedText {v : Json} {text : String} (h : v.signedText = .ok text) :
    Unmarked text := by
  cases v with
  | real x =>
    cases h
    exact Decimal.unmarked_signedText x
  | str s => cases h
  | _ =>
    obtain ⟨n, -, h⟩ := bind_eq_ok.mp h
    cases n with
    | int n =>
      cases h
      refine Unmarked.append ?_ (unmarked_int n)
      split <;> decide
    | real x =>
      cases h
      exact Decimal.unmarked_signedText x

end Json

end Compositor
