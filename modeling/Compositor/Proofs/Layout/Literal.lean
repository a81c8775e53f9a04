import Compositor.Json.Arithmetic
import Compositor.Proofs.Decimal.Value
import Compositor.Proofs.Layout.Formula

/-!
# Numbers in formulas

A number that is written into a formula is a numeral there, with or without a point and an
exponent, and its value is that of the digits that were written. For an integer this is the
integer. For a double these are the digits of the shortest decimal that reads back as it.
-/
namespace Compositor

namespace Formula.Numeral

variable {ds : List Char}

theorem read?_whole (h : ∀ c ∈ ds, c.isDigit = true) (digits : Nat) :
    (whole digits).read? ds = some (whole (Nat.ofDigitChars 10 ds digits)) := by
  induction ds generalizing digits with
  | nil => rfl
  | cons c ds ih =>
    obtain ⟨hc, hds⟩ := List.forall_mem_cons.mp h
    have hnext : (whole digits).next? c = some (whole (10 * digits + digitValue c)) := by
      rw [next?, if_pos hc]
    rw [read?, List.foldlM_cons, hnext, Nat.ofDigitChars_cons]
    exact ih hds _

theorem read?_fraction (h : ∀ c ∈ ds, c.isDigit = true) (digits places : Nat) :
    (fraction digits places).read? ds =
      some (fraction (Nat.ofDigitChars 10 ds digits) (places + ds.length)) := by
  induction ds generalizing digits places with
  | nil => rfl
  | cons c ds ih =>
    obtain ⟨hc, hds⟩ := List.forall_mem_cons.mp h
    have hnext : (fraction digits places).next? c =
        some (fraction (10 * digits + digitValue c) (places + 1)) := by
      rw [next?, if_pos hc]
    rw [read?, List.foldlM_cons, hnext, Nat.ofDigitChars_cons, List.length_cons]
    refine (ih hds _ _).trans ?_
    rw [digitValue, Nat.add_right_comm, Nat.add_assoc places]

theorem read?_power (h : ∀ c ∈ ds, c.isDigit = true) (hne : ds ≠ []) (digits places : Nat)
    (negative : Bool) (exponent : Option Nat) :
    (power digits places negative exponent).read? ds =
      some (power digits places negative (some (Nat.ofDigitChars 10 ds (exponent.getD 0)))) := by
  induction ds generalizing exponent with
  | nil => exact absurd rfl hne
  | cons c ds ih =>
    obtain ⟨hc, hds⟩ := List.forall_mem_cons.mp h
    have hnext : (power digits places negative exponent).next? c =
        some (power digits places negative (some (10 * exponent.getD 0 + digitValue c))) := by
      rw [next?, if_pos hc]
    rw [read?, List.foldlM_cons, hnext, Nat.ofDigitChars_cons]
    by_cases hds' : ds = []
    · subst hds'
      rfl
    · exact ih hds hds' _

/-- Digits with a point between them. -/
theorem read?_point {before behind : List Char} (h : ∀ c ∈ before ++ behind, c.isDigit = true) :
    (whole 0).read? (before ++ '.' :: behind) =
      some (fraction (Nat.ofDigitChars 10 (before ++ behind) 0) behind.length) := by
  obtain ⟨hbefore, hbehind⟩ := List.forall_mem_append.mp h
  have hpoint (digits : Nat) : (whole digits).read? ('.' :: behind) =
      (fraction digits 0).read? behind := rfl
  rw [read?_append, read?_whole hbefore, Option.bind_some, hpoint, read?_fraction hbehind,
    Nat.zero_add, Nat.ofDigitChars_append]

/-- An exponent behind its letter. -/
theorem read?_scaled (h : ∀ c ∈ ds, c.isDigit = true) (hne : ds ≠ []) (digits places : Nat)
    (negative : Bool) :
    (scaled digits places).read? ((if negative then '-' else '+') :: ds) =
      some (power digits places negative (some (Nat.ofDigitChars 10 ds 0))) := by
  have hsign : (scaled digits places).next? (if negative then '-' else '+') =
      some (power digits places negative none) := by
    cases negative <;> rfl
  rw [read?, List.foldlM_cons, hsign]
  exact read?_power h hne digits places negative none

end Formula.Numeral

namespace Formula

open Decimal.Scaled (zeros)

/-! ## Digits -/

/-- The characters are digits, and they are a number. There may be zeros in front of it. -/
structure Digits (ds : List Char) (n : Nat) : Prop where
  isDigit : ∀ c ∈ ds, c.isDigit = true
  ne_nil : ds ≠ []
  value : Nat.ofDigitChars 10 ds 0 = n

theorem digits_toString (n : Nat) : Digits (toString n).toList n := by
  have hdigits : (toString n).toList = Nat.toDigits 10 n := Nat.toList_repr
  rw [hdigits]
  constructor
  · exact fun c hc => Nat.isDigit_of_mem_toDigits (by decide) (by decide) hc
  · exact Nat.toDigits_ne_nil
  · exact Nat.ofDigitChars_ten_toDigits

/-- What begins with digits has a digit as its first character. -/
theorem first_isDigit {ds : List Char} (h : ∀ c ∈ ds, c.isDigit = true) (hne : ds ≠ [])
    (rest : List Char) : ∃ c ∈ (ds ++ rest).head?, c.isDigit = true := by
  cases ds with
  | nil => exact absurd rfl hne
  | cons c ds => exact ⟨c, rfl, h c List.mem_cons_self⟩

theorem zeros_isDigit (k : Nat) : ∀ c ∈ (zeros k).toList, c.isDigit = true := by
  intro c hc
  rw [zeros, String.toList_ofList] at hc
  rw [(List.mem_replicate.mp hc).2]
  decide

theorem ofDigitChars_zeros (k digits : Nat) :
    Nat.ofDigitChars 10 (zeros k).toList digits = 10 ^ k * digits := by
  rw [zeros, String.toList_ofList]
  exact Nat.ofDigitChars_replicate_zero

namespace Digits

variable {ds : List Char} {n : Nat} (h : Digits ds n)
include h

theorem length_pos : 0 < ds.length := List.length_pos_of_ne_nil h.ne_nil

theorem take_ne_nil {k : Nat} (hk : 0 < k) : ds.take k ≠ [] := by
  rw [Ne, List.take_eq_nil_iff]
  rintro (hzero | hnil)
  · omega
  · exact h.ne_nil hnil

theorem isLiteral : IsLiteral ds n where
  first := by
    have hfirst := first_isDigit h.isDigit h.ne_nil []
    rwa [List.append_nil] at hfirst
  read := ⟨_, Numeral.read?_whole h.isDigit 0, by rw [h.value]; rfl⟩

/-- Zeros in front of a number do not change it. -/
theorem zeros_append (k : Nat) : Digits ((zeros k).toList ++ ds) n where
  isDigit := List.forall_mem_append.mpr ⟨zeros_isDigit k, h.isDigit⟩
  ne_nil := List.append_ne_nil_of_right_ne_nil _ h.ne_nil
  value := by rw [Nat.ofDigitChars_append, ofDigitChars_zeros, Nat.mul_zero, h.value]

theorem append_zeros (k : Nat) : Digits (ds ++ (zeros k).toList) (10 ^ k * n) where
  isDigit := List.forall_mem_append.mpr ⟨h.isDigit, zeros_isDigit k⟩
  ne_nil := List.append_ne_nil_of_left_ne_nil h.ne_nil _
  value := by rw [Nat.ofDigitChars_append, h.value, ofDigitChars_zeros]

end Digits

end Formula

open Formula (Digits IsLiteral Numeral digits_toString)

theorem isLiteral_nat (n : Nat) : IsLiteral (toString n).toList n := (digits_toString n).isLiteral

namespace Decimal

namespace Scaled

/-- The exact value. -/
def value (s : Scaled) : ℚ := s.digits * (10 : ℚ) ^ s.exponent

variable {s : Scaled} {ds : List Char}

/-- Digits around a point are a numeral of the value if the point stands where it should. -/
theorem isLiteral_point {before behind : List Char} {more : Nat}
    (h : Digits (before ++ behind) (10 ^ more * s.digits)) (hne : before ≠ [])
    (hplaces : (more : Int) - behind.length = s.exponent) :
    IsLiteral (before ++ '.' :: behind) s.value where
  first := Formula.first_isDigit (List.forall_mem_append.mp h.isDigit).1 hne _
  read := by
    refine ⟨_, Numeral.read?_point h.isDigit, ?_⟩
    rw [Numeral.value?, h.value, value, ← hplaces, zpow_sub₀ (by norm_num), zpow_natCast,
      zpow_natCast]
    push_cast
    congr 1
    ring

/-- The digits stand behind the point and behind zeros. -/
theorem isLiteral_small (h : Digits ds s.digits) {k : Nat} (hk : s.exponent + ds.length + k = 0) :
    IsLiteral ("0." ++ zeros k ++ String.ofList ds).toList s.value := by
  have htext : ("0." ++ zeros k ++ String.ofList ds).toList =
      ['0'] ++ '.' :: ((zeros k).toList ++ ds) := by
    simp
  have hlength : (zeros k).toList.length = k := by
    rw [zeros, String.toList_ofList, List.length_replicate]
  have hzero : Digits (['0'] ++ ((zeros k).toList ++ ds)) (10 ^ 0 * s.digits) := by
    rw [Nat.pow_zero, Nat.one_mul]
    exact (h.zeros_append k).zeros_append 1
  rw [htext]
  apply isLiteral_point hzero (List.cons_ne_nil _ _)
  rw [List.length_append, hlength]
  omega

/-- Zeros stand in front of the point. -/
theorem isLiteral_large (h : Digits ds s.digits) {k : Nat} (hk : s.exponent = k) :
    IsLiteral (String.ofList ds ++ zeros k ++ "." ++ "0").toList s.value := by
  have htext : (String.ofList ds ++ zeros k ++ "." ++ "0").toList =
      ds ++ (zeros k).toList ++ '.' :: ['0'] := by
    simp
  have hzeros : Digits (ds ++ (zeros k).toList ++ ['0']) (10 ^ (k + 1) * s.digits) := by
    have hmore := (h.append_zeros k).append_zeros 1
    rwa [← Nat.mul_assoc, ← Nat.pow_add, Nat.add_comm 1] at hmore
  rw [htext]
  apply isLiteral_point hzeros (List.append_ne_nil_of_left_ne_nil h.ne_nil _)
  rw [List.length_singleton]
  omega

/-- The point stands among the digits. -/
theorem isLiteral_mixed (h : Digits ds s.digits) {p : Nat} (hpos : 0 < p) (hp : p < ds.length)
    (hplace : s.exponent + ds.length = p) :
    IsLiteral (String.ofList (ds.take p) ++ "." ++ String.ofList (ds.drop p)).toList s.value := by
  have htext : (String.ofList (ds.take p) ++ "." ++ String.ofList (ds.drop p)).toList =
      ds.take p ++ '.' :: ds.drop p := by
    simp
  have hsplit : Digits (ds.take p ++ ds.drop p) (10 ^ 0 * s.digits) := by
    rwa [List.take_append_drop, Nat.pow_zero, Nat.one_mul]
  rw [htext]
  apply isLiteral_point hsplit (h.take_ne_nil hpos)
  rw [List.length_drop]
  omega

variable (s)

theorem isLiteral_positional : IsLiteral s.positional.toList s.value := by
  have hds := digits_toString s.digits
  have hlength : (toString s.digits).length = (toString s.digits).toList.length :=
    String.length_toList.symm
  unfold positional leading
  rw [hlength]
  generalize (toString s.digits).toList = ds at hds ⊢
  dsimp only
  split
  · apply isLiteral_small hds
    omega
  · generalize hplace : (s.exponent + ds.length - 1 + 1).toNat = p
    by_cases hshort : ds.length ≤ p
    · have hrest : (ds.drop p).isEmpty = true :=
        List.isEmpty_iff.mpr (List.drop_eq_nil_of_le hshort)
      rw [hrest, if_pos rfl, List.take_of_length_le hshort]
      apply isLiteral_large hds
      omega
    · have hrest : (ds.drop p).isEmpty = false := by
        rw [List.isEmpty_eq_false_iff]
        exact fun hnil => hshort (List.drop_eq_nil_iff.mp hnil)
      have hpadding : zeros (p - ds.length) = "" := by
        have hzero : p - ds.length = 0 := by omega
        rw [hzero]
        rfl
      rw [hrest, if_neg Bool.false_ne_true, hpadding, String.append_empty]
      apply isLiteral_mixed hds
      · omega
      · omega
      · omega

/-- The digits in front of an exponent. -/
def significand (ds : List Char) : List Char :=
  ds.take 1 ++ if ds.length ≤ 1 then [] else '.' :: ds.drop 1

variable {s}

theorem read?_significand (h : ∀ c ∈ ds, c.isDigit = true) :
    (Numeral.whole 0).read? (significand ds ++ ['e']) =
      some (.scaled (Nat.ofDigitChars 10 ds 0) (ds.length - 1)) := by
  rw [Numeral.read?_append, significand]
  by_cases hone : ds.length ≤ 1
  · have hplaces : ds.length - 1 = 0 := by omega
    rw [if_pos hone, List.append_nil, List.take_of_length_le hone, Numeral.read?_whole h, hplaces]
    rfl
  · have hsplit : ∀ c ∈ ds.take 1 ++ ds.drop 1, c.isDigit = true := by
      rwa [List.take_append_drop]
    rw [if_neg hone, Numeral.read?_point hsplit, List.take_append_drop, List.length_drop]
    rfl

/-- Digits, an exponent and its sign are a numeral of the value if the exponent is right. -/
theorem isLiteral_exponent (h : Digits ds s.digits) {size : List Char} {l : Int}
    (hsize : Digits size l.natAbs) (hl : l = s.exponent + ds.length - 1) :
    IsLiteral (significand ds ++ ['e'] ++ (if decide (l < 0) then '-' else '+') :: size)
      s.value := by
  have hread : (Numeral.whole 0).read? (significand ds ++ ['e'] ++
      (if decide (l < 0) then '-' else '+') :: size) =
      some (.power s.digits (ds.length - 1) (decide (l < 0)) (some l.natAbs)) := by
    rw [Numeral.read?_append, read?_significand h.isDigit, Option.bind_some, h.value,
      Numeral.read?_scaled hsize.isDigit hsize.ne_nil, hsize.value]
  have hpower : (if decide (l < 0) then ((10 : ℚ) ^ l.natAbs)⁻¹ else 10 ^ l.natAbs) = 10 ^ l := by
    cases l with
    | ofNat n => simp
    | negSucc n => simp [zpow_negSucc]
  have hpos := h.length_pos
  have hplaces : s.exponent = l - (ds.length - 1 : Nat) := by omega
  refine ⟨?_, _, hread, ?_⟩
  · have htake : ∀ c ∈ ds.take 1, c.isDigit = true :=
      fun c hc => h.isDigit c (List.mem_of_mem_take hc)
    rw [significand, List.append_assoc, List.append_assoc]
    exact Formula.first_isDigit htake (h.take_ne_nil one_pos) _
  · rw [Numeral.value?, Option.map_some, hpower, value, hplaces, zpow_sub₀ (by norm_num),
      zpow_natCast]
    congr 1
    ring

variable (s)

theorem isLiteral_scientific (style : Style) : IsLiteral (s.scientific style).toList s.value := by
  have hds := digits_toString s.digits
  have hlength : (toString s.digits).length = (toString s.digits).toList.length :=
    String.length_toList.symm
  have hleading : s.leading = s.exponent + (toString s.digits).toList.length - 1 := by
    rw [leading, hlength]
  unfold scientific
  generalize (toString s.digits).toList = ds at hds hleading ⊢
  generalize s.leading = l at hleading ⊢
  dsimp only
  generalize style.exponentDigits - (toString l.natAbs).length = k
  have htext : (String.ofList (ds.take 1) ++
      (if ds.length ≤ 1 then "" else "." ++ String.ofList (ds.drop 1)) ++ "e" ++
      (if l < 0 then "-" else "+") ++ (zeros k ++ toString l.natAbs)).toList =
      significand ds ++ ['e'] ++ (if decide (l < 0) then '-' else '+') ::
        ((zeros k).toList ++ (toString l.natAbs).toList) := by
    by_cases hone : ds.length ≤ 1 <;> by_cases hneg : l < 0 <;> simp [significand, hone, hneg]
  rw [htext]
  exact isLiteral_exponent hds ((digits_toString l.natAbs).zeros_append k) hleading

theorem isLiteral_text (style : Style) : IsLiteral (s.text style).toList s.value := by
  unfold text
  split
  · exact s.isLiteral_positional
  · exact s.isLiteral_scientific style

end Scaled

/-- The value of the decimal as which a double is written. -/
def printed? (x : Float) : Option ℚ :=
  (Dyadic.ofFloat? x).map fun d => if isNegative x then -d.shortest.value else d.shortest.value

/-- What stands for zero is written as zero. -/
theorem printed?_of_zero {x : Float} (hzero : (x == 0) = true) {v : ℚ}
    (h : printed? x = some v) : v = 0 := by
  obtain ⟨d, hd, rfl⟩ := Option.map_eq_some_iff.mp h
  have hvalue : ((d.value : ℝ) : EReal) = 0 :=
    Option.some.inj ((value?_of_dyadic hd).symm.trans (beq_zero_iff.mp hzero))
  have hrational : d.value = 0 := by exact_mod_cast hvalue
  have hmantissa : d.mantissa = 0 := by
    rw [Dyadic.value_eq] at hrational
    by_contra hne
    have hpos := Dyadic.magnitude_pos (Nat.pos_of_ne_zero hne) d.exponent
    split at hrational
    · linarith
    · linarith
  have hshortest : d.shortest = ⟨0, 0⟩ := by
    rw [Dyadic.shortest, hmantissa]
    rfl
  rw [hshortest]
  simp [Scaled.value]

end Decimal

/-- A sign and a numeral, and the value of both. -/
def IsSigned (text : String) (value : ℚ) : Prop :=
  ∃ (negative : Bool) (literal : String) (size : ℚ),
    text = (if negative then "-" else "+") ++ literal ∧ IsLiteral literal.toList size ∧
      value = if negative then -size else size

theorem Decimal.isSigned_signedText {x : Float} {v : ℚ} (h : printed? x = some v) :
    IsSigned (signedText x) v := by
  obtain ⟨d, hd, rfl⟩ := Option.map_eq_some_iff.mp h
  have hmagnitude : magnitudeText x = d.shortest.text Style.plain := by rw [magnitudeText, hd]
  refine ⟨isNegative x, magnitudeText x, d.shortest.value, rfl, ?_, rfl⟩
  rw [hmagnitude]
  exact d.shortest.isLiteral_text Style.plain

theorem isSigned_int (n : Int) :
    IsSigned ((if n < 0 then "" else "+") ++ toString n) n := by
  cases n with
  | ofNat n =>
    refine ⟨false, toString n, n, ?_, isLiteral_nat n, by simp⟩
    rw [if_neg (by simp)]
    rfl
  | negSucc n =>
    refine ⟨true, toString (n + 1), (n + 1 : Nat), ?_, isLiteral_nat (n + 1), by simp⟩
    rw [if_pos (Int.negSucc_lt_zero n), String.empty_append]
    rfl

namespace Json

/-- The value of the decimal as which a number is written. -/
def printed? (v : Json) : Option ℚ :=
  match v.number? with
  | some (.int n) => some n
  | some (.real x) => Decimal.printed? x
  | none => none

/-- A number that stands for nothing is written as zero. -/
theorem printed?_of_falsy {v : Json} (hfalsy : v.isTruthy = false) {x : ℚ}
    (h : v.printed? = some x) : x = 0 := by
  cases v with
  | bool b =>
    obtain rfl : b = false := hfalsy
    simpa [printed?, number?, eq_comm] using h
  | int n =>
    obtain rfl : n = 0 := by simpa [isTruthy] using hfalsy
    simpa [printed?, number?, eq_comm] using h
  | real y => exact Decimal.printed?_of_zero (by simpa [isTruthy] using hfalsy) h
  | _ => cases h

/-- With its sign, a number is written as its value. -/
theorem isSigned_signedText {v : Json} {x : ℚ} (h : v.printed? = some x) :
    ∃ text, v.signedText = .ok text ∧ IsSigned text x := by
  cases v with
  | bool b =>
    cases b with
    | true => exact ⟨_, rfl, Option.some.inj h ▸ isSigned_int 1⟩
    | false => exact ⟨_, rfl, Option.some.inj h ▸ isSigned_int 0⟩
  | int n => exact ⟨_, rfl, Option.some.inj h ▸ isSigned_int n⟩
  | real y => exact ⟨_, rfl, Decimal.isSigned_signedText h⟩
  | _ => cases h

end Json

end Compositor
