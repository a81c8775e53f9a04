import Mathlib.Data.List.Basic
import Compositor.Json.Conversion

/-!
# Reading digits

A text of digits of any scripts is read as the number that they are, as long as each of them is a
decimal digit and there are not too many. What counts as a digit but has no place in a decimal
number cannot be read.
-/
namespace Compositor

namespace Text

/-- The blanks around numbers. -/
def numberBlanks : List Nat := [0x20, 0x09, 0x0A, 0x0B, 0x0C, 0x0D, 0x85, 0xA0, 0x1680, 0x2000,
    0x2001, 0x2002, 0x2003, 0x2004, 0x2005, 0x2006, 0x2007, 0x2008, 0x2009, 0x200A, 0x2028,
    0x2029, 0x202F, 0x205F, 0x3000]

theorem mem_numberBlanks {c : Char} (h : isNumberBlank c = true) : c.toNat ∈ numberBlanks := by
  simp only [isNumberBlank, isWideBlank, Bool.or_eq_true, Bool.and_eq_true, beq_iff_eq,
    decide_eq_true_eq] at h
  simp only [numberBlanks, List.mem_cons, List.not_mem_nil, or_false]
  omega

/-- No blank is a digit. -/
theorem isNumberBlank_of_digitLike {c : Char} (h : isDigitLike c = true) :
    isNumberBlank c = false := by
  have hblanks : ∀ n ∈ numberBlanks, isDigitLike (Char.ofNat n) = false := by decide +kernel
  by_contra hblank
  have hnone := hblanks _ (mem_numberBlanks ((Bool.not_eq_false _).mp hblank))
  rw [Char.ofNat_toNat, h] at hnone
  cases hnone

theorem decimalValue?_lt {c : Char} {d : Nat} (h : decimalValue? c = some d) : d < 10 := by
  unfold decimalValue? at h
  dsimp only at h
  split at h
  · rename_i hdigit
    obtain rfl := Option.some.inj h
    simp only [Bool.and_eq_true, decide_eq_true_eq, Char.le_def, UInt32.le_iff_toNat_le] at hdigit
    change c.toNat - 48 < 10
    have hlast : c.toNat ≤ 57 := hdigit.2
    omega
  · split at h
    · cases h
    · obtain ⟨first, hfind, rfl⟩ := Option.map_eq_some_iff.mp h
      have hrange := List.find?_some hfind
      simp only [Bool.and_eq_true, decide_eq_true_eq] at hrange
      omega

/-- The ASCII digit in place of a digit of any script, and a character that is no digit in place
of any other. -/
def plainDigit (c : Char) : Char :=
  match decimalValue? c with
  | some d => Char.ofNat ('0'.toNat + d)
  | none => '?'

theorem plainDigit_cases (c : Char) : plainDigit c = '?' ∧ decimalValue? c = none ∨
    ∃ d < 10, decimalValue? c = some d ∧ plainDigit c = Char.ofNat (48 + d) := by
  unfold plainDigit
  cases h : decimalValue? c with
  | none => exact .inl ⟨rfl, rfl⟩
  | some d => exact .inr ⟨d, decimalValue?_lt h, rfl, rfl⟩

theorem plainDigit_isDigit (c : Char) : (plainDigit c).isDigit = (decimalValue? c).isSome := by
  have hdigits : ∀ d < 10, (Char.ofNat (48 + d)).isDigit = true := by decide
  rcases plainDigit_cases c with ⟨hplain, hnone⟩ | ⟨d, hd, hsome, hplain⟩
  · rw [hplain, hnone]
    rfl
  · rw [hplain, hsome, hdigits d hd]
    rfl

theorem plainDigit_ne (c : Char) :
    plainDigit c ≠ '_' ∧ plainDigit c ≠ '-' ∧ plainDigit c ≠ '+' := by
  have hdigits : ∀ d < 10, Char.ofNat (48 + d) ≠ '_' ∧ Char.ofNat (48 + d) ≠ '-' ∧
      Char.ofNat (48 + d) ≠ '+' := by decide
  rcases plainDigit_cases c with ⟨hplain, -⟩ | ⟨d, hd, -, hplain⟩
  · rw [hplain]
    decide
  · rw [hplain]
    exact hdigits d hd

/-- Below the other scripts there are no digits but those of ASCII. -/
theorem plainDigit_of_ascii {c : Char} (h : isDigitLike c = true) (hascii : c.toNat < 0x80) :
    plainDigit c = c := by
  have hplain : ∀ n < 0x80, isDigitLike (Char.ofNat n) = true →
      plainDigit (Char.ofNat n) = Char.ofNat n := by decide +kernel
  have hchar := hplain c.toNat hascii
  rw [Char.ofNat_toNat] at hchar
  exact hchar h

/-- Characters that all count as digits. -/
def DigitLike (cs : List Char) : Prop := ∀ c ∈ cs, isDigitLike c = true

/-- The number that digits are, whatever their scripts. -/
def number (cs : List Char) : Nat := cs.foldl (fun n c => 10 * n + (decimalValue? c).getD 0) 0

end Text

namespace Decimal

open Text (DigitLike plainDigit)

variable {cs : List Char}

theorem asciiDigits_eq (h : DigitLike cs) : asciiDigits cs = cs.map plainDigit := by
  refine List.map_congr_left fun c hc => ?_
  split
  · rename_i hascii
    exact (Text.plainDigit_of_ascii (h c hc) hascii).symm
  · rfl

/-- Nothing around digits is dropped. -/
theorem trimWith_eq {drop : Char → Bool} (h : ∀ c ∈ cs, drop c = false) :
    Text.trimWith drop cs = cs := by
  have hkeep {ds : List Char} (hds : ∀ c ∈ ds, drop c = false) : ds.dropWhile drop = ds := by
    cases ds with
    | nil => rfl
    | cons c ds => rw [List.dropWhile_cons, hds c List.mem_cons_self, if_neg Bool.false_ne_true]
  have hreverse : ∀ c ∈ cs.reverse, drop c = false := fun c hc => h c (List.mem_reverse.mp hc)
  rw [Text.trimWith, hkeep h, hkeep hreverse, List.reverse_reverse]

/-- Nothing is dropped between digits. -/
theorem joinDigits?_eq (h : '_' ∉ cs) (afterDigit : Bool) :
    joinDigits? afterDigit cs = some cs := by
  induction cs generalizing afterDigit with
  | nil => rfl
  | cons c cs ih =>
    have hc : c ≠ '_' := fun heq => h (heq ▸ List.mem_cons_self)
    have hmore := ih fun hmem => h (List.mem_cons_of_mem c hmem)
    have hone : joinDigits? afterDigit (c :: cs) =
        if c == '_' then none else (joinDigits? c.isDigit cs).map (c :: ·) := by
      rw [joinDigits?]
      rintro d rest rfl
      exact absurd rfl hc
    rw [hone, hmore, if_neg (by simpa using hc)]
    rfl

theorem numberChars?_eq {s : String} (h : DigitLike s.toList) :
    numberChars? s = some (s.toList.map plainDigit) := by
  have hblank : ∀ c ∈ s.toList, Text.isNumberBlank c = false :=
    fun c hc => Text.isNumberBlank_of_digitLike (h c hc)
  have hunderscore : '_' ∉ s.toList.map plainDigit := by
    intro hmem
    obtain ⟨c, -, hc⟩ := List.mem_map.mp hmem
    exact (Text.plainDigit_ne c).1 hc
  rw [numberChars?, trimWith_eq hblank, asciiDigits_eq h, joinDigits?_eq hunderscore]

theorem splitSign_eq : splitSign (cs.map plainDigit) = (false, cs.map plainDigit) := by
  cases cs with
  | nil => rfl
  | cons c cs =>
    obtain ⟨-, hminus, hplus⟩ := Text.plainDigit_ne c
    rw [List.map_cons, splitSign]
    · intro rest heq
      exact hminus (List.cons.inj heq).1
    · intro rest heq
      exact hplus (List.cons.inj heq).1

theorem ofDigits_eq (h : ∀ c ∈ cs, (Text.decimalValue? c).isSome) :
    ofDigits (cs.map plainDigit) = Text.number cs := by
  have hvalues : ∀ d < 10, (Char.ofNat (48 + d)).toNat - '0'.toNat = d := by decide
  have hfold (n : Nat) : (cs.map plainDigit).foldl
      (fun v d => 10 * v + (d.toNat - '0'.toNat)) n =
      cs.foldl (fun n c => 10 * n + (Text.decimalValue? c).getD 0) n := by
    induction cs generalizing n with
    | nil => rfl
    | cons c cs ih =>
      obtain ⟨hc, hcs⟩ := List.forall_mem_cons.mp h
      rcases Text.plainDigit_cases c with ⟨-, hnone⟩ | ⟨d, hd, hsome, hplain⟩
      · rw [hnone] at hc
        cases hc
      · rw [List.map_cons, List.foldl_cons, List.foldl_cons, hplain, hvalues d hd, hsome]
        exact ih hcs _
  exact hfold 0

/-- A text of digits is a number if they are decimal digits and not too many. -/
theorem readInt?_digits {s : String} (h : DigitLike s.toList) (hne : s.toList ≠ []) :
    readInt? s = if s.toList.all (fun c => (Text.decimalValue? c).isSome) ∧
      s.toList.length ≤ digitLimit then some (Text.number s.toList : Int) else none := by
  have hdigits : (s.toList.map plainDigit).all Char.isDigit =
      s.toList.all fun c => (Text.decimalValue? c).isSome := by
    simp only [List.all_map, Function.comp_def, Text.plainDigit_isDigit]
  have hempty : (s.toList.map plainDigit).isEmpty = false := by
    simpa using hne
  rw [readInt?, numberChars?_eq h, Option.bind_some, splitSign_eq]
  dsimp only
  rw [hempty, hdigits, List.length_map]
  by_cases hread : s.toList.all (fun c => (Text.decimalValue? c).isSome) ∧
      s.toList.length ≤ digitLimit
  · have hrefused : (false || !s.toList.all (fun c => (Text.decimalValue? c).isSome) ||
        decide (digitLimit < s.toList.length)) = false := by
      rw [hread.1, decide_eq_false (Nat.not_lt.mpr hread.2)]
      rfl
    rw [hrefused, if_neg Bool.false_ne_true, if_pos hread,
      ofDigits_eq (List.all_eq_true.mp hread.1)]
    rfl
  · have hrefused : (false || !s.toList.all (fun c => (Text.decimalValue? c).isSome) ||
        decide (digitLimit < s.toList.length)) = true := by
      by_contra haccepted
      rw [Bool.not_eq_true, Bool.false_or, Bool.or_eq_false_iff, Bool.not_eq_false',
        decide_eq_false_iff_not, Nat.not_lt] at haccepted
      exact hread haccepted
    rw [hrefused, if_pos rfl, if_neg hread]

end Decimal

end Compositor
