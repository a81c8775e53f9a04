import Compositor.Proofs.Decimal.Digits
import Compositor.Proofs.Decimal.Whole

/-!
# Numerals

Digits after an optional sign are read as the double nearest to the whole number that they
write, up to the sign. With a point between the digits they can be read too.
-/
namespace Compositor.Decimal

/-- The texts in front of a number; true stands for minus. -/
inductive IsSign : List Char → Bool → Prop
  | absent : IsSign [] false
  | plus : IsSign ['+'] false
  | minus : IsSign ['-'] true

/-- Digits after an optional sign, and the whole number that they write. -/
inductive WholeNumeral (s : String) : Int → Prop
  | positive {sign digits : List Char} (hsign : IsSign sign false) (hne : digits ≠ [])
    (hdigits : ∀ c ∈ digits, c.isDigit = true) (hs : s.toList = sign ++ digits) :
    WholeNumeral s (ofDigits digits)
  | negative {sign digits : List Char} (hsign : IsSign sign true) (hne : digits ≠ [])
    (hdigits : ∀ c ∈ digits, c.isDigit = true) (hs : s.toList = sign ++ digits) :
    WholeNumeral s (-(ofDigits digits : Int))

/-- Digits after an optional sign, with a point or without, but not the point alone. -/
inductive DecimalNumeral (s : String) : Prop
  | whole {negative : Bool} {sign digits : List Char} (hsign : IsSign sign negative)
    (hne : digits ≠ []) (hdigits : ∀ c ∈ digits, c.isDigit = true)
    (hs : s.toList = sign ++ digits)
  | pointed {negative : Bool} {sign before behind : List Char} (hsign : IsSign sign negative)
    (hne : before ++ behind ≠ []) (hdigits : ∀ c ∈ before ++ behind, c.isDigit = true)
    (hs : s.toList = sign ++ (before ++ '.' :: behind))

/-! ## The characters of numerals -/

/-- The characters that stand in numerals. -/
def IsMark (c : Char) : Prop := c.isDigit = true ∨ c = '.' ∨ c = '+' ∨ c = '-'

theorem toNat_of_isDigit {c : Char} (h : c.isDigit = true) : 48 ≤ c.toNat ∧ c.toNat ≤ 57 := by
  simpa [Char.isDigit, UInt32.le_iff_toNat_le] using h

theorem IsMark.range {c : Char} (h : IsMark c) : 43 ≤ c.toNat ∧ c.toNat ≤ 57 := by
  rcases h with h | rfl | rfl | rfl
  · have := toNat_of_isDigit h
    omega
  · decide
  · decide
  · decide

theorem IsMark.not_blank {c : Char} (h : IsMark c) : Text.isNumberBlank c = false := by
  have hrange := h.range
  by_contra hblank
  have hmem := Text.mem_numberBlanks ((Bool.not_eq_false _).mp hblank)
  simp only [Text.numberBlanks, List.mem_cons, List.not_mem_nil, or_false] at hmem
  omega

/-- Nothing has to be done before a numeral can be read. -/
theorem numberChars?_of_marks {s : String} (h : ∀ c ∈ s.toList, IsMark c) :
    numberChars? s = some s.toList := by
  have hascii : asciiDigits s.toList = s.toList := by
    refine (List.map_congr_left fun c hc => ?_).trans (List.map_id _)
    have hrange := (h c hc).range
    exact if_pos (by omega)
  have hunderscore : '_' ∉ s.toList := fun hmem => by
    have hrange := (h '_' hmem).range
    exact absurd hrange.2 (by decide)
  rw [numberChars?, trimWith_eq fun c hc => (h c hc).not_blank, hascii,
    joinDigits?_eq hunderscore]

/-! ## Reading -/

/-- What stands behind the sign of a numeral. -/
structure IsBody (body : List Char) : Prop where
  marks : ∀ c ∈ body, c.isDigit = true ∨ c = '.'
  nonempty : body ≠ []

theorem IsSign.splitSign {sign body : List Char} {negative : Bool} (h : IsSign sign negative)
    (hbody : IsBody body) : splitSign (sign ++ body) = (negative, body) := by
  cases h with
  | plus => rfl
  | minus => rfl
  | absent =>
    rw [List.nil_append]
    unfold Decimal.splitSign
    split
    · exact absurd (hbody.marks '-' List.mem_cons_self) (by decide)
    · exact absurd (hbody.marks '+' List.mem_cons_self) (by decide)
    · rfl

/-- No word begins as a number does. -/
theorem IsBody.not_word {body : List Char} (h : IsBody body) {c : Char}
    (hc : c.isAlpha = true) (word : List Char) :
    (String.ofList (body.map Char.toLower) == String.ofList (c :: word)) = false := by
  obtain ⟨d, rest, rfl⟩ := List.exists_cons_of_ne_nil h.nonempty
  rw [beq_eq_false_iff_ne, Ne, String.ofList_inj, List.map_cons]
  intro heq
  have hhead : d.toLower = c := (List.cons.inj heq).1
  have hlower : d.toLower.isAlpha = false := by
    have hall : ∀ n < 58, (Char.ofNat n).toLower.isAlpha = false := by decide
    have hd : d.toNat < 58 := by
      rcases h.marks d List.mem_cons_self with hdigit | rfl
      · have := toNat_of_isDigit hdigit
        omega
      · decide
    have hchar := hall d.toNat hd
    rwa [Char.ofNat_toNat] at hchar
  rw [hhead, hc] at hlower
  cases hlower

theorem readFloat?_of_body {s : String} {sign body : List Char} {negative : Bool}
    (hsign : IsSign sign negative) (hbody : IsBody body) (hs : s.toList = sign ++ body) :
    readFloat? s = readUnsigned? negative body := by
  have hmarks : ∀ c ∈ s.toList, IsMark c := by
    intro c hc
    rw [hs, List.mem_append] at hc
    rcases hc with hc | hc
    · cases hsign with
      | absent => cases hc
      | plus => exact .inr (.inr (.inl (List.mem_singleton.mp hc)))
      | minus => exact .inr (.inr (.inr (List.mem_singleton.mp hc)))
    · exact (hbody.marks c hc).imp_right .inl
  have hinf := hbody.not_word (c := 'i') rfl ['n', 'f']
  have hinfinity := hbody.not_word (c := 'i') rfl ['n', 'f', 'i', 'n', 'i', 't', 'y']
  have hnan := hbody.not_word (c := 'n') rfl ['a', 'n']
  rw [readFloat?, numberChars?_of_marks hmarks, Option.bind_some, hs, readSigned?,
    hsign.splitSign hbody]
  dsimp only
  change (if (_ == String.ofList ['i', 'n', 'f'] ||
    _ == String.ofList ['i', 'n', 'f', 'i', 'n', 'i', 't', 'y']) = true then _
    else if (_ == String.ofList ['n', 'a', 'n']) = true then _ else _) = _
  rw [hinf, hinfinity, hnan]
  rfl

theorem takeWhile_digits {digits : List Char} (h : ∀ c ∈ digits, c.isDigit = true)
    {rest : List Char} (hrest : ∀ c ∈ rest.head?, c.isDigit = false) :
    (digits ++ rest).takeWhile Char.isDigit = digits ∧
      (digits ++ rest).dropWhile Char.isDigit = rest := by
  rw [List.takeWhile_append_of_pos h, List.dropWhile_append_of_pos h]
  cases rest with
  | nil => simp
  | cons c rest => simp [hrest c rfl]

theorem readUnsigned?_digits {digits : List Char} (hne : digits ≠ [])
    (h : ∀ c ∈ digits, c.isDigit = true) (negative : Bool) :
    readUnsigned? negative digits = some (toFloat negative (ofDigits digits) 0) := by
  have hend : ∀ c ∈ ([] : List Char).head?, c.isDigit = false := nofun
  obtain ⟨htake, hdrop⟩ := takeWhile_digits h hend
  rw [List.append_nil] at htake hdrop
  rw [readUnsigned?, htake, hdrop]
  simp [hne, readExponent?]

theorem readUnsigned?_pointed {before behind : List Char} (hne : before ++ behind ≠ [])
    (h : ∀ c ∈ before ++ behind, c.isDigit = true) (negative : Bool) :
    ∃ x, readUnsigned? negative (before ++ '.' :: behind) = some x := by
  obtain ⟨hbefore, hbehind⟩ := List.forall_mem_append.mp h
  have hend : ∀ c ∈ ([] : List Char).head?, c.isDigit = false := nofun
  have hpoint : ∀ c ∈ ('.' :: behind).head?, c.isDigit = false := by simp
  obtain ⟨htake, hdrop⟩ := takeWhile_digits hbefore hpoint
  obtain ⟨htake', hdrop'⟩ := takeWhile_digits hbehind hend
  rw [List.append_nil] at htake' hdrop'
  rw [readUnsigned?, htake, hdrop]
  simp only [htake', hdrop']
  rw [if_neg (by simpa using hne)]
  exact ⟨_, rfl⟩

/-- Numerals are read. -/
theorem DecimalNumeral.readFloat? {s : String} (h : DecimalNumeral s) :
    ∃ x, Decimal.readFloat? s = some x := by
  cases h with
  | whole hsign hne hdigits hs =>
    have hbody : IsBody _ := ⟨fun c hc => .inl (hdigits c hc), hne⟩
    rw [readFloat?_of_body hsign hbody hs, readUnsigned?_digits hne hdigits]
    exact ⟨_, rfl⟩
  | @pointed _ _ before behind hsign hne hdigits hs =>
    have hbody : IsBody (before ++ '.' :: behind) := by
      obtain ⟨hbefore, hbehind⟩ := List.forall_mem_append.mp hdigits
      refine ⟨fun c hc => ?_, by simp⟩
      rcases List.mem_append.mp hc with hc | hc
      · exact .inl (hbefore c hc)
      · rcases List.mem_cons.mp hc with rfl | hc
        · exact .inr rfl
        · exact .inl (hbehind c hc)
    rw [readFloat?_of_body hsign hbody hs]
    exact readUnsigned?_pointed hne hdigits _

/-! ## The size of what is read -/

/-- A whole number is rounded as it is, or it has so many digits that it is too large. -/
theorem hasSize_toFloat (negative : Bool) (n : Nat) : HasSize (toFloat negative n 0) n := by
  have hpositive : HasSize (toFloat false n 0) n := by
    rcases n.eq_zero_or_pos with rfl | hpos
    · exact .inl (by rfl)
    have hsmall : (n == 0 || decide (((toString n).length : Int) + 0 < -400)) = false := by
      rw [beq_false_of_ne hpos.ne', decide_eq_false (by omega)]
      rfl
    have hshape : toFloat false n 0 = if (400 : Int) < ((toString n).length : Int) + 0
        then 1.0 / 0.0 else Float.ofInt n := by
      unfold toFloat
      dsimp only
      rw [hsmall]
      rfl
    rw [hshape]
    split
    · rename_i hmany
      have hlarge : 10 ^ 400 ≤ n := by
        by_contra hlt
        have hlength : (toString n).length ≤ 400 :=
          Nat.repr_length n 400 (by decide) (not_le.mp hlt)
        omega
      exact .inl ((value?_of_digits le_rfl hlarge).symm ▸ rfl)
    · exact .inl rfl
  cases negative with
  | false => exact hpositive
  | true => exact hpositive.neg

/-- A whole numeral is read as a double of its size. -/
theorem WholeNumeral.readFloat? {s : String} {r : Int} (h : WholeNumeral s r) :
    ∃ x, Decimal.readFloat? s = some x ∧ HasSize x r.natAbs := by
  cases h with
  | positive hsign hne hdigits hs =>
    have hbody : IsBody _ := ⟨fun c hc => .inl (hdigits c hc), hne⟩
    rw [readFloat?_of_body hsign hbody hs, readUnsigned?_digits hne hdigits]
    exact ⟨_, rfl, hasSize_toFloat _ _⟩
  | negative hsign hne hdigits hs =>
    have hbody : IsBody _ := ⟨fun c hc => .inl (hdigits c hc), hne⟩
    rw [readFloat?_of_body hsign hbody hs, readUnsigned?_digits hne hdigits, Int.natAbs_neg]
    exact ⟨_, rfl, hasSize_toFloat _ _⟩

end Compositor.Decimal
