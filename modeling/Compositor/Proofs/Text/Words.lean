import Compositor.Text.Lowercase
import Mathlib.Data.List.Infix

/-!
# Words in any letter case

A search for a word in a text that was lowered finds the parts of the text that are the word
but for the case of their letters, and nothing else. Beyond ASCII there are two characters to
look at: the kelvin sign is lowered to a letter, and the dotted capital I to a letter and a dot.
Letters of ASCII that are written in the other case make no difference to a lowered text.
-/
namespace Compositor.Text

/-- A word stands in a text, in whatever letter case. -/
def Mentions (text word : String) : Prop :=
  ∃ part, part <:+: text.toList ∧ part.map Char.toLower = word.toList

/-- A letter to which nothing is lowered but itself and its capital. The kelvin sign is lowered to
the letter k. -/
def IsStrict (c : Char) : Prop := 0 < c.toNat ∧ c.toNat < 0x80 ∧ c ≠ 'k'

instance : DecidablePred IsStrict := fun _ => inferInstanceAs (Decidable (_ ∧ _ ∧ _))

/-- No character beyond ASCII is lowered into it, the kelvin sign apart. -/
theorem shifts_strict : ∀ e ∈ lowercaseShifts, 0x80 ≤ e.2.1 →
    (0x80 : Int) ≤ e.1 + e.2.2.2 ∨ e.1 = e.2.1 ∧ (e.1 : Int) + e.2.2.2 = 0x6B := by
  decide +kernel

theorem toLower_eq {c : Char} (h : c.toNat < 65 ∨ 90 < c.toNat) : c.toLower = c := by
  unfold Char.toLower
  split
  · rename_i hcapital
    have hfirst : 65 ≤ c.toNat := hcapital.1
    have hlast : c.toNat ≤ 90 := hcapital.2
    omega
  · rfl

/-- A capital is lowered by 32. -/
theorem toNat_toLower {c : Char} (h : 65 ≤ c.toNat ∧ c.toNat ≤ 90) :
    c.toLower.toNat = c.toNat + 32 := by
  have hcapital : c.val ≥ 'A'.val ∧ c.val ≤ 'Z'.val := h
  unfold Char.toLower
  rw [dif_pos hcapital]
  change (c.val + 32).toNat = c.val.toNat + 32
  have hlast : c.val.toNat ≤ 90 := h.2
  rw [UInt32.toNat_add]
  change (c.val.toNat + 32) % 4294967296 = _
  omega

theorem toLower_cases (c : Char) :
    c.toLower = c ∨ 65 ≤ c.toNat ∧ c.toNat ≤ 90 ∧ c.toLower.toNat = c.toNat + 32 := by
  by_cases h : 65 ≤ c.toNat ∧ c.toNat ≤ 90
  · exact .inr ⟨h.1, h.2, toNat_toLower h⟩
  · exact .inl (toLower_eq (by omega))

theorem toLower_toLower (c : Char) : c.toLower.toLower = c.toLower := by
  rcases toLower_cases c with h | ⟨hfirst, hlast, h⟩
  · rw [h, h]
  · exact toLower_eq (.inr (by omega))

/-- Only the character itself is lowered into one that is no letter of ASCII. -/
theorem toLower_eq_iff {c d : Char} (hd : d.toNat < 65 ∨ 122 < d.toNat) :
    c.toLower = d ↔ c = d := by
  rcases toLower_cases c with h | ⟨hfirst, hlast, h⟩
  · rw [h]
  · refine iff_of_false ?_ ?_
    · rintro rfl
      omega
    · rintro rfl
      omega

/-- Beyond ASCII only the kelvin sign is lowered to a letter of ASCII. -/
theorem lowerChar_beyond {c : Char} (h : 0x80 ≤ c.toNat) :
    (lowerChar c).toNat = 0 ∨ lowerChar c = 'k' ∨ 0x80 ≤ (lowerChar c).toNat := by
  unfold lowerChar
  dsimp only
  rw [if_neg (not_lt.mpr h)]
  split
  · rename_i first last step shift hfound
    have hrange := List.find?_some hfound
    simp only [Bool.and_eq_true, decide_eq_true_eq] at hrange
    have hshift := shifts_strict _ (List.mem_of_find?_eq_some hfound)
    dsimp only at hshift
    generalize hn : ((c.toNat : Int) + shift).toNat = n
    by_cases hvalid : n.isValidChar
    · have hvalue : (Char.ofNat n).toNat = n := by
        rw [Char.ofNat, dif_pos hvalid]
        rfl
      rcases hshift (by omega) with hhigh | ⟨hone, hkelvin⟩
      · exact .inr (.inr (by omega))
      · obtain rfl : n = 0x6B := by omega
        exact .inr (.inl rfl)
    · rw [Char.ofNat, dif_neg hvalid]
      exact .inl rfl
  · exact .inr (.inr h)

/-- Only its capital is lowered into a strict letter, and the letter itself. -/
theorem lowerChar_eq_iff {c d : Char} (h : IsStrict c) : lowerChar d = c ↔ d.toLower = c := by
  by_cases hd : d.toNat < 0x80
  · have hlower : lowerChar d = d.toLower := if_pos hd
    rw [hlower]
  · rw [toLower_eq (.inr (by omega))]
    refine iff_of_false ?_ fun heq => hd (heq ▸ h.2.1)
    rintro rfl
    rcases lowerChar_beyond (not_lt.mp hd) with hzero | hkelvin | hbeyond
    · exact absurd h.1 (by omega)
    · exact h.2.2 hkelvin
    · exact absurd h.2.1 (not_lt.mpr hbeyond)

theorem lowerFrom_cons (before : List Char) (c : Char) (after : List Char) :
    lowerFrom before (c :: after) =
      (if c == '\u03A3' then
        [if touchesCased before && !touchesCased after then '\u03C2' else '\u03C3']
      else if c == '\u0130' then ['i', '\u0307'] else [lowerChar c]) ++
      lowerFrom (c :: before) after := rfl

/-- Text in ASCII is lowered letter by letter. -/
theorem lowerFrom_ascii {cs : List Char} (h : ∀ c ∈ cs, c.toNat < 0x80) (before : List Char) :
    lowerFrom before cs = cs.map Char.toLower := by
  induction cs generalizing before with
  | nil => rfl
  | cons c cs ih =>
    obtain ⟨hc, hrest⟩ := List.forall_mem_cons.mp h
    have hsigma : (c == '\u03A3') = false := by
      refine beq_false_of_ne ?_
      rintro rfl
      exact absurd hc (by decide)
    have hdotted : (c == '\u0130') = false := by
      refine beq_false_of_ne ?_
      rintro rfl
      exact absurd hc (by decide)
    have hlower : lowerChar c = c.toLower := if_pos hc
    rw [lowerFrom_cons, hsigma, hdotted, ih hrest, hlower]
    rfl

theorem toList_lower (s : String) : (lower s).toList = lowerFrom [] s.toList := by
  unfold lower
  split
  · rename_i hascii
    rw [String.toList_ofList, lowerFrom_ascii]
    simpa using hascii
  · exact String.toList_ofList

theorem toLower_lowerChar (c : Char) : (lowerChar c).toLower = lowerChar c := by
  by_cases h : c.toNat < 0x80
  · have hlower : lowerChar c = c.toLower := if_pos h
    rw [hlower, toLower_toLower]
  · rcases lowerChar_beyond (not_lt.mp h) with hzero | hkelvin | hbeyond
    · exact toLower_eq (.inl (by omega))
    · rw [hkelvin]
      rfl
    · exact toLower_eq (.inr (by omega))

/-- No letter of a lowered text is a capital in ASCII. -/
theorem toLower_of_mem_lowerFrom {before cs : List Char} {c : Char} (h : c ∈ lowerFrom before cs) :
    c.toLower = c := by
  induction cs generalizing before with
  | nil => cases h
  | cons d cs ih =>
    rw [lowerFrom_cons, List.mem_append] at h
    rcases h with h | h
    · split at h
      · -- the two small forms of sigma
        split at h <;> obtain rfl := List.mem_singleton.mp h <;> rfl
      · split at h
        · rcases List.mem_pair.mp h with rfl | rfl <;> rfl
        · obtain rfl := List.mem_singleton.mp h
          exact toLower_lowerChar d
    · exact ih h

/-- A character in front of the letters stands in a lowered text where it stood before. -/
theorem mem_lowerFrom_iff {c : Char} (hc : 0 < c.toNat ∧ c.toNat < 65) (before cs : List Char) :
    c ∈ lowerFrom before cs ↔ c ∈ cs := by
  have hstrict : IsStrict c := ⟨hc.1, by omega, by rintro rfl; exact absurd hc.2 (by decide)⟩
  have hsame (d : Char) : lowerChar d = c ↔ d = c := by
    rw [lowerChar_eq_iff hstrict, toLower_eq_iff (.inl hc.2)]
  have hother {d : Char} (hd : 65 ≤ d.toNat) : c ≠ d := by
    rintro rfl
    omega
  induction cs generalizing before with
  | nil => rfl
  | cons d cs ih =>
    rw [lowerFrom_cons, List.mem_append, List.mem_cons]
    refine or_congr ?_ (ih (d :: before))
    split
    · rename_i hsigma
      obtain rfl := beq_iff_eq.mp hsigma
      refine iff_of_false ?_ (hother (by decide))
      rw [List.mem_singleton]
      split
      · exact hother (by decide)
      · exact hother (by decide)
    · split
      · rename_i hdotted
        obtain rfl := beq_iff_eq.mp hdotted
        refine iff_of_false ?_ (hother (by decide))
        rw [List.mem_pair, not_or]
        exact ⟨hother (by decide), hother (by decide)⟩
      · rw [List.mem_singleton, eq_comm, hsame, eq_comm]

/-- Texts that are lowered to the same have the same characters in front of the letters. -/
theorem mem_iff_of_lowerFrom {c : Char} (hc : 0 < c.toNat ∧ c.toNat < 65)
    {before before' cs cs' : List Char} (h : lowerFrom before cs = lowerFrom before' cs') :
    c ∈ cs ↔ c ∈ cs' := by
  rw [← mem_lowerFrom_iff hc before, h, mem_lowerFrom_iff hc]

theorem IsStrict.ne_beyond {c d : Char} (h : IsStrict c) (hd : 0x80 ≤ d.toNat) : c ≠ d := by
  rintro rfl
  exact absurd h.2.1 (not_lt.mpr hd)

/-- A word of strict letters that begins a lowered text is lowered letter by letter, unless it
ends in the letter i: the dotted capital I is lowered to that letter and a dot. -/
theorem prefix_lowerFrom_iff {word : List Char} (hword : ∀ c ∈ word, IsStrict c)
    (hlast : word.getLast? ≠ some 'i') (before cs : List Char) :
    word <+: lowerFrom before cs ↔ word <+: cs.map Char.toLower := by
  induction word generalizing before cs with
  | nil => simp
  | cons c word ih =>
    obtain ⟨hc, hrest⟩ := List.forall_mem_cons.mp hword
    cases cs with
    | nil => rfl
    | cons d cs =>
      rw [lowerFrom_cons, List.map_cons, List.cons_prefix_cons]
      split
      · -- a sigma and its small forms are not strict
        rename_i hsigma
        obtain rfl := beq_iff_eq.mp hsigma
        refine iff_of_false (fun h => ?_) fun h => hc.ne_beyond (by decide) h.1
        rw [List.singleton_append, List.cons_prefix_cons] at h
        revert h
        split
        · exact fun h => hc.ne_beyond (by decide) h.1
        · exact fun h => hc.ne_beyond (by decide) h.1
      · split
        · rename_i hdotted
          obtain rfl := beq_iff_eq.mp hdotted
          refine iff_of_false (fun h => ?_) fun h => hc.ne_beyond (by decide) h.1
          obtain ⟨hi, h⟩ := List.cons_prefix_cons.mp h
          cases word with
          | nil => exact hlast (hi ▸ rfl)
          | cons c' word =>
            have hc' := hrest c' List.mem_cons_self
            exact hc'.ne_beyond (by decide) (List.cons_prefix_cons.mp h).1
        · have hlast' : word.getLast? ≠ some 'i' := by
            cases word with
            | nil => exact nofun
            | cons c' word => exact hlast
          rw [List.singleton_append, List.cons_prefix_cons, ih hrest hlast', eq_comm,
            lowerChar_eq_iff hc, eq_comm]

theorem infix_lowerFrom_iff {word : List Char} (hword : ∀ c ∈ word, IsStrict c)
    (hlast : word.getLast? ≠ some 'i') (before cs : List Char) :
    word <:+: lowerFrom before cs ↔ word <:+: cs.map Char.toLower := by
  induction cs generalizing before with
  | nil => rfl
  | cons d cs ih =>
    have hprefix := prefix_lowerFrom_iff hword hlast before (d :: cs)
    rw [List.map_cons] at hprefix ⊢
    rw [List.infix_cons_iff, ← hprefix, ← ih (d :: before), lowerFrom_cons]
    split
    · exact List.infix_cons_iff
    · split
      · -- nothing begins with the dot that follows the letter i
        have hdot : word <+: '\u0307' :: lowerFrom (d :: before) cs →
            word <:+: lowerFrom (d :: before) cs := by
          intro h
          cases word with
          | nil => exact List.nil_infix
          | cons c word =>
            have hc := hword c List.mem_cons_self
            exact absurd (List.cons_prefix_cons.mp h).1 (hc.ne_beyond (by decide))
        refine List.infix_cons_iff.trans (or_congr_right ?_)
        exact List.infix_cons_iff.trans (or_iff_right_of_imp hdot)
      · exact List.infix_cons_iff

theorem length_le_lowerFrom (before cs : List Char) : cs.length ≤ (lowerFrom before cs).length := by
  induction cs generalizing before with
  | nil => exact le_rfl
  | cons c cs ih =>
    have hrest := ih (c :: before)
    rw [lowerFrom_cons, List.length_append, List.length_cons]
    split
    · rw [List.length_singleton]
      omega
    · split
      · rw [List.length_cons, List.length_singleton]
        omega
      · rw [List.length_singleton]
        omega

/-- A text that is lowered to a word of strict letters is that word in some letter case. -/
theorem lower_eq_iff {s word : String} (hword : ∀ c ∈ word.toList, IsStrict c)
    (hlast : word.toList.getLast? ≠ some 'i') :
    lower s = word ↔ s.toList.map Char.toLower = word.toList := by
  rw [← String.toList_inj, toList_lower]
  constructor
  · intro h
    have hstart : word.toList <+: s.toList.map Char.toLower :=
      (prefix_lowerFrom_iff hword hlast [] s.toList).mp (h ▸ List.prefix_rfl)
    have hlength := length_le_lowerFrom [] s.toList
    rw [h] at hlength
    exact (hstart.eq_of_length_le (by rwa [List.length_map])).symm
  · intro h
    rw [lowerFrom_ascii, h]
    intro c hc
    have hstrict := hword c.toLower (h ▸ List.mem_map_of_mem hc)
    by_contra hbeyond
    have hsame : c.toLower = c := toLower_eq (by omega)
    exact hbeyond (hsame ▸ hstrict.2.1)

/-- The words to which the lemmas about words apply can be checked. -/
theorem strict_of_all {words : List String} (h : words.all (fun word =>
      word.toList.all (fun c => IsStrict c) && word.toList.getLast? != some 'i') = true) :
    ∀ word ∈ words, (∀ c ∈ word.toList, IsStrict c) ∧ word.toList.getLast? ≠ some 'i' :=
  fun word hword => by simpa using List.all_eq_true.mp h word hword

/-- A search in the lowered text finds the words that stand in the text in whatever letter case. -/
theorem contains_lower_iff {text word : String} (hword : ∀ c ∈ word.toList, IsStrict c)
    (hlast : word.toList.getLast? ≠ some 'i') :
    (lower text).contains word = true ↔ Mentions text word := by
  have hinfix : word.toList <:+: (lower text).toList ↔
      word.toList <:+: text.toList.map Char.toLower := by
    rw [toList_lower]
    exact infix_lowerFrom_iff hword hlast [] text.toList
  rw [String.contains_string_iff, hinfix, List.infix_map_iff]
  simp only [Mentions, eq_comm]

/-! ## Letters in the other case -/

/-- A capital and its small letter are looked at in the same way where a word may end. -/
theorem capitals_cased : ∀ n ∈ List.range' 65 26,
    inRanges casedRanges (n + 32) = inRanges casedRanges n ∧
      inRanges caseIgnorableScripts (n + 32) = inRanges caseIgnorableScripts n := by
  decide +kernel

theorem isCased_toLower (c : Char) : isCased c.toLower = isCased c := by
  rcases toLower_cases c with h | ⟨hfirst, hlast, h⟩
  · rw [h]
  · rw [isCased, h]
    exact (capitals_cased c.toNat (List.mem_range'_1.mpr ⟨hfirst, by omega⟩)).1

theorem isCaseIgnorable_toLower (c : Char) : isCaseIgnorable c.toLower = isCaseIgnorable c := by
  rcases toLower_cases c with h | ⟨hfirst, hlast, h⟩
  · rw [h]
  · rw [isCaseIgnorable, isCaseIgnorable, h, if_pos (by omega), if_pos (by omega)]
    exact (capitals_cased c.toNat (List.mem_range'_1.mpr ⟨hfirst, by omega⟩)).2

theorem touchesCased_map (cs : List Char) :
    touchesCased (cs.map Char.toLower) = touchesCased cs := by
  have hskip : isCaseIgnorable ∘ Char.toLower = isCaseIgnorable := funext isCaseIgnorable_toLower
  rw [touchesCased, List.dropWhile_map, hskip, touchesCased]
  cases cs.dropWhile isCaseIgnorable with
  | nil => rfl
  | cons c rest => exact isCased_toLower c

theorem lowerChar_toLower (c : Char) : lowerChar c.toLower = lowerChar c := by
  rcases toLower_cases c with h | ⟨hfirst, hlast, h⟩
  · rw [h]
  · have hcapital : lowerChar c = c.toLower := if_pos (by omega)
    have hsmall : lowerChar c.toLower = c.toLower.toLower := if_pos (by omega)
    rw [hcapital, hsmall, toLower_toLower]

/-- It makes no difference if the capitals of ASCII are lowered beforehand. -/
theorem lowerFrom_map (before cs : List Char) :
    lowerFrom (before.map Char.toLower) (cs.map Char.toLower) = lowerFrom before cs := by
  induction cs generalizing before with
  | nil => rfl
  | cons c cs ih =>
    have hsigma : (c.toLower == '\u03A3') = (c == '\u03A3') :=
      Bool.eq_iff_iff.mpr (by simpa using toLower_eq_iff (.inr (by decide)))
    have hdotted : (c.toLower == '\u0130') = (c == '\u0130') :=
      Bool.eq_iff_iff.mpr (by simpa using toLower_eq_iff (.inr (by decide)))
    rw [List.map_cons, lowerFrom_cons, lowerFrom_cons, hsigma, hdotted, lowerChar_toLower,
      touchesCased_map, touchesCased_map, ← List.map_cons, ih]

/-- Letters of ASCII in the other case make no difference to a lowered text. -/
theorem lower_eq_of_recased {s t : String}
    (h : s.toList.map Char.toLower = t.toList.map Char.toLower) : lower s = lower t := by
  rw [← String.toList_inj, toList_lower, toList_lower, ← lowerFrom_map [] s.toList, h,
    lowerFrom_map [] t.toList]

end Compositor.Text
