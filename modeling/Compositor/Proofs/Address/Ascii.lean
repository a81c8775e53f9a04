import Compositor.Address.Label.Web
import Mathlib.Data.List.Basic

/-!
# Names in ASCII

The encoded form of a label has ASCII characters only, and nothing else can be decoded. So the
name of a host is in ASCII when it has been read, whatever it looked like before.
-/
namespace Compositor.Address

/-- What is true of the separator and of all parts is true of the parts in a row. -/
theorem forall_mem_intercalate {p : Char → Prop} {mark : List Char} {parts : List (List Char)}
    (hmark : ∀ c ∈ mark, p c) (hparts : ∀ part ∈ parts, ∀ c ∈ part, p c) :
    ∀ c ∈ List.intercalate mark parts, p c := by
  induction parts with
  | nil => exact nofun
  | cons part parts ih =>
    obtain ⟨hpart, hrest⟩ := List.forall_mem_cons.mp hparts
    cases parts with
    | nil => rwa [List.intercalate_singleton]
    | cons next parts =>
      rw [List.intercalate_cons_cons]
      exact List.forall_mem_append.mpr
        ⟨List.forall_mem_append.mpr ⟨hpart, hmark⟩, ih hrest⟩

/-- A text of ASCII characters. -/
def IsAsciiText (cs : List Char) : Prop := ∀ c ∈ cs, c.toNat < 0x80

instance : DecidablePred IsAsciiText := fun cs => List.decidableBAll _ cs

theorem IsAsciiText.append {a b : List Char} (ha : IsAsciiText a) (hb : IsAsciiText b) :
    IsAsciiText (a ++ b) := fun c hc => (List.mem_append.mp hc).elim (ha c) (hb c)

theorem isAsciiText_iff {cs : List Char} : Label.isAscii cs = true ↔ IsAsciiText cs := by
  simp [Label.isAscii, IsAsciiText]

namespace Punycode

/-! ## Encoding -/

theorem digit_ascii {d : Nat} (h : d < 36) : (digit d).toNat < 0x80 := by
  have hall : ∀ d < 36, (digit d).toNat < 0x80 := by decide
  exact hall d h

theorem distance_ascii (bias k q : Nat) : IsAsciiText (distance bias k q) := by
  induction k, q using distance.induct bias with
  | case1 k q t hq =>
    rw [distance, if_pos hq]
    exact List.forall_mem_singleton.mpr (digit_ascii (Nat.lt_trans hq (threshold_lt k bias)))
  | case2 k q t hq ih =>
    have ht : t < 36 := threshold_lt k bias
    have hdigit : t + (q - t) % (36 - t) < 36 := by
      have := Nat.mod_lt (q - t) (Nat.sub_pos_of_lt ht)
      omega
    rw [distance, if_neg hq]
    exact List.forall_mem_cons.mpr ⟨digit_ascii hdigit, ih⟩

/-- Passing a character adds digits only. -/
theorem pass_ascii {basic m : Nat} {st : State} (h : IsAsciiText st.out) (c : Char) :
    IsAsciiText (pass basic m st c).out := by
  unfold pass
  split
  · exact h
  · split
    · exact h.append (distance_ascii _ _ _)
    · exact h

theorem passAll_ascii {basic m : Nat} (label : List Char) {st : State} (h : IsAsciiText st.out) :
    IsAsciiText (label.foldl (pass basic m) st).out := by
  induction label generalizing st with
  | nil => exact h
  | cons c label ih => exact ih (pass_ascii h c)

theorem insertAll_ascii (label : List Char) (basic : Nat) (wide : List Nat) (n : Nat)
    {st : State} (h : IsAsciiText st.out) : IsAsciiText (insertAll label basic wide n st).out := by
  induction wide generalizing n st with
  | nil => exact h
  | cons m wide ih => exact ih (m + 1) (passAll_ascii label h)

theorem encode_ascii (label : List Char) : IsAsciiText (encode label) := by
  have hbasic : IsAsciiText (label.filter fun c => c.toNat < 0x80) := fun c hc => by
    simpa using (List.mem_filter.mp hc).2
  have hstart : IsAsciiText (if (label.filter fun c => c.toNat < 0x80).isEmpty then []
      else (label.filter fun c => c.toNat < 0x80) ++ ['-']) := by
    split
    · exact nofun
    · exact hbasic.append (by decide)
  exact hstart.append (insertAll_ascii _ _ _ _ nofun)

/-! ## Decoding -/

theorem ascii_of_digitValue? {c : Char} {d : Nat} (h : digitValue? c = some d) :
    c.toNat < 0x80 := by
  have hbelow {first last : Char} (hc : (first ≤ c && c ≤ last) = true)
      (hlast : last.toNat < 0x80) : c.toNat < 0x80 := by
    rw [Bool.and_eq_true, decide_eq_true_iff, decide_eq_true_iff] at hc
    exact Nat.lt_of_le_of_lt hc.2 hlast
  unfold digitValue? at h
  split at h
  · exact hbelow ‹_› (by decide)
  · split at h
    · exact hbelow ‹_› (by decide)
    · split at h
      · exact hbelow ‹_› (by decide)
      · cases h

/-- What is read as a distance is in ASCII. -/
theorem ascii_of_readDistance? {bias k weight value : Nat} {cs : List Char} {r : Nat × List Char}
    (h : readDistance? bias k weight value cs = some r) (hrest : IsAsciiText r.2) :
    IsAsciiText cs := by
  induction cs generalizing k weight value with
  | nil => exact nofun
  | cons c rest ih =>
    rw [readDistance?] at h
    obtain ⟨d, hd, h⟩ := Option.bind_eq_some_iff.mp h
    refine List.forall_mem_cons.mpr ⟨ascii_of_digitValue? hd, ?_⟩
    split at h
    · cases h
      exact hrest
    · exact ih h

theorem ascii_of_insertRead? {bias n place : Nat} {first : Bool} {label cs out : List Char}
    (h : insertRead? bias n place first label cs = some out) : IsAsciiText cs := by
  induction bias, n, place, first, label, cs using insertRead?.induct with
  | case1 bias n place first label cs hread hempty =>
    rw [List.isEmpty_iff.mp hempty]
    exact nofun
  | case2 bias n place first label cs hread hempty =>
    rw [insertRead?] at h
    split at h
    · rw [if_neg hempty] at h
      cases h
    · next found => exact absurd (hread.symm.trans found) nofun
  | case3 bias n place first label cs delta rest hread size n' place' hvalid ih =>
    rw [insertRead?] at h
    split at h
    · next found => exact absurd (hread.symm.trans found) nofun
    · next found =>
      cases hread.symm.trans found
      dsimp only at h
      rw [if_pos hvalid] at h
      exact ascii_of_readDistance? hread (ih h)
  | case4 bias n place first label cs delta rest hread size n' hvalid =>
    rw [insertRead?] at h
    split at h
    · next found => exact absurd (hread.symm.trans found) nofun
    · next found =>
      cases hread.symm.trans found
      dsimp only at h
      rw [if_neg hvalid] at h
      cases h

/-- Only what is in ASCII can be decoded. -/
theorem ascii_of_decode? {code out : List Char} (h : decode? code = some out) :
    IsAsciiText code := by
  unfold decode? at h
  dsimp only at h
  split at h
  · next hbasic =>
    have hinserted := ascii_of_insertRead? h
    have hcode := List.takeWhile_append_dropWhile (p := (· != '-')) (l := code.reverse)
    generalize code.reverse.takeWhile (· != '-') = after at hcode hbasic hinserted
    cases hbefore : code.reverse.dropWhile (· != '-') with
    | nil =>
      rw [hbefore, List.append_nil] at hcode
      rwa [← code.reverse_reverse, ← hcode]
    | cons mark before =>
      have hmark : mark = '-' := by
        have hfirst := List.head?_dropWhile_not (· != '-') code.reverse
        simpa [hbefore] using hfirst
      rw [hbefore] at hcode
      have hwhole : code = before.reverse ++ mark :: after.reverse := by
        rw [← code.reverse_reverse, ← hcode]
        simp
      have hstart : IsAsciiText before.reverse := by
        intro c hc
        rw [hwhole, List.all_eq_true] at hbasic
        have hlength : (before.reverse ++ mark :: after.reverse).length - after.reverse.length - 1 =
            before.reverse.length := by
          simp
          omega
        rw [hlength, List.take_left] at hbasic
        simpa using hbasic c hc
      rw [hwhole, hmark]
      exact hstart.append (List.forall_mem_cons.mpr ⟨by decide, hinserted⟩)
  · cases h

end Punycode

namespace Label

/-- The ASCII form of a label is in ASCII. -/
theorem webLabel?_ascii {label : List Char} {read : WebLabel} (h : webLabel? label = some read) :
    IsAsciiText read.ascii := by
  unfold webLabel? at h
  split at h
  · next code hcode =>
    split at h
    · next shown hshown =>
      split at h
      · cases h
        have hlabel : label = "xn--".toList ++ code := by
          unfold encodedPart? at hcode
          split at hcode
          · cases hcode
            rfl
          · cases hcode
        rw [hlabel]
        exact IsAsciiText.append (by decide) (Punycode.ascii_of_decode? hshown)
      · cases h
    · cases h
  · cases h
    dsimp only
    split
    · exact isAsciiText_iff.mp ‹_›
    · exact IsAsciiText.append (by decide) (Punycode.encode_ascii label)

theorem mem_of_mapM {α β : Type} {f : α → Option β} {l : List α} {m : List β}
    (h : l.mapM f = some m) : ∀ b ∈ m, ∃ a ∈ l, f a = some b := by
  induction l generalizing m with
  | nil =>
    cases h
    exact nofun
  | cons a l ih =>
    rw [List.mapM_cons] at h
    obtain ⟨b, hb, h⟩ := Option.bind_eq_some_iff.mp h
    obtain ⟨rest, hrest, h⟩ := Option.bind_eq_some_iff.mp h
    cases h
    refine List.forall_mem_cons.mpr ⟨⟨a, List.mem_cons_self, hb⟩, fun b' hb' => ?_⟩
    obtain ⟨a', ha', hfound⟩ := ih hrest b' hb'
    exact ⟨a', List.mem_cons_of_mem _ ha', hfound⟩

theorem webName?_ascii {name read : List Char} (h : webName? name = some read) :
    IsAsciiText read := by
  unfold webName? at h
  obtain ⟨mapped, -, h⟩ := Option.bind_eq_some_iff.mp h
  obtain ⟨labels, hlabels, h⟩ := Option.bind_eq_some_iff.mp h
  dsimp only at h
  split at h
  · cases h
    refine forall_mem_intercalate (List.forall_mem_singleton.mpr (by decide)) fun part hpart => ?_
    obtain ⟨label, hlabel, rfl⟩ := List.mem_map.mp hpart
    obtain ⟨piece, -, hpiece⟩ := mem_of_mapM hlabels label hlabel
    exact webLabel?_ascii hpiece
  · cases h

end Label

end Compositor.Address
