import Compositor.Address.Parts
import Compositor.Proofs.Address.Ascii
import Compositor.Proofs.Text.Pieces
import Mathlib.Data.List.TakeWhile

/-!
# Groups of eight

The normal form of eight numbers is read again, whichever of their zeros are left out: its groups
are found between the colons, and the gap where the two colons are. So it is a host for brackets.
-/
namespace Compositor

namespace Text

/-- A text of hexadecimal digits. -/
def IsHexText (cs : List Char) : Prop := ∀ c ∈ cs, (hexValue? c).isSome = true

theorem isHexText_hexPadded (n width : Nat) : IsHexText (hexPadded n width) := by
  have hdigit : ∀ d < 16, (hexValue? (hexDigit d)).isSome = true := by decide
  induction width generalizing n with
  | zero => exact nofun
  | succ width ih =>
    exact List.forall_mem_append.mpr
      ⟨ih (n / 16), List.forall_mem_singleton.mpr (hdigit _ (Nat.mod_lt _ (by omega)))⟩

theorem length_hexPadded (n width : Nat) : (hexPadded n width).length = width := by
  induction width generalizing n with
  | zero => rfl
  | succ width ih => rw [hexPadded, List.length_append, ih, List.length_singleton]

theorem exists_mapM_hexValue? {cs : List Char} (h : IsHexText cs) :
    ∃ ds, cs.mapM hexValue? = some ds := by
  induction cs with
  | nil => exact ⟨[], rfl⟩
  | cons c cs ih =>
    obtain ⟨hc, hcs⟩ := List.forall_mem_cons.mp h
    obtain ⟨d, hd⟩ := Option.isSome_iff_exists.mp hc
    obtain ⟨ds, hds⟩ := ih hcs
    exact ⟨d :: ds, by rw [List.mapM_cons, hd, hds]; rfl⟩

end Text

namespace Address.Host

variable {parts : List (List Char)}

/-- A group as it is written. -/
structure IsGroupText (cs : List Char) : Prop where
  ne_nil : cs ≠ []
  short : cs.length ≤ 4
  hex : Text.IsHexText cs

theorem isGroupText_hexGroup (n : Nat) : IsGroupText (hexGroup n).toList := by
  have hsuffix := List.dropWhile_suffix (l := Text.hexPadded n 4) (· == '0')
  rw [hexGroup, String.toList_ofList]
  split
  · exact ⟨List.cons_ne_nil _ _, by decide, List.forall_mem_singleton.mpr (by decide)⟩
  · next hne =>
    refine ⟨hne, ?_, fun c hc => Text.isHexText_hexPadded n 4 c (hsuffix.subset hc)⟩
    exact Text.length_hexPadded n 4 ▸ hsuffix.length_le

/-- The digits of a group are no marks. -/
theorem IsGroupText.ne_mark {cs : List Char} (h : IsGroupText cs) :
    ∀ c ∈ cs, c ≠ ':' ∧ c ≠ '.' := by
  intro c hc
  have hhex := h.hex c hc
  constructor <;> rintro rfl <;> exact absurd hhex (by decide)

theorem IsGroupText.read {cs : List Char} (h : IsGroupText cs) : ∃ n, readGroup? cs = some [n] := by
  obtain ⟨ds, hds⟩ := Text.exists_mapM_hexValue? h.hex
  have hfine : ¬(cs.isEmpty || decide (4 < cs.length)) = true := by
    simp [h.ne_nil, h.short]
  exact ⟨_, by rw [readGroup?, if_neg hfine, hds]; rfl⟩

/-! ## Groups in a row -/

/-- Groups with colons between them. -/
def inRow (parts : List (List Char)) : List Char := [':'].intercalate parts

theorem exists_mapM_readGroup? (h : ∀ part ∈ parts, IsGroupText part) :
    ∃ ns : List Nat, parts.mapM readGroup? = some (ns.map ([·])) ∧ ns.length = parts.length := by
  induction parts with
  | nil => exact ⟨[], rfl, rfl⟩
  | cons part parts ih =>
    obtain ⟨hpart, hparts⟩ := List.forall_mem_cons.mp h
    obtain ⟨n, hn⟩ := hpart.read
    obtain ⟨ns, hns, hlength⟩ := ih hparts
    exact ⟨n :: ns, by rw [List.mapM_cons, hn, hns]; rfl, congrArg (· + 1) hlength⟩

/-- As many groups are read as are in the row. -/
theorem readGroups?_inRow (four? : List Char → Option (List Nat))
    (h : ∀ part ∈ parts, IsGroupText part) :
    ∃ groups, readGroups? four? (inRow parts) = some groups ∧ groups.length = parts.length := by
  rcases List.eq_nil_or_concat parts with rfl | ⟨front, last, rfl⟩
  · exact ⟨[], rfl, rfl⟩
  · obtain ⟨hfront, hlast⟩ := List.forall_mem_append.mp (List.concat_eq_append ▸ h)
    have hlast := List.forall_mem_singleton.mp hlast
    obtain ⟨ns, hns, hlength⟩ := exists_mapM_readGroup? hfront
    obtain ⟨n, hn⟩ := hlast.read
    have hpieces : Text.pieces (· == ':') (inRow (front.concat last)) = front.concat last :=
      Text.pieces_intercalate (by simp) fun part hpart c hc => by
        simpa using ((h part hpart).ne_mark c hc).1
    have hne : ¬(inRow (front.concat last)).isEmpty = true := fun hnil => by
      rw [List.isEmpty_iff.mp hnil] at hpieces
      have hempty : [] = last := by simpa [Text.pieces] using congrArg List.getLast? hpieces
      exact hlast.ne_nil hempty.symm
    have hdot : ¬last.contains '.' = true := by
      simpa using fun hmem => (hlast.ne_mark '.' hmem).2 rfl
    have hflat : (ns.map ([·])).flatten = ns := by simp [← List.flatMap_def]
    refine ⟨ns ++ [n], ?_, by simp [hlength]⟩
    rw [readGroups?, if_neg hne, hpieces]
    simp only [List.concat_eq_append, List.dropLast_concat, List.getLast?_append, hns, if_neg hdot,
      hn, List.getLast?_singleton, Option.some_or, Option.bind_eq_bind, Option.bind_some, hflat]

/-- Text without a colon comes before the gap. -/
theorem splitGap?_append {part : List Char} (h : ∀ c ∈ part, c ≠ ':') (rest : List Char) :
    splitGap? (part ++ rest) = (splitGap? rest).map fun p => (part ++ p.1, p.2) := by
  induction part with
  | nil => simp
  | cons c part ih =>
    obtain ⟨hc, hpart⟩ := List.forall_mem_cons.mp h
    rw [List.cons_append, splitGap?, ih hpart]
    · cases splitGap? rest <;> rfl
    · exact fun _ hcolon => absurd hcolon hc

/-- There is no gap between the groups of a row. -/
theorem splitGap?_inRow (h : ∀ part ∈ parts, IsGroupText part) (rest : List Char) :
    splitGap? (inRow parts ++ rest) = (splitGap? rest).map fun p => (inRow parts ++ p.1, p.2) := by
  induction parts with
  | nil => simp [inRow]
  | cons part parts ih =>
    obtain ⟨hpart, hparts⟩ := List.forall_mem_cons.mp h
    have hplain : ∀ c ∈ part, c ≠ ':' := fun c hc => (hpart.ne_mark c hc).1
    cases parts with
    | nil =>
      rw [inRow, List.intercalate_singleton]
      exact splitGap?_append hplain rest
    | cons next parts =>
      have hnext := hparts next List.mem_cons_self
      obtain ⟨d, more, hd⟩ := List.exists_cons_of_ne_nil hnext.ne_nil
      have hdigit : d ≠ ':' := (hnext.ne_mark d (hd ▸ List.mem_cons_self)).1
      -- the colon behind a group is followed by the first digit of the next one
      obtain ⟨tail, htail⟩ : ∃ tail, inRow (next :: parts) ++ rest = d :: tail := by
        cases parts with
        | nil => exact ⟨more ++ rest, by simp [inRow, hd]⟩
        | cons _ _ => exact ⟨_, by rw [inRow, List.intercalate_cons_cons, hd]; rfl⟩
      have hcolon : splitGap? (':' :: (inRow (next :: parts) ++ rest)) =
          (splitGap? (inRow (next :: parts) ++ rest)).map fun p => (':' :: p.1, p.2) := by
        rw [htail, splitGap?]
        exact fun _ _ heq => absurd (List.cons.inj heq).1 hdigit
      have hrow : inRow (part :: next :: parts) = part ++ ':' :: inRow (next :: parts) := by
        rw [inRow, List.intercalate_cons_cons, List.append_assoc]
        rfl
      rw [hrow, List.append_assoc, List.cons_append, splitGap?_append hplain, hcolon, ih hparts]
      cases splitGap? rest <;> simp

/-! ## Eight groups -/

theorem longestGap_bounds {groups : List Nat} {start size : Nat}
    (h : longestGap groups = some (start, size)) : start < groups.length ∧ 0 < size := by
  let IsFine (best : Option (Nat × Nat)) : Prop :=
    ∀ run ∈ best, run.1 < groups.length ∧ 0 < run.2
  suffices hfine : IsFine (longestGap groups) from hfine _ h
  refine List.foldlRecOn _ _ (motive := IsFine) (nofun : IsFine none) fun best hbest run hrun => ?_
  obtain ⟨i, hi, rfl⟩ := List.mem_map.mp hrun
  have hi := List.mem_range.mp hi
  cases best with
  | none =>
    dsimp only
    split
    · rintro _ ⟨⟩
      exact ⟨hi, by omega⟩
    · exact nofun
  | some b =>
    have hb := hbest b rfl
    dsimp only
    split
    · rintro _ ⟨⟩
      exact ⟨hi, by omega⟩
    · exact hbest

/-- The text of eight numbers: their groups in a row, or two rows around a gap. -/
theorem eightText_cases {groups : List Nat} (h : groups.length = 8) :
    (∃ parts, (∀ part ∈ parts, IsGroupText part) ∧ parts.length = 8 ∧
      (eightText groups).toList = inRow parts) ∨
    ∃ front back, (∀ part ∈ front ++ back, IsGroupText part) ∧ front.length + back.length < 8 ∧
      (eightText groups).toList = inRow front ++ ':' :: ':' :: inRow back := by
  let texts (gs : List Nat) : List (List Char) := gs.map fun n => (hexGroup n).toList
  have htexts (gs : List Nat) : ∀ part ∈ texts gs, IsGroupText part :=
    List.forall_mem_map.mpr fun n _ => isGroupText_hexGroup n
  have hjoined (gs : List Nat) :
      (String.intercalate ":" (gs.map hexGroup)).toList = inRow (texts gs) := by
    rw [String.toList_intercalate, List.map_map]
    rfl
  unfold eightText
  dsimp only
  split
  · next start size hgap =>
    obtain ⟨hstart, hsize⟩ := longestGap_bounds hgap
    refine .inr ⟨texts (groups.take start), texts (groups.drop (start + size)),
      List.forall_mem_append.mpr ⟨htexts _, htexts _⟩, ?_, ?_⟩
    · simp only [texts, List.length_map, List.length_take, List.length_drop]
      omega
    · simp only [String.toList_append, hjoined]
      rw [List.append_assoc]
      rfl
  · exact .inl ⟨texts groups, htexts _, by simp [texts, h], hjoined _⟩

theorem inRow_chars (h : ∀ part ∈ parts, IsGroupText part) :
    ∀ c ∈ inRow parts, (Text.hexValue? c).isSome = true ∨ c = ':' :=
  forall_mem_intercalate (List.forall_mem_singleton.mpr (.inr rfl)) fun part hpart c hc =>
    .inl ((h part hpart).hex c hc)

/-- The text of eight numbers is made of digits and colons. -/
theorem eightText_chars {groups : List Nat} (h : groups.length = 8) :
    ∀ c ∈ (eightText groups).toList, (Text.hexValue? c).isSome = true ∨ c = ':' := by
  rcases eightText_cases h with ⟨parts, hparts, -, htext⟩ | ⟨front, back, hparts, -, htext⟩
  · exact htext ▸ inRow_chars hparts
  · obtain ⟨hfront, hback⟩ := List.forall_mem_append.mp hparts
    rw [htext]
    refine List.forall_mem_append.mpr ⟨inRow_chars hfront, ?_⟩
    simpa using inRow_chars hback

/-- Eight numbers are read from their text. -/
theorem readEight?_eightText (four? : List Char → Option (List Nat)) {groups : List Nat}
    (h : groups.length = 8) :
    (readEight? four? (eightText groups).toList).isSome = true := by
  rcases eightText_cases h with
    ⟨parts, hparts, hlength, htext⟩ | ⟨front, back, hparts, hshort, htext⟩
  · have hgap : splitGap? (inRow parts) = none := by
      simpa [splitGap?] using splitGap?_inRow hparts []
    obtain ⟨found, hfound, hcount⟩ := readGroups?_inRow four? hparts
    rw [htext, readEight?, hgap]
    simp [hfound, hcount, hlength]
  · obtain ⟨hfront, hback⟩ := List.forall_mem_append.mp hparts
    have hgap : splitGap? (inRow front ++ ':' :: ':' :: inRow back) =
        some (inRow front, inRow back) := by
      rw [splitGap?_inRow hfront, splitGap?]
      simp
    obtain ⟨first, hfirst, hleft⟩ := readGroups?_inRow four? hfront
    obtain ⟨last, hlast, hright⟩ := readGroups?_inRow four? hback
    have hdot : (inRow front).contains '.' = false := by
      rw [List.contains_eq_any_beq, List.any_eq_false]
      intro c hc
      rcases inRow_chars hfront c hc with hhex | rfl
      · rw [beq_iff_eq]
        rintro rfl
        exact absurd hhex (by decide)
      · decide
    have hroom :
        ¬(decide (8 ≤ first.length + last.length) || (inRow front).contains '.') = true := by
      rw [hdot, Bool.or_false, decide_eq_true_iff]
      omega
    rw [htext, readEight?, hgap]
    simp only [hfirst, hlast, if_neg hroom, Option.bind_eq_bind, Option.bind_some,
      Option.isSome_some]

theorem length_readEight? {four? : List Char → Option (List Nat)} {cs : List Char}
    {groups : List Nat}
    (h : readEight? four? cs = some groups) : groups.length = 8 := by
  unfold readEight? at h
  split at h
  · next before after _ =>
    obtain ⟨front, -, h⟩ := Option.bind_eq_some_iff.mp h
    obtain ⟨back, -, h⟩ := Option.bind_eq_some_iff.mp h
    split at h
    · cases h
    · next hroom =>
      cases h
      rw [Bool.or_eq_true, not_or, decide_eq_true_iff] at hroom
      simp only [List.length_append, List.length_replicate]
      omega
  · obtain ⟨found, -, h⟩ := Option.bind_eq_some_iff.mp h
    split at h
    · next hlength =>
      cases h
      exact beq_iff_eq.mp hlength
    · cases h

end Host

/-- The text of eight numbers is a host for brackets. -/
theorem isBracketedHost_eightText {groups : List Nat} (h : groups.length = 8) :
    isBracketedHost (Host.eightText groups).toList = true := by
  have hchars := Host.eightText_chars h
  have hread := Host.readEight?_eightText Host.trailingFour? h
  have hnot {c d : Char} (hc : c ∈ (Host.eightText groups).toList)
      (hd : (Text.hexValue? d).isSome = false ∧ d ≠ ':') : c ≠ d := by
    rintro rfl
    rcases hchars c hc with hhex | hcolon
    · exact absurd hhex (by simp [hd.1])
    · exact hd.2 hcolon
  have hplain : ∀ c ∈ (Host.eightText groups).toList, (!(c == '%')) = true := fun c hc => by
    simpa using hnot hc (d := '%') (by decide)
  generalize (Host.eightText groups).toList = cs at *
  unfold isBracketedHost
  split
  · exact absurd rfl (hnot (d := 'v') List.mem_cons_self (by decide))
  · simp [cutAt, List.takeWhile_eq_self_iff.mpr hplain, List.dropWhile_eq_nil_iff.mpr hplain, hread]

end Address

end Compositor
