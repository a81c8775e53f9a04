import Compositor.Text.Blank
import Mathlib.Data.List.Infix

/-!
# Pieces between marks

Every piece of a text occurs in it, and what occurs in a text without a mark occurs in one of
its pieces. Texts without marks can be put in a row with a mark between each two and are found
again as the pieces.
-/
namespace Compositor.Text

variable {isMark : Char → Bool} {cs part : List Char}

theorem pieces_cons_of_mark {c : Char} (hc : isMark c = true) (cs : List Char) :
    pieces isMark (c :: cs) = [] :: pieces isMark cs := by
  simp only [pieces, List.foldr_cons, if_pos hc]

/-- A character that is no mark belongs to the first piece. -/
theorem pieces_cons_of_not_mark {c : Char} (hc : ¬isMark c = true) {first : List Char}
    {rest : List (List Char)} (h : pieces isMark cs = first :: rest) :
    pieces isMark (c :: cs) = (c :: first) :: rest := by
  unfold pieces at h ⊢
  rw [List.foldr_cons, if_neg hc, h]

/-- There is a first piece, and it begins the text. -/
theorem exists_first_piece (isMark : Char → Bool) (cs : List Char) :
    ∃ first rest, pieces isMark cs = first :: rest ∧ first <+: cs ∧
      ∀ piece ∈ rest, piece <:+: cs := by
  induction cs with
  | nil => exact ⟨[], [], rfl, List.prefix_rfl, fun _ h => nomatch h⟩
  | cons c cs ih =>
    obtain ⟨first, rest, hpieces, hfirst, hrest⟩ := ih
    have hlater : ∀ piece ∈ rest, piece <:+: c :: cs := fun piece h =>
      List.infix_cons (hrest piece h)
    by_cases hc : isMark c = true
    · refine ⟨[], first :: rest, by rw [pieces_cons_of_mark hc, hpieces], List.nil_prefix, ?_⟩
      exact List.forall_mem_cons.mpr ⟨List.infix_cons hfirst.isInfix, hlater⟩
    · exact ⟨c :: first, rest, pieces_cons_of_not_mark hc hpieces,
        List.cons_prefix_cons.mpr ⟨rfl, hfirst⟩, hlater⟩

/-- Every piece occurs in the text. -/
theorem infix_of_mem_pieces {piece : List Char} (h : piece ∈ pieces isMark cs) :
    piece <:+: cs := by
  obtain ⟨first, rest, hpieces, hfirst, hrest⟩ := exists_first_piece isMark cs
  rw [hpieces] at h
  obtain rfl | h := List.mem_cons.mp h
  · exact hfirst.isInfix
  · exact hrest piece h

/-- Text without a mark belongs to the first piece of what follows it. -/
theorem pieces_append {first : List Char} {more : List (List Char)}
    (hpart : ∀ c ∈ part, isMark c = false) (h : pieces isMark cs = first :: more) :
    pieces isMark (part ++ cs) = (part ++ first) :: more := by
  induction part with
  | nil => exact h
  | cons c part ih =>
    have hc : ¬isMark c = true := Bool.eq_false_iff.mp (hpart c List.mem_cons_self)
    exact pieces_cons_of_not_mark hc (ih fun c h => hpart c (List.mem_cons_of_mem _ h))

/-- Texts without marks are the pieces of the text that has a mark between each two of them. -/
theorem pieces_intercalate {mark : Char} {parts : List (List Char)} (hne : parts ≠ [])
    (hparts : ∀ part ∈ parts, ∀ c ∈ part, (c == mark) = false) :
    pieces (· == mark) ([mark].intercalate parts) = parts := by
  induction parts with
  | nil => exact absurd rfl hne
  | cons part parts ih =>
    obtain ⟨hpart, hrest⟩ := List.forall_mem_cons.mp hparts
    cases parts with
    | nil =>
      have hlast := pieces_append hpart (rfl : pieces (· == mark) [] = [[]])
      rw [List.append_nil] at hlast
      rwa [List.intercalate_singleton]
    | cons next parts =>
      have hmark := @pieces_cons_of_mark (· == mark) mark (beq_self_eq_true mark)
        ([mark].intercalate (next :: parts))
      have happend := pieces_append hpart hmark
      rw [ih (List.cons_ne_nil _ _) hrest, List.append_nil] at happend
      rw [List.intercalate_cons_cons, List.append_assoc]
      exact happend

/-- What begins a text and has no mark begins its first piece. -/
theorem exists_piece_of_prefix (hpart : ∀ c ∈ part, isMark c = false) (rest : List Char) :
    ∃ piece ∈ pieces isMark (part ++ rest), part <+: piece := by
  obtain ⟨first, more, hpieces, -⟩ := exists_first_piece isMark rest
  exact ⟨part ++ first, by rw [pieces_append hpart hpieces]; exact List.mem_cons_self,
    List.prefix_append ..⟩

/-- What occurs in a text and has no mark occurs in one of the pieces. -/
theorem exists_piece_of_infix (hpart : ∀ c ∈ part, isMark c = false) (h : part <:+: cs) :
    ∃ piece ∈ pieces isMark cs, part <:+: piece := by
  obtain ⟨before, after, rfl⟩ := h
  rw [List.append_assoc]
  induction before with
  | nil =>
    obtain ⟨piece, hpiece, hprefix⟩ := exists_piece_of_prefix hpart after
    exact ⟨piece, hpiece, hprefix.isInfix⟩
  | cons c before ih =>
    obtain ⟨piece, hpiece, hinfix⟩ := ih
    obtain ⟨first, rest, hpieces, -⟩ := exists_first_piece isMark (before ++ (part ++ after))
    rw [List.cons_append]
    by_cases hc : isMark c = true
    · exact ⟨piece, by rw [pieces_cons_of_mark hc]; exact List.mem_cons_of_mem _ hpiece, hinfix⟩
    · rw [pieces_cons_of_not_mark hc hpieces]
      rw [hpieces] at hpiece
      obtain rfl | hlater := List.mem_cons.mp hpiece
      · exact ⟨c :: piece, List.mem_cons_self, List.infix_cons hinfix⟩
      · exact ⟨piece, List.mem_cons_of_mem _ hlater, hinfix⟩

end Compositor.Text
