import Compositor.Order.Insertion
import Compositor.Proofs.Fault.Wiring
import Mathlib.Data.List.Perm.Basic

/-!
# Sorting is stable

Whatever the comparisons are, sorting rearranges the elements. When they compare the
integer keys of the elements, sorting never fails, and the result is in rising order of
the keys, with elements of equal keys in the order in which they were given.
-/
namespace Compositor.Order

variable {α ε : Type} {less : Less ε α}

theorem takeRun_append {falling : Bool} {last : α} {l run left : List α}
    (h : takeRun less falling last l = .ok (run, left)) : run ++ left = l := by
  induction l generalizing last run with
  | nil => cases h; rfl
  | cons a rest ih =>
    obtain ⟨below, _, h⟩ := bind_eq_ok.mp h
    split at h
    · obtain ⟨⟨run', left'⟩, hr, h⟩ := bind_eq_ok.mp h
      cases h
      rw [List.cons_append, ih hr]
    · cases h
      rfl

theorem firstRun_perm {l run left : List α} (h : firstRun less l = .ok (run, left)) :
    (run ++ left).Perm l := by
  match l with
  | [] | [_] => cases h; simp
  | a :: b :: rest =>
    obtain ⟨falling, _, h⟩ := bind_eq_ok.mp h
    obtain ⟨⟨run', left'⟩, hr, h⟩ := bind_eq_ok.mp h
    have happ := takeRun_append hr
    cases h
    rw [← happ]
    split
    · exact ((a :: b :: run').reverse_perm).append_right left
    · exact .refl _

theorem insert_perm {sorted s : List α} {a : α} (h : insert less sorted a = .ok s) :
    s.Perm (a :: sorted) := by
  obtain ⟨place, _, h⟩ := bind_eq_ok.mp h
  cases h
  have hmiddle : (sorted.take place ++ a :: sorted.drop place).Perm _ := List.perm_middle
  rwa [List.take_append_drop] at hmiddle

theorem insertAll_perm {left sorted s : List α} (h : left.foldlM (insert less) sorted = .ok s) :
    s.Perm (sorted ++ left) := by
  induction left generalizing sorted with
  | nil => cases h; simp
  | cons a left ih =>
    rw [List.foldlM_cons] at h
    obtain ⟨t, ht, h⟩ := bind_eq_ok.mp h
    have hcons := (insert_perm ht).append_right left
    exact (ih h).trans (hcons.trans List.perm_middle.symm)

/-- Sorting rearranges the elements. -/
theorem sort_perm {l s : List α} (h : sort less l = .ok s) : s.Perm l := by
  obtain ⟨⟨run, left⟩, hr, h⟩ := bind_eq_ok.mp h
  exact (insertAll_perm h).trans (firstRun_perm hr)

/-! ## Integer keys -/

/-- The order by key, and by the order given for equal keys. -/
def Stands (key : α → Int) (before : α → α → Prop) (a b : α) : Prop :=
  key a < key b ∨ key a = key b ∧ before a b

/-- Comparisons of the elements of `good` by their keys. -/
def ComparesBy (less : Less ε α) (key : α → Int) (good : α → Prop) : Prop :=
  ∀ a b, good a → good b → less a b = .ok (decide (key a < key b))

variable {key : α → Int} {before : α → α → Prop} {good : α → Prop}

theorem takeRun_eq_ok (hless : ComparesBy less key good) (falling : Bool) {last : α} {l : List α}
    (hlast : good last) (hl : ∀ a ∈ l, good a) : ∃ run left,
      takeRun less falling last l = .ok (run, left) ∧
      (last :: run).IsChain fun a b => decide (key b < key a) = falling := by
  induction l generalizing last with
  | nil => exact ⟨[], [], rfl, .singleton _⟩
  | cons a rest ih =>
    have ha := hl a List.mem_cons_self
    obtain ⟨run, left, hr, hc⟩ := ih ha fun b hb => hl b (List.mem_cons_of_mem _ hb)
    unfold takeRun
    rw [hless a last ha hlast]
    by_cases hb : decide (key a < key last) = falling
    · refine ⟨a :: run, left, ?_, hc.cons_cons hb⟩
      simp only [bind, Except.bind, hb, beq_self_eq_true, ↓reduceIte, hr]
      rfl
    · refine ⟨[], a :: rest, ?_, .singleton _⟩
      simp only [bind, Except.bind, beq_eq_false_iff_ne.mpr hb]
      rfl

theorem firstRun_cons {a b : α} {rest run left : List α} {falling : Bool}
    (h : less b a = .ok falling) (hr : takeRun less falling b rest = .ok (run, left)) :
    firstRun less (a :: b :: rest) =
      .ok (if falling then (a :: b :: run).reverse else a :: b :: run, left) := by
  simp only [firstRun, h, hr, bind, Except.bind, pure, Except.pure]

/-- The falling or rising run at the beginning is brought into rising order, and stands
before what is left. -/
theorem firstRun_eq_ok (hless : ComparesBy less key good) {l : List α} (hl : ∀ a ∈ l, good a)
    (ho : l.Pairwise before) : ∃ run left, firstRun less l = .ok (run, left) ∧
      run.Pairwise (Stands key before) ∧ left.Pairwise before ∧
      ∀ b ∈ run, ∀ a ∈ left, before b a := by
  match l with
  | [] | [_] => exact ⟨_, [], rfl, by simp⟩
  | a :: b :: rest =>
    have hb : good b := hl b (by simp)
    obtain ⟨run, left, hr, hc⟩ := takeRun_eq_ok hless (decide (key b < key a)) (l := rest) hb
      fun c hc => hl c (by simp [hc])
    replace hc : (a :: b :: run).IsChain fun x y =>
        decide (key y < key x) = decide (key b < key a) := hc.cons_cons rfl
    rw [← takeRun_append hr, ← List.cons_append, ← List.cons_append, List.pairwise_append] at ho
    obtain ⟨hrun, hleft, hacross⟩ := ho
    refine ⟨_, left, firstRun_cons (hless b a hb (hl a (by simp))) hr, ?_, hleft, ?_⟩
    · by_cases hf : key b < key a
      · have hfall : (a :: b :: run).Pairwise fun x y => key y < key x :=
          (hc.imp fun x y h => by simpa [hf] using h).pairwise
        rw [decide_eq_true hf, if_pos rfl, List.pairwise_reverse]
        exact hfall.imp .inl
      · have hrise : (a :: b :: run).Pairwise fun x y => key x ≤ key y :=
          (hc.imp fun x y h => by simpa [hf] using h).pairwise
        rw [decide_eq_false hf, if_neg Bool.false_ne_true]
        refine (hrise.and hrun).imp fun {x y} ⟨hle, hxy⟩ => ?_
        rcases Int.lt_or_eq_of_le hle with hlt | heq
        · exact .inl hlt
        · exact .inr ⟨heq, hxy⟩
    · intro c hc
      refine hacross c ?_
      split at hc
      · exact List.mem_reverse.mp hc
      · exact hc

theorem placeOf_of_below {a : α} {sorted : List α} (bound : sorted.length / 2 < sorted.length)
    (h : less a sorted[sorted.length / 2] = .ok true) :
    placeOf less a sorted = placeOf less a (sorted.take (sorted.length / 2)) := by
  conv_lhs => unfold placeOf
  rw [dif_neg (by rintro rfl; exact absurd bound (by simp))]
  simp [h, bind, Except.bind]

theorem placeOf_of_above {a : α} {sorted : List α} (bound : sorted.length / 2 < sorted.length)
    (h : less a sorted[sorted.length / 2] = .ok false) {place : Nat}
    (hp : placeOf less a (sorted.drop (sorted.length / 2 + 1)) = .ok place) :
    placeOf less a sorted = .ok (sorted.length / 2 + 1 + place) := by
  unfold placeOf
  rw [dif_neg (by rintro rfl; exact absurd bound (by simp))]
  simp [h, hp, bind, Except.bind, pure, Except.pure]

/-- The place found is behind the keys that are not above, and before those that are. -/
theorem placeOf_eq_ok (hless : ComparesBy less key good) {a : α} (ha : good a) {sorted : List α}
    (hs : ∀ b ∈ sorted, good b) (ho : sorted.Pairwise fun b c => key b ≤ key c) :
    ∃ place, placeOf less a sorted = .ok place ∧ place ≤ sorted.length ∧
      (∀ b ∈ sorted.take place, key b ≤ key a) ∧ ∀ c ∈ sorted.drop place, key a < key c := by
  induction sorted using placeOf.induct with
  | case1 => exact ⟨0, by simp [placeOf], by simp⟩
  | case2 sorted hne middle bound below above =>
    have hcompare := hless a _ ha (hs _ (List.getElem_mem bound))
    -- the middle element divides the list by its key
    have hparts : sorted.take middle ++ sorted[middle] :: sorted.drop (middle + 1) = sorted := by
      rw [← List.drop_eq_getElem_cons bound, List.take_append_drop]
    have hsplit := ho
    rw [← hparts, List.pairwise_append, List.pairwise_cons] at hsplit
    obtain ⟨-, ⟨hafter, -⟩, hacross⟩ := hsplit
    by_cases hlt : key a < key sorted[middle]
    · obtain ⟨place, hp, hle, htake, hdrop⟩ :=
        below (fun b hb => hs b (List.mem_of_mem_take hb)) ho.take
      rw [decide_eq_true hlt] at hcompare
      refine ⟨place, (placeOf_of_below bound hcompare).trans hp, ?_, ?_, ?_⟩
      · exact Nat.le_trans hle (List.length_take_le' _ _)
      · rwa [List.take_take, Nat.min_eq_left (Nat.le_trans hle (List.length_take_le _ _))] at htake
      · rw [← hparts, List.drop_append_of_le_length hle]
        intro c hc
        rcases List.mem_append.mp hc with hc | hc
        · exact hdrop c hc
        rcases List.mem_cons.mp hc with rfl | hc
        · exact hlt
        · exact Int.lt_of_lt_of_le hlt (hafter c hc)
    · obtain ⟨place, hp, hle, htake, hdrop⟩ :=
        above (fun b hb => hs b (List.mem_of_mem_drop hb)) ho.drop
      rw [decide_eq_false hlt] at hcompare
      refine ⟨_, placeOf_of_above bound hcompare hp, ?_, ?_, ?_⟩
      · rw [List.length_drop] at hle
        change middle + 1 + place ≤ _
        omega
      · rw [List.take_add, List.take_succ_eq_append_getElem bound]
        intro b hb
        simp only [List.mem_append, List.mem_singleton] at hb
        rcases hb with (hb | rfl) | hb
        · exact Int.le_trans (hacross b hb _ List.mem_cons_self) (Int.not_lt.mp hlt)
        · exact Int.not_lt.mp hlt
        · exact htake b hb
      · rwa [List.drop_drop] at hdrop

/-- Inserting keeps the elements in order. -/
theorem insert_eq_ok (hless : ComparesBy less key good) {a : α} (ha : good a) {sorted : List α}
    (hs : ∀ b ∈ sorted, good b) (ho : sorted.Pairwise (Stands key before))
    (hb : ∀ b ∈ sorted, before b a) :
    ∃ s, insert less sorted a = .ok s ∧ s.Pairwise (Stands key before) := by
  have hkeys : sorted.Pairwise fun b c => key b ≤ key c :=
    ho.imp fun h => h.elim Int.le_of_lt fun h => Int.le_of_eq h.1
  obtain ⟨place, hp, -, htake, hdrop⟩ := placeOf_eq_ok hless ha hs hkeys
  refine ⟨sorted.take place ++ a :: sorted.drop place, ?_, ?_⟩
  · simp only [insert, hp, bind, Except.bind, pure, Except.pure]
  · have hsplit := ho
    rw [← List.take_append_drop place sorted, List.pairwise_append] at hsplit
    rw [List.pairwise_append, List.pairwise_cons]
    refine ⟨hsplit.1, ⟨fun c hc => .inl (hdrop c hc), hsplit.2.1⟩, fun b hbt c hc => ?_⟩
    rcases List.mem_cons.mp hc with rfl | hc
    · rcases Int.lt_or_eq_of_le (htake b hbt) with hlt | heq
      · exact .inl hlt
      · exact .inr ⟨heq, hb b (List.mem_of_mem_take hbt)⟩
    · exact hsplit.2.2 b hbt c hc

theorem insertAll_eq_ok (hless : ComparesBy less key good) {left sorted : List α}
    (hl : ∀ a ∈ sorted ++ left, good a) (ho : sorted.Pairwise (Stands key before))
    (hb : ∀ b ∈ sorted, ∀ a ∈ left, before b a) (hleft : left.Pairwise before) :
    ∃ s, left.foldlM (insert less) sorted = .ok s ∧ s.Pairwise (Stands key before) := by
  induction left generalizing sorted with
  | nil => exact ⟨sorted, rfl, ho⟩
  | cons a left ih =>
    rw [List.pairwise_cons] at hleft
    obtain ⟨t, ht, hto⟩ := insert_eq_ok hless (hl a (by simp)) (fun b h => hl b (by simp [h])) ho
      fun b h => hb b h a List.mem_cons_self
    have hmem : ∀ b, b ∈ t ↔ b = a ∨ b ∈ sorted := by
      intro b
      rw [(insert_perm ht).mem_iff, List.mem_cons]
    have hgood : ∀ b ∈ t ++ left, good b := by
      intro b h
      refine hl b ?_
      simp only [List.mem_append, List.mem_cons, hmem] at h ⊢
      tauto
    have hbefore : ∀ b ∈ t, ∀ c ∈ left, before b c := by
      intro b h c hc
      rcases (hmem b).mp h with rfl | h
      · exact hleft.1 c hc
      · exact hb b h c (List.mem_cons_of_mem _ hc)
    obtain ⟨s, hs, hso⟩ := ih hgood hto hbefore hleft.2
    exact ⟨s, by rw [List.foldlM_cons, ht]; exact hs, hso⟩

/-- Elements with integer keys are sorted by their keys, and equal keys keep the order
in which they were given. -/
theorem sort_stable (hless : ComparesBy less key good) {l : List α} (hl : ∀ a ∈ l, good a)
    (ho : l.Pairwise before) :
    ∃ s, sort less l = .ok s ∧ s.Perm l ∧ s.Pairwise (Stands key before) := by
  obtain ⟨run, left, hr, hrun, hleft, hacross⟩ := firstRun_eq_ok hless hl ho
  obtain ⟨s, hs, hso⟩ := insertAll_eq_ok hless
    (fun a h => hl a ((firstRun_perm hr).subset h)) hrun hacross hleft
  have hsort : sort less l = .ok s := by
    simp only [sort, hr, bind, Except.bind]
    exact hs
  exact ⟨s, hsort, sort_perm hsort, hso⟩

end Compositor.Order
