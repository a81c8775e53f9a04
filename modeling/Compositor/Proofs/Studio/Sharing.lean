import Compositor.Proofs.Studio.Calls

/-!
# Which compositions share a layer

A layer is followed from the call that adds it. The compositions that share it are the
one it was added to and every copy of one of them; in all of these it has the same
place, it is nowhere else, and only edits through them change it. Every call keeps
this, so it holds at every point of every run.
-/
namespace Compositor.Studio

variable {s s' : Studio} {id other : SheetId} {sheet : Sheet} {number : Nat}

/-! ## The numbers on the sheets -/

/-- Every sheet lists layers that the studio keeps. -/
def Sound (s : Studio) : Prop := ∀ id, ∀ n ∈ s.layerNumbers id, n < s.layers.length

theorem sound_empty : Sound empty := fun _ n hn => by cases hn

theorem Sound.enter (hs : s.Sound) (hsheet : ∀ n ∈ sheet.layers, n < s.layers.length) :
    (s.enter sheet).1.Sound := by
  intro other n hn
  by_cases h : other = s.next
  · rw [h, layerNumbers_eq (sheet?_enter_next s sheet)] at hn
    exact hsheet n hn
  · rw [layerNumbers_congr (sheet?_enter_of_ne h sheet)] at hn
    exact hs other n hn

theorem Sound.append (hs : s.Sound) (h : s.sheet? id = some sheet) (layer : Layer) :
    (s.append id sheet layer).Sound := by
  intro other n hn
  have hgrows : (s.append id sheet layer).layers.length = s.layers.length + 1 :=
    List.length_append
  rw [hgrows]
  by_cases hother : other = id
  · rw [hother, layerNumbers_eq (sheet?_append_self h layer)] at hn
    rcases List.mem_append.mp hn with hn | hn
    · exact Nat.lt_succ_of_lt (hs id n (layerNumbers_eq h ▸ hn))
    · rw [List.mem_singleton.mp hn]
      exact Nat.lt_succ_self _
  · rw [layerNumbers_congr (sheet?_append_of_ne hother sheet layer)] at hn
    exact Nat.lt_succ_of_lt (hs other n hn)

theorem Sound.replace (hs : s.Sound) (number : Nat) (layer : Layer) :
    (s.replace number layer).Sound := by
  intro other n hn
  have hkept : (s.replace number layer).layers.length = s.layers.length := List.length_set
  rw [hkept]
  exact hs other n hn

theorem Sound.step {call : Call} {answer : Except Fault Answer} (hs : s.Sound)
    (h : Step s call answer s') : s'.Sound := by
  cases h with
  | created => exact hs.enter fun n hn => by cases hn
  | copied change known =>
    refine hs.enter fun n hn => ?_
    rw [Change.applySheet_layers] at hn
    exact hs _ n (layerNumbers_eq known ▸ hn)
  | unknown | refused | missed => exact hs
  | added clip name layer known => exact hs.append known layer
  | edited e denotes kept => exact hs.replace _ _

theorem Sound.after (hs : s.Sound) (calls : List Call) : (s.after calls).Sound := by
  induction calls generalizing s with
  | nil => exact hs
  | cons call calls ih => exact ih (hs.step (step_call s call))

theorem sound_run (calls : List Call) : (run calls).Sound := sound_empty.after calls

theorem layerAt?_append (hn : number < s.layers.length) (id : SheetId) (sheet : Sheet)
    (layer : Layer) : (s.append id sheet layer).layerAt? number = s.layerAt? number :=
  List.getElem?_append_left hn

/-- The number of a new layer is in no sheet. -/
theorem Sound.not_listed (hs : s.Sound) (id : SheetId) (place : Nat) :
    (s.layerNumbers id)[place]? ≠ some s.layers.length :=
  fun h => Nat.lt_irrefl _ (hs id _ (List.mem_of_getElem? h))

/-- An addition lists the new number at the end of its sheet and changes nothing else. -/
theorem listed_append (hsheet : s.sheet? id = some sheet) (layer : Layer) (place : Nat) :
    ((s.append id sheet layer).layerNumbers other)[place]? = some number ↔
      (s.layerNumbers other)[place]? = some number ∨
        other = id ∧ place = sheet.layers.length ∧ number = s.layers.length := by
  by_cases hother : other = id
  · rw [hother, layerNumbers_eq hsheet, layerNumbers_eq (sheet?_append_self hsheet layer),
      and_iff_right rfl]
    rcases Nat.lt_trichotomy place sheet.layers.length with hlt | heq | hgt
    · rw [List.getElem?_append_left hlt, or_iff_left fun h => Nat.ne_of_lt hlt h.1]
    · rw [heq, List.getElem?_concat_length, List.getElem?_eq_none (Nat.le_refl _),
        or_iff_right nofun, and_iff_right rfl, Option.some_inj, eq_comm]
    · rw [List.getElem?_eq_none (Nat.le_of_lt hgt),
        List.getElem?_eq_none (by rw [List.length_append]; exact hgt),
        or_iff_left fun h => Nat.ne_of_gt hgt h.1]
  · rw [layerNumbers_congr (sheet?_append_of_ne hother sheet layer),
      or_iff_left fun h => hother h.1]

/-! ## Following a layer -/

/-- A layer as it is followed: its place, who shares it, and what has become of it. -/
structure Track where
  place : Nat
  shared : List SheetId
  layer : Layer

namespace Track

/-- A layer that has just been added is where its handle says. -/
def start (h : Handle) (layer : Layer) : Track := ⟨h.number, [h.sheet], layer⟩

/-- A copy of a composition with the layer shares it, and an edit through any composition
with the layer changes it. -/
def step (t : Track) : Call → Except Fault Answer → Track
  | .copy id _, .ok (.sheet new) =>
    if id ∈ t.shared then { t with shared := t.shared ++ [new] } else t
  | .edit h e, _ =>
    if h.sheet ∈ t.shared ∧ h.number = t.place then { t with layer := (t.layer.edit e).1 } else t
  | _, _ => t

/-- The layer after further calls on a studio. -/
def follow (t : Track) (s : Studio) : List Call → Track
  | [] => t
  | call :: calls => (t.step call (s.call call).2).follow (s.call call).1 calls

/-- The sheets list the layer where the track says, and the studio keeps it as it says. -/
structure Holds (t : Track) (s : Studio) (number : Nat) : Prop where
  listed : ∀ id place,
    (s.layerNumbers id)[place]? = some number ↔ id ∈ t.shared ∧ place = t.place
  kept : s.layerAt? number = some t.layer

variable {t : Track}

/-- A new layer stands on top of its own composition, and nowhere else. -/
theorem holds_append (hs : s.Sound) (hsheet : s.sheet? id = some sheet) (layer : Layer) :
    (start ⟨id, sheet.layers.length⟩ layer).Holds (s.append id sheet layer)
      s.layers.length where
  listed other place := by
    rw [listed_append hsheet, or_iff_right (hs.not_listed other place), eq_self, and_true, start,
      List.mem_singleton]
  kept := List.getElem?_concat_length

theorem Holds.lt (h : t.Holds s number) : number < s.layers.length :=
  (List.getElem?_eq_some_iff.mp h.kept).1

theorem Holds.known (h : t.Holds s number) (hid : id ∈ t.shared) : ∃ sheet,
    s.sheet? id = some sheet := by
  have hlisted := (h.listed id t.place).mpr ⟨hid, rfl⟩
  cases hsheet : s.sheet? id with
  | none =>
    rw [layerNumbers_unknown hsheet] at hlisted
    cases hlisted
  | some sheet => exact ⟨sheet, rfl⟩

/-- A sheet that is not there yet shares nothing. -/
theorem Holds.next_not_mem (h : t.Holds s number) : s.next ∉ t.shared := by
  intro hnext
  obtain ⟨sheet, hsheet⟩ := h.known hnext
  rw [sheet?_next] at hsheet
  cases hsheet

theorem Holds.denotes_iff (h : t.Holds s number) (handle : Handle) :
    s.layerNumber? handle = some number ↔
      handle.sheet ∈ t.shared ∧ handle.number = t.place := by
  rw [layerNumber?_eq]
  exact h.listed handle.sheet handle.number

theorem Holds.enter {shared : List SheetId} (h : t.Holds s number)
    (hnew : ∀ place,
      sheet.layers[place]? = some number ↔ s.next ∈ shared ∧ place = t.place)
    (hold : ∀ other, other ≠ s.next → (other ∈ shared ↔ other ∈ t.shared)) :
    { t with shared := shared : Track }.Holds (s.enter sheet).1 number where
  listed other place := by
    by_cases hother : other = s.next
    · rw [hother, layerNumbers_eq (sheet?_enter_next s sheet)]
      exact hnew place
    · rw [layerNumbers_congr (sheet?_enter_of_ne hother sheet), h.listed, hold other hother]
  kept := h.kept

theorem Holds.copied {change : Change} (h : t.Holds s number) (hsheet : s.sheet? id = some sheet) :
    (t.step (.copy id change) (.ok (.sheet s.next))).Holds (s.enter (change.applySheet sheet)).1
      number := by
  have hlisted (place : Nat) : (change.applySheet sheet).layers[place]? = some number ↔
      id ∈ t.shared ∧ place = t.place := by
    rw [Change.applySheet_layers, ← layerNumbers_eq hsheet]
    exact h.listed id place
  rw [step]
  split
  · rename_i hid
    refine h.enter (fun place => ?_) fun other hother => ?_
    · rw [hlisted, and_iff_right hid, and_iff_right (List.mem_append_right _ List.mem_cons_self)]
    · rw [List.mem_append, List.mem_singleton, or_iff_left hother]
  · rename_i hid
    refine h.enter (fun place => ?_) fun other _ => Iff.rfl
    rw [hlisted]
    exact iff_of_false (fun hmem => hid hmem.1) fun hmem => h.next_not_mem hmem.1

theorem Holds.append (h : t.Holds s number) (hsheet : s.sheet? id = some sheet) (layer : Layer) :
    t.Holds (s.append id sheet layer) number where
  listed other place := by
    rw [listed_append hsheet, h.listed, or_iff_left fun hnew => Nat.ne_of_lt h.lt hnew.2.2]
  kept := (layerAt?_append h.lt id sheet layer).trans h.kept

theorem Holds.edited {handle : Handle} {n : Nat} {layer : Layer} {e : Layer.Edit}
    {answer : Except Fault Answer} (h : t.Holds s number)
    (hn : s.layerNumber? handle = some n) (hlayer : s.layerAt? n = some layer) :
    (t.step (.edit handle e) answer).Holds (s.replace n (layer.edit e).1) number := by
  have hdenotes := h.denotes_iff handle
  rw [hn, Option.some_inj] at hdenotes
  rw [step]
  split
  · rename_i hmine
    obtain rfl := hdenotes.mpr hmine
    obtain rfl : t.layer = layer := Option.some.inj (h.kept.symm.trans hlayer)
    exact ⟨h.listed, List.getElem?_set_self h.lt⟩
  · rename_i hother
    refine ⟨h.listed, ?_⟩
    have hne : n ≠ number := fun he => hother (hdenotes.mp he)
    exact (List.getElem?_set_ne hne).trans h.kept

/-- A call keeps the track. -/
theorem Holds.step {call : Call} {answer : Except Fault Answer} (h : t.Holds s number)
    (hstep : Step s call answer s') : (t.step call answer).Holds s' number := by
  cases hstep with
  | created background context =>
    refine h.enter (fun place => ?_) fun other _ => Iff.rfl
    exact iff_of_false (fun hnone => by cases hnone) fun hmem => h.next_not_mem hmem.1
  | copied change known => exact h.copied known
  | unknown | refused => exact h
  | added clip name layer known => exact h.append known layer
  | edited e denotes kept => exact h.edited denotes kept
  | @missed handle e missing =>
    rw [Track.step, if_neg]
    · exact h
    · intro hmine
      rw [layer?_eq ((h.denotes_iff handle).mpr hmine), h.kept] at missing
      cases missing

theorem Holds.follow (h : t.Holds s number) (calls : List Call) :
    (t.follow s calls).Holds (s.after calls) number := by
  induction calls generalizing s t with
  | nil => exact h
  | cons call calls ih => exact ih (h.step (step_call s call))

theorem step_place (t : Track) (call : Call) (answer : Except Fault Answer) :
    (t.step call answer).place = t.place := by
  unfold step
  split
  · split <;> rfl
  · split <;> rfl
  · rfl

theorem step_shared (t : Track) (call : Call) (answer : Except Fault Answer) :
    t.shared ⊆ (t.step call answer).shared := by
  unfold step
  split
  · split
    · exact List.subset_append_left _ _
    · exact List.Subset.refl _
  · split <;> exact List.Subset.refl _
  · exact List.Subset.refl _

theorem follow_place (t : Track) (s : Studio) (calls : List Call) :
    (t.follow s calls).place = t.place := by
  induction calls generalizing s t with
  | nil => rfl
  | cons call calls ih => exact (ih _ _).trans (t.step_place call _)

theorem follow_shared (t : Track) (s : Studio) (calls : List Call) :
    t.shared ⊆ (t.follow s calls).shared := by
  induction calls generalizing s t with
  | nil => exact List.Subset.refl _
  | cons call calls ih => exact List.Subset.trans (t.step_shared call _) (ih _ _)

/-- A handle means the layer of its addition for ever. -/
theorem Holds.denotes_after {h : Handle} {layer : Layer}
    (hstart : (start h layer).Holds s number) (calls : List Call) :
    (s.after calls).layerNumber? h = some number :=
  ((hstart.follow calls).denotes_iff h).mpr
    ⟨follow_shared _ s calls List.mem_cons_self, (follow_place (start h layer) s calls).symm⟩

end Track

end Compositor.Studio
