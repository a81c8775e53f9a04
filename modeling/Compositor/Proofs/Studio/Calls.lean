import Compositor.Composition.Studio

/-!
# Calls on shared compositions

Whatever is done to the compositions is a sequence of calls, and `Step` says once what
a single call can do: it enters a new sheet, appends one layer to one sheet, replaces
one layer, or is refused and does nothing.
-/
namespace Compositor.Studio

/-- The one component in which a copy of a composition differs from it. -/
inductive Change where
  | background (background : Option Background)
  | canvas (frame : Frame)
  | length (length : Option Json)

namespace Change

def apply (c : Composition) : Change → Composition
  | .background b => { c with background := b }
  | .canvas frame => { c with hint := some frame }
  | .length l => { c with length := l }

def applySheet (sheet : Sheet) : Change → Sheet
  | .background b => { sheet with background := b }
  | .canvas frame => { sheet with hint := some frame }
  | .length l => { sheet with length := l }

@[simp] theorem applySheet_layers (sheet : Sheet) (change : Change) :
    (change.applySheet sheet).layers = sheet.layers := by
  cases change <;> rfl

end Change

/-- A call on any of the compositions or of the handles. -/
inductive Call where
  | create (background : Option Background) (context : ContextId)
  | copy (id : SheetId) (change : Change)
  | add (id : SheetId) (clip : Checked Foreground) (name : Json)
  | edit (h : Handle) (e : Layer.Edit)

inductive Answer where
  | sheet (id : SheetId)
  | handle (h : Handle)
  | done

def copied (s : Studio) (id : SheetId) : Change → Studio × Except Fault SheetId
  | .background b => s.withBackground id b
  | .canvas frame => s.withCanvas id frame
  | .length l => s.withLength id l

def call (s : Studio) : Call → Studio × Except Fault Answer
  | .create background context =>
    let (s', id) := s.create background context
    (s', .ok (.sheet id))
  | .copy id change =>
    let (s', answer) := s.copied id change
    (s', answer.map .sheet)
  | .add id clip name =>
    let (s', answer) := s.add id clip name
    (s', answer.map .handle)
  | .edit h e =>
    let (s', answer) := s.edit h e
    (s', answer.map fun _ => .done)

/-- The studio after some calls, one after the other. -/
def after (s : Studio) : List Call → Studio
  | [] => s
  | c :: calls => (s.call c).1.after calls

/-- The studio that calls have made from nothing. -/
def run (calls : List Call) : Studio := empty.after calls

theorem after_append (s : Studio) (calls later : List Call) :
    s.after (calls ++ later) = (s.after calls).after later := by
  induction calls generalizing s with
  | nil => rfl
  | cons c calls ih => exact ih _

/-! ## Sheets and layers -/

variable {s : Studio} {id other : SheetId} {sheet : Sheet} {h : Handle} {number : Nat}

theorem index_ne (h : other ≠ id) : other.index ≠ id.index :=
  fun he => h (congrArg SheetId.mk he)

/-- The number that the next sheet gets. -/
def next (s : Studio) : SheetId := ⟨s.sheets.length⟩

theorem sheet?_next (s : Studio) : s.sheet? s.next = none :=
  List.getElem?_eq_none (Nat.le_refl _)

theorem sheet?_enter_next (s : Studio) (sheet : Sheet) :
    (s.enter sheet).1.sheet? s.next = some sheet := List.getElem?_concat_length

theorem sheet?_enter_of_ne (h : other ≠ s.next) (sheet : Sheet) :
    (s.enter sheet).1.sheet? other = s.sheet? other := by
  change (s.sheets ++ [sheet])[other.index]? = s.sheets[other.index]?
  rcases Nat.lt_or_gt_of_ne (index_ne h) with hlt | hgt
  · exact List.getElem?_append_left hlt
  · rw [List.getElem?_eq_none (Nat.le_of_lt hgt), List.getElem?_eq_none]
    rw [List.length_append, List.length_singleton]
    exact hgt

/-- The studio in which a new layer is the last one of a sheet. -/
def append (s : Studio) (id : SheetId) (sheet : Sheet) (layer : Layer) : Studio where
  layers := s.layers ++ [layer]
  sheets := s.sheets.set id.index { sheet with layers := sheet.layers ++ [s.layers.length] }

theorem sheet?_append_self (h : s.sheet? id = some sheet) (layer : Layer) :
    (s.append id sheet layer).sheet? id =
      some { sheet with layers := sheet.layers ++ [s.layers.length] } :=
  List.getElem?_set_self (List.getElem?_eq_some_iff.mp h).1

theorem sheet?_append_of_ne (h : other ≠ id) (sheet : Sheet) (layer : Layer) :
    (s.append id sheet layer).sheet? other = s.sheet? other :=
  List.getElem?_set_ne (index_ne h).symm

/-- The studio in which a layer has been replaced. -/
def replace (s : Studio) (number : Nat) (layer : Layer) : Studio :=
  { s with layers := s.layers.set number layer }

theorem layerNumbers_eq (h : s.sheet? id = some sheet) : s.layerNumbers id = sheet.layers := by
  rw [layerNumbers, h]
  rfl

theorem layerNumbers_unknown (h : s.sheet? id = none) : s.layerNumbers id = [] := by
  rw [layerNumbers, h]
  rfl

theorem layerNumbers_congr {s' : Studio} (h : s'.sheet? id = s.sheet? id) :
    s'.layerNumbers id = s.layerNumbers id := by
  rw [layerNumbers, layerNumbers, h]

theorem layerNumber?_eq (s : Studio) (h : Handle) :
    s.layerNumber? h = (s.layerNumbers h.sheet)[h.number]? := by
  rw [layerNumber?, layerNumbers]
  cases s.sheet? h.sheet <;> rfl

theorem layer?_eq (hn : s.layerNumber? h = some number) : s.layer? h = s.layerAt? number := by
  rw [layer?, hn]
  rfl

/-! ## The steps -/

/-- What a call makes of a studio, and what it answers. -/
inductive Step (s : Studio) : Call → Except Fault Answer → Studio → Prop where
  | created (background : Option Background) (context : ContextId) :
    Step s (.create background context) (.ok (.sheet s.next))
      (s.enter ⟨background, [], none, none, context⟩).1
  | copied {id : SheetId} {sheet : Sheet} (change : Change) (known : s.sheet? id = some sheet) :
    Step s (.copy id change) (.ok (.sheet s.next)) (s.enter (change.applySheet sheet)).1
  | unknown {id : SheetId} (change : Change) (missing : s.sheet? id = none) :
    Step s (.copy id change) (.error .noKey) s
  | added {id : SheetId} {sheet : Sheet} (clip : Checked Foreground) (name : Json) (layer : Layer)
    (known : s.sheet? id = some sheet) :
    Step s (.add id clip name) (.ok (.handle ⟨id, sheet.layers.length⟩)) (s.append id sheet layer)
  | refused (id : SheetId) (clip : Checked Foreground) (name : Json) (e : Fault) :
    Step s (.add id clip name) (.error e) s
  | edited {h : Handle} {number : Nat} {layer : Layer} (e : Layer.Edit)
    (denotes : s.layerNumber? h = some number) (kept : s.layerAt? number = some layer) :
    Step s (.edit h e) ((layer.edit e).2.map fun _ => .done) (s.replace number (layer.edit e).1)
  | missed {h : Handle} (e : Layer.Edit) (missing : s.layer? h = none) :
    Step s (.edit h e) (.error .noKey) s

theorem copied_eq (s : Studio) (id : SheetId) (change : Change) :
    s.copied id change = s.derive id change.applySheet := by
  cases change <;> rfl

theorem copied_known (h : s.sheet? id = some sheet) (change : Change) :
    s.copied id change = ((s.enter (change.applySheet sheet)).1, .ok s.next) := by
  rw [copied_eq, derive, h]
  rfl

theorem copied_unknown (h : s.sheet? id = none) (change : Change) :
    s.copied id change = (s, .error .noKey) := by
  rw [copied_eq, derive, h]

/-- A layer is added when its name and its clip are valid. -/
theorem add_valid {clip : Foreground} {name : Json} {text : String}
    (h : s.sheet? id = some sheet) (hname : layerName name sheet.layers.length = .valid text) :
    s.add id (.valid clip) name =
      (s.append id sheet (.ofClip text clip sheet.layers.length),
        .ok ⟨id, sheet.layers.length⟩) := by
  rw [add, h]
  dsimp only
  rw [hname]
  rfl

theorem add_invalid {clip : Checked Foreground} {name : Json} (h : s.sheet? id = some sheet)
    (hinvalid : ∀ text fg, layerName name sheet.layers.length = .valid text →
      clip = .valid fg → False) : ∃ e, s.add id clip name = (s, .error e) := by
  rw [add, h]
  dsimp only
  cases hname : layerName name sheet.layers.length with
  | invalid issues => cases clip <;> exact ⟨_, rfl⟩
  | valid text =>
    cases clip with
    | invalid issues => exact ⟨_, rfl⟩
    | valid fg => exact (hinvalid text fg hname rfl).elim

theorem step_call (s : Studio) (c : Call) : Step s c (s.call c).2 (s.call c).1 := by
  cases c with
  | create background context => exact .created background context
  | copy id change =>
    rw [call]
    cases h : s.sheet? id with
    | none =>
      rw [copied_unknown h]
      exact .unknown change h
    | some sheet =>
      rw [copied_known h]
      exact .copied change h
  | add id clip name =>
    rw [call, add]
    cases h : s.sheet? id with
    | none => exact .refused id clip name .noKey
    | some sheet =>
      dsimp only
      split
      · exact .refused id clip name _
      · exact .added clip name _ h
  | edit h e =>
    rw [call, edit]
    cases hn : s.layerNumber? h with
    | none => exact .missed e (by rw [layer?, hn]; rfl)
    | some number =>
      cases hl : s.layerAt? number with
      | none =>
        dsimp only
        rw [hl]
        exact .missed e ((layer?_eq hn).trans hl)
      | some layer =>
        dsimp only
        rw [hl]
        exact .edited e hn hl

/-- A handle is answered when a layer has been appended. -/
theorem append_of_handle {s' : Studio} {clip : Checked Foreground} {name : Json}
    (hadd : s.call (.add id clip name) = (s', .ok (.handle h))) :
    ∃ sheet layer, s.sheet? id = some sheet ∧ h = ⟨id, sheet.layers.length⟩ ∧
      s' = s.append id sheet layer := by
  have hstep := step_call s (.add id clip name)
  rw [hadd] at hstep
  cases hstep with
  | added _ _ layer known => exact ⟨_, layer, known, rfl, rfl⟩

end Compositor.Studio
