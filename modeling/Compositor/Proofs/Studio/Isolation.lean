import Compositor.Proofs.Layer.Editing
import Compositor.Proofs.Studio.Sharing
import Mathlib.Data.List.Basic

/-!
# Compositions do not disturb each other

What a call does is seen in the composition that it makes or extends, and an edit in the
compositions that share the layer. All others look as before. Calls may come in any
order and number, on any of the compositions and handles.
-/
namespace Compositor.Studio

variable {s s' : Studio} {id other : SheetId} {sheet : Sheet} {c : Composition} {number : Nat}

/-! ## What a composition shows -/

/-- The layers of a composition are those of its sheet, place by place. -/
theorem Sound.map_some_layers (hs : s.Sound) (hc : s.composition? id = some c) :
    c.layers.map some = (s.layerNumbers id).map s.layerAt? := by
  obtain ⟨sheet, hsheet, rfl⟩ := Option.map_eq_some_iff.mp hc
  dsimp only
  rw [List.map_filterMap_some_eq_filter_map_isSome, layerNumbers_eq hsheet, List.filter_eq_self]
  intro kept hkept
  obtain ⟨n, hn, rfl⟩ := List.mem_map.mp hkept
  rw [layerAt?, List.getElem?_eq_getElem (hs id n (layerNumbers_eq hsheet ▸ hn))]
  rfl

theorem Sound.length_layers (hs : s.Sound) (hc : s.composition? id = some c) :
    c.layers.length = (s.layerNumbers id).length := by
  simpa only [List.length_map] using congrArg List.length (hs.map_some_layers hc)

theorem composition?_eq (h : s.sheet? id = some sheet) : s.composition? id = some {
    background := sheet.background
    layers := sheet.layers.filterMap s.layerAt?
    hint := sheet.hint
    length := sheet.length
    context := sheet.context } := by
  rw [composition?, h]
  rfl

/-- A composition is what its sheet says and the layers that it lists. -/
theorem composition?_congr (hsheet : s'.sheet? id = s.sheet? id)
    (hlayers : ∀ n ∈ s.layerNumbers id, s'.layerAt? n = s.layerAt? n) :
    s'.composition? id = s.composition? id := by
  rw [composition?, composition?, hsheet]
  cases h : s.sheet? id with
  | none => rfl
  | some sheet =>
    rw [layerNumbers_eq h] at hlayers
    rw [Option.map_some, Option.map_some, List.filterMap_congr hlayers]

/-! ## What one call does -/

/-- Nothing has happened to a composition or to its layers. -/
def Untouched (s s' : Studio) (id : SheetId) : Prop :=
  s'.sheet? id = s.sheet? id ∧ s'.composition? id = s.composition? id

/-- The call makes a new composition `c` of the numbered layers, and touches no other one. -/
def Makes (s : Studio) (call : Call) (c : Composition) (numbers : List Nat) : Prop :=
  ∃ s' new, s.call call = (s', .ok (.sheet new)) ∧ s.sheet? new = none ∧
    s'.composition? new = some c ∧ s'.layerNumbers new = numbers ∧
    ∀ other, other ≠ new → Untouched s s' other

/-- A valid clip with a valid name becomes the last layer of `c`, under a new number, and
no other composition is touched; otherwise nothing happens. -/
def Adds (s : Studio) (id : SheetId) (c : Composition) (clip : Checked Foreground)
    (name : Json) : Prop :=
  match layerName name c.layers.length, clip with
  | .valid text, .valid clip =>
    ∃ s', s.call (.add id (.valid clip) name) = (s', .ok (.handle ⟨id, c.layers.length⟩)) ∧
      s'.composition? id =
        some { c with layers := c.layers ++ [.ofClip text clip c.layers.length] } ∧
      s'.layerNumbers id = s.layerNumbers id ++ [s.layers.length] ∧
      ∀ other, other ≠ id → Untouched s s' other
  | _, _ => ∃ e, s.call (.add id clip name) = (s, .error e)

/-- The edit changes the one layer that is followed, in what it names. This is seen in the
compositions that share the layer, and no other one is touched. -/
def Edits (s : Studio) (h : Handle) (t : Track) (e : Layer.Edit) : Prop :=
  ∃ s', s.call (.edit h e) = (s', (t.layer.edit e).2.map fun _ => .done) ∧
    e.Does t.layer (t.layer.edit e).1 (t.layer.edit e).2 ∧
    (∀ id ∈ t.shared, s'.sheet? id = s.sheet? id ∧ ∃ c, s.composition? id = some c ∧
      c.layers[h.number]? = some t.layer ∧
      s'.composition? id =
        some { c with layers := c.layers.set h.number (t.layer.edit e).1 }) ∧
    ∀ id, id ∉ t.shared → Untouched s s' id

theorem untouched_enter (hother : other ≠ s.next) (sheet : Sheet) :
    Untouched s (s.enter sheet).1 other :=
  ⟨sheet?_enter_of_ne hother sheet,
    composition?_congr (sheet?_enter_of_ne hother sheet) fun _ _ => rfl⟩

theorem makes_create (s : Studio) (background : Option Background) (context : ContextId) :
    s.Makes (.create background context) ⟨background, [], none, none, context⟩ [] :=
  ⟨_, _, rfl, s.sheet?_next, composition?_eq (sheet?_enter_next s _),
    layerNumbers_eq (sheet?_enter_next s _), fun _ hother => untouched_enter hother _⟩

theorem makes_copy (hc : s.composition? id = some c) (change : Change) :
    s.Makes (.copy id change) (change.apply c) (s.layerNumbers id) := by
  obtain ⟨sheet, hsheet, rfl⟩ := Option.map_eq_some_iff.mp hc
  refine ⟨_, s.next, by rw [call, copied_known hsheet]; rfl, s.sheet?_next, ?_, ?_,
    fun _ hother => untouched_enter hother _⟩
  · rw [composition?_eq (sheet?_enter_next s _)]
    cases change <;> rfl
  · rw [layerNumbers_eq (sheet?_enter_next s _), Change.applySheet_layers, layerNumbers_eq hsheet]

theorem composition?_append (hs : s.Sound) (hsheet : s.sheet? id = some sheet)
    (hc : s.composition? id = some c) (layer : Layer) :
    (s.append id sheet layer).composition? id =
      some { c with layers := c.layers ++ [layer] } := by
  rw [composition?_eq hsheet, Option.some_inj] at hc
  have hold : sheet.layers.filterMap (s.append id sheet layer).layerAt? = c.layers := by
    rw [← hc]
    exact List.filterMap_congr fun n hn =>
      layerAt?_append (hs id n (layerNumbers_eq hsheet ▸ hn)) id sheet layer
  have hnew : (s.append id sheet layer).layerAt? s.layers.length = some layer :=
    List.getElem?_concat_length
  rw [composition?_eq (sheet?_append_self hsheet layer), List.filterMap_append, hold,
    List.filterMap_cons_some hnew, ← hc]
  rfl

theorem untouched_append (hs : s.Sound) (hother : other ≠ id) (sheet : Sheet) (layer : Layer) :
    Untouched s (s.append id sheet layer) other :=
  ⟨sheet?_append_of_ne hother sheet layer,
    composition?_congr (sheet?_append_of_ne hother sheet layer) fun n hn =>
      layerAt?_append (hs other n hn) id sheet layer⟩

/-- A valid clip goes on top of its own composition only. -/
theorem adds_layer (hs : s.Sound) (hc : s.composition? id = some c) (clip : Checked Foreground)
    (name : Json) : s.Adds id c clip name := by
  obtain ⟨sheet, hsheet, -⟩ := Option.map_eq_some_iff.mp hc
  have hlength := hs.length_layers hc
  rw [layerNumbers_eq hsheet] at hlength
  unfold Adds
  split
  · rename_i text clip hname
    rw [hlength] at hname ⊢
    refine ⟨_, by rw [call, add_valid hsheet hname]; rfl, composition?_append hs hsheet hc _, ?_,
      fun other hother => untouched_append hs hother sheet _⟩
    rw [layerNumbers_eq (sheet?_append_self hsheet _), layerNumbers_eq hsheet]
  · rename_i hinvalid
    rw [hlength] at hinvalid
    obtain ⟨e, he⟩ := add_invalid hsheet hinvalid
    exact ⟨e, by rw [call, he]; rfl⟩

/-- Where the one layer stands that has been replaced. -/
theorem map_set_of_unique {α : Type} {numbers : List Nat} {place : Nat} {f f' : Nat → α}
    (hplace : ∀ i, numbers[i]? = some number ↔ i = place)
    (hf : ∀ n, n ≠ number → f' n = f n) :
    numbers.map f' = (numbers.map f).set place (f' number) := by
  refine List.ext_getElem? fun i => ?_
  by_cases hi : i = place
  · rw [hi, List.getElem?_set_self', List.getElem?_map, List.getElem?_map, (hplace place).mpr rfl]
    rfl
  · rw [List.getElem?_set_ne (Ne.symm hi), List.getElem?_map, List.getElem?_map]
    refine Option.map_congr fun n hn => hf n fun he => hi ((hplace i).mp ?_)
    rw [hn, he]

/-- A composition that shares a layer shows it in its place. -/
theorem Track.Holds.shown {t : Track} (ht : t.Holds s number) (hs : s.Sound)
    (hid : id ∈ t.shared) (hc : s.composition? id = some c) :
    c.layers[t.place]? = some t.layer := by
  have hplace := congrArg (fun layers => layers[t.place]?) (hs.map_some_layers hc)
  rw [List.getElem?_map, List.getElem?_map, (ht.listed id t.place).mpr ⟨hid, rfl⟩,
    Option.map_some, ht.kept] at hplace
  obtain ⟨layer, hlayer, heq⟩ := Option.map_eq_some_iff.mp hplace
  rw [hlayer, heq]

theorem composition?_replace {t : Track} (hs : s.Sound) (ht : t.Holds s number)
    (hid : id ∈ t.shared) (hc : s.composition? id = some c) (layer : Layer) :
    (s.replace number layer).composition? id =
      some { c with layers := c.layers.set t.place layer } := by
  obtain ⟨sheet, hsheet⟩ := ht.known hid
  have hc' : (s.replace number layer).composition? id = some _ := composition?_eq hsheet
  have hlayers := (hs.replace number layer).map_some_layers hc'
  have hnew : (s.replace number layer).layerAt? number = some layer :=
    List.getElem?_set_self ht.lt
  have hold (n : Nat) (hn : n ≠ number) :
      (s.replace number layer).layerAt? n = s.layerAt? n := List.getElem?_set_ne hn.symm
  have hunique (i : Nat) : (s.layerNumbers id)[i]? = some number ↔ i = t.place := by
    rw [ht.listed, and_iff_right hid]
  -- the sheets stay as they are, so the two lists of layers differ in the one place
  rw [show (s.replace number layer).layerNumbers id = s.layerNumbers id from rfl,
    map_set_of_unique hunique hold, hnew, ← hs.map_some_layers hc, ← List.map_set,
    List.map_inj_right fun _ _ => Option.some.inj] at hlayers
  rw [hc', ← hlayers]
  rw [composition?_eq hsheet, Option.some_inj] at hc
  rw [← hc]

theorem edits_layer {t : Track} {h : Handle} (hs : s.Sound) (ht : t.Holds s number)
    (hh : s.layerNumber? h = some number) (e : Layer.Edit) : s.Edits h t e := by
  obtain ⟨-, hplace⟩ := (ht.denotes_iff h).mp hh
  refine ⟨s.replace number (t.layer.edit e).1, ?_, t.layer.edit_does e,
    fun id hid => ⟨rfl, ?_⟩, fun id hid => ⟨rfl, composition?_congr rfl fun n hn => ?_⟩⟩
  · rw [call, edit, hh]
    dsimp only
    rw [ht.kept]
    rfl
  · obtain ⟨sheet, hsheet⟩ := ht.known hid
    rw [hplace]
    exact ⟨_, composition?_eq hsheet, ht.shown hs hid (composition?_eq hsheet),
      composition?_replace hs ht hid (composition?_eq hsheet) _⟩
  · refine List.getElem?_set_ne fun he => hid ?_
    obtain ⟨i, hi⟩ := List.getElem?_of_mem hn
    exact ((ht.listed id i).mp (he ▸ hi)).1

/-! ## Every run -/

/-- From nothing, through any calls: a copy differs from its origin in the one component
only, an addition is seen in one composition only, and a handle means the layer of its own
addition for ever, whose edits are seen where that layer is shared and nowhere else. -/
theorem compositions_isolated (past : List Call) :
    (∀ background context, (run past).Makes (.create background context)
      ⟨background, [], none, none, context⟩ []) ∧
    (∀ id c, (run past).composition? id = some c →
      (∀ change, (run past).Makes (.copy id change) (change.apply c)
        ((run past).layerNumbers id)) ∧
      ∀ clip name, (run past).Adds id c clip name) ∧
    ∀ before id clip name later h s, past = before ++ .add id clip name :: later →
      (run before).call (.add id clip name) = (s, .ok (.handle h)) →
      ∃ layer, s.layer? h = some layer ∧
        let t := (Track.start h layer).follow s later
        t.Holds (run past) (run before).layers.length ∧
        (run past).layerNumber? h = some (run before).layers.length ∧
        ∀ e, (run past).Edits h t e := by
  refine ⟨makes_create _, fun id c hc => ⟨makes_copy hc, adds_layer (sound_run past) hc⟩, ?_⟩
  rintro before id clip name later h s rfl hadd
  -- the track starts at the addition, and all that comes later keeps it
  have hs := sound_run (before ++ .add id clip name :: later)
  have hrun : run (before ++ .add id clip name :: later) = s.after later := by
    rw [run, after_append, after, ← run, hadd]
  rw [hrun] at hs ⊢
  obtain ⟨sheet, layer, hsheet, rfl, rfl⟩ := append_of_handle hadd
  have hstart := Track.holds_append (sound_run before) hsheet layer
  have hh := hstart.denotes_after later
  exact ⟨layer, (layer?_eq (hstart.denotes_after [])).trans hstart.kept, hstart.follow later, hh,
    edits_layer hs (hstart.follow later) hh⟩

/-- A layer, a copy of its composition, a stranger, and a copy of the copy. -/
def copiedTwice : List Call :=
  [.create none ⟨0⟩, .add ⟨0⟩ (.valid ⟨.webm, "a.webm", none, none, none, false, none⟩) .null,
    .copy ⟨0⟩ (.length none), .create none ⟨0⟩, .copy ⟨1⟩ (.background none)]

theorem compositions_isolated_copiedTwice : ∃ t : Track,
    t.shared = [⟨0⟩, ⟨1⟩, ⟨3⟩] ∧ t.Holds (run copiedTwice) 0 ∧
    (run copiedTwice).layerNumber? ⟨⟨0⟩, 0⟩ = some 0 ∧
    ∀ e, (run copiedTwice).Edits ⟨⟨0⟩, 0⟩ t e := by
  obtain ⟨-, -, hhandles⟩ := compositions_isolated copiedTwice
  obtain ⟨layer, -, hholds, hdenotes, hedits⟩ := hhandles [.create none ⟨0⟩] ⟨0⟩ _ .null
    [.copy ⟨0⟩ (.length none), .create none ⟨0⟩, .copy ⟨1⟩ (.background none)] ⟨⟨0⟩, 0⟩ _ rfl rfl
  exact ⟨_, rfl, hholds, hdenotes, hedits⟩

end Compositor.Studio
