import Compositor.Layer

/-!
# What an edit changes

An edit names some settings and gives them values. It succeeds when all of these are
valid, and then the settings have them; what it does not name stays as it is, also when
the edit is refused half way.
-/
namespace Compositor.Layer

/-- The settings of a layer. -/
inductive Field where
  | name | clip | anchor | dx | dy | xExpr | yExpr | size | opacity | rotation | crop
  | start | stop | duration | trim | audioEnabled | volume | alphaEnabled | z

def Field.Value : Field → Type
  | .name => String
  | .clip => Foreground
  | .anchor => Except Json Anchor
  | .size => Size Float
  | .opacity | .volume => Float
  | .crop => Option Rectangle
  | .start | .stop | .duration => Option Json
  | .trim => Option (Trim Json)
  | .dx | .dy | .xExpr | .yExpr | .rotation | .audioEnabled | .alphaEnabled | .z => Json

def get (l : Layer) : (f : Field) → f.Value
  | .name => l.name
  | .clip => l.clip
  | .anchor => l.anchor
  | .dx => l.dx
  | .dy => l.dy
  | .xExpr => l.xExpr
  | .yExpr => l.yExpr
  | .size => l.size
  | .opacity => l.opacity
  | .rotation => l.rotation
  | .crop => l.crop
  | .start => l.placement.start
  | .stop => l.placement.stop
  | .duration => l.placement.duration
  | .trim => l.trim
  | .audioEnabled => l.audioEnabled
  | .volume => l.volume
  | .alphaEnabled => l.alphaEnabled
  | .z => l.z

/-- There is nothing in a layer besides its settings. -/
theorem ext_get {l l' : Layer} (h : ∀ f, l.get f = l'.get f) : l = l' := by
  obtain ⟨_, _, _, _, _, _, _, _, _, _, _, ⟨_, _, _⟩, _, _, _, _, _⟩ := l
  obtain ⟨_, _, _, _, _, _, _, _, _, _, _, ⟨_, _, _⟩, _, _, _, _, _⟩ := l'
  rw [Layer.mk.injEq, Placement.mk.injEq]
  exact ⟨h .name, h .clip, h .anchor, h .dx, h .dy, h .xExpr, h .yExpr, h .size, h .opacity,
    h .rotation, h .crop, ⟨h .start, h .stop, h .duration⟩, h .trim, h .audioEnabled, h .volume,
    h .alphaEnabled, h .z⟩

/-- What an edit gives to a setting, if it names it. -/
def Edit.gives? : Edit → (f : Field) → Option (Except Fault f.Value)
  | .at_ anchor _ _, .anchor => some (.ok anchor)
  | .at_ _ dx _, .dx => some (.ok dx)
  | .at_ _ _ dy, .dy => some (.ok dy)
  | .xy x _, .xExpr => some (.ok x)
  | .xy _ y, .yExpr => some (.ok y)
  | .size settings, .size => some (Size.read settings).toExcept
  | .opacity value, .opacity => some value.clampUnit
  | .rotate degrees, .rotation => some (.ok degrees)
  | .crop box, .crop => some (.ok (some box))
  | .start seconds, .start => some (.ok seconds)
  | .stop seconds, .stop => some (.ok seconds)
  | .duration seconds, .duration => some (.ok seconds)
  | .subclip first last, .trim => some (.ok (some ⟨first, last⟩))
  | .audio enabled _, .audioEnabled => some (.ok enabled)
  | .audio _ volume, .volume => some volume.clampUnit
  | .z index, .z => some (.ok index)
  | .alpha enabled, .alphaEnabled => some (.ok enabled)
  | _, _ => none

/-- A setting that is not named stays as it is, also when the edit fails. -/
theorem edit_keeps (l : Layer) (e : Edit) (f : Field) (hf : e.gives? f = none) :
    (l.edit e).1.get f = l.get f := by
  cases e with
  | size settings =>
    rw [edit]
    cases (Size.read settings).toExcept with
    | error fault => rfl
    | ok size => cases f <;> first | rfl | cases hf
  | opacity alpha =>
    rw [edit]
    cases alpha.clampUnit with
    | error fault => rfl
    | ok opacity => cases f <;> first | rfl | cases hf
  | audio enabled volume =>
    rw [edit]
    cases volume.clampUnit <;> cases f <;> first | rfl | cases hf
  | _ => cases f <;> first | rfl | cases hf

/-- An edit that succeeds gives its values to all settings that it names. -/
theorem edit_gives (l : Layer) (e : Edit) (he : (l.edit e).2 = .ok ()) (f : Field)
    {v : Except Fault f.Value} (hf : e.gives? f = some v) : v = .ok ((l.edit e).1.get f) := by
  cases e with
  | size settings =>
    rw [edit] at he ⊢
    cases hsize : (Size.read settings).toExcept with
    | error fault =>
      rw [hsize] at he
      cases he
    | ok size =>
      cases f <;> cases hf
      exact hsize
  | opacity alpha =>
    rw [edit] at he ⊢
    cases hopacity : alpha.clampUnit with
    | error fault =>
      rw [hopacity] at he
      cases he
    | ok opacity =>
      cases f <;> cases hf
      exact hopacity
  | audio enabled volume =>
    rw [edit] at he ⊢
    cases hvolume : volume.clampUnit with
    | error fault =>
      rw [hvolume] at he
      cases he
    | ok volume =>
      cases f <;> cases hf
      · rfl
      · exact hvolume
  | _ => cases f <;> cases hf <;> rfl

/-- An edit is refused only for a value that is not valid. -/
theorem edit_ok_iff (l : Layer) (e : Edit) :
    (l.edit e).2 = .ok () ↔ ∀ f fault, e.gives? f ≠ some (.error fault) := by
  refine ⟨fun he f fault hf => (nomatch l.edit_gives e he f hf), fun hvalid => ?_⟩
  cases e with
  | size settings =>
    rw [edit]
    cases hsize : (Size.read settings).toExcept with
    | error fault => exact absurd (congrArg some hsize) (hvalid .size fault)
    | ok size => rfl
  | opacity alpha =>
    rw [edit]
    cases hopacity : alpha.clampUnit with
    | error fault => exact absurd (congrArg some hopacity) (hvalid .opacity fault)
    | ok opacity => rfl
  | audio enabled volume =>
    rw [edit]
    cases hvolume : volume.clampUnit with
    | error fault => exact absurd (congrArg some hvolume) (hvalid .volume fault)
    | ok volume => rfl
  | _ => rfl

/-- What an edit does to a layer. -/
structure Edit.Does (e : Edit) (l l' : Layer) (result : Except Fault Unit) : Prop where
  keeps : ∀ f, e.gives? f = none → l'.get f = l.get f
  ok_iff : result = .ok () ↔ ∀ f fault, e.gives? f ≠ some (.error fault)
  gives : result = .ok () → ∀ f v, e.gives? f = some v → v = .ok (l'.get f)

theorem edit_does (l : Layer) (e : Edit) : e.Does l (l.edit e).1 (l.edit e).2 :=
  ⟨l.edit_keeps e, l.edit_ok_iff e, fun he f _ hf => l.edit_gives e he f hf⟩

end Compositor.Layer
