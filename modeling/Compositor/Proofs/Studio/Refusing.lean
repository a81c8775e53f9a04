import Compositor.Proofs.Layer.Clamping
import Compositor.Proofs.Studio.Calls

/-!
# Refused calls

A call that is refused leaves all compositions and all layers as they were, but for one edit:
the sound of a layer is switched before its volume turns out to be no number. No call, refused
or not, brings an opacity or a volume outside of the unit interval.
-/
namespace Compositor.Studio

variable {s s' : Studio}

/-! ## What a refusal changes -/

/-- The one call that is refused when half of it is done: the sound of a layer is switched, and
its volume is no number. -/
inductive Switched (s : Studio) : Call → Fault → Studio → Prop where
  | intro {h : Handle} {number : Nat} {layer : Layer} (enabled : Json) {volume : Json}
    (denotes : s.layerNumber? h = some number) (kept : s.layerAt? number = some layer)
    (other : volume.number? = none) :
    Switched s (.edit h (.audio enabled volume)) .wrongType
      (s.replace number { layer with audioEnabled := enabled })

/-- A layer that is replaced by itself. -/
theorem replace_self {number : Nat} {layer : Layer} (h : s.layerAt? number = some layer) :
    s.replace number layer = s := by
  obtain ⟨hlt, hlayer⟩ := List.getElem?_eq_some_iff.mp h
  rw [replace, ← hlayer, List.set_getElem_self]

/-- A call that is refused changes nothing, unless it is the one that switches a sound. -/
theorem Step.of_refused {c : Call} {answer : Except Fault Answer} {fault : Fault}
    (hstep : Step s c answer s') (hanswer : answer = .error fault) :
    s' = s ∨ s.Switched c fault s' := by
  cases hstep with
  | created => cases hanswer
  | copied => cases hanswer
  | unknown => exact .inl rfl
  | added => cases hanswer
  | refused => exact .inl rfl
  | missed => exact .inl rfl
  | @edited h number layer e denotes kept =>
    cases hresult : (layer.edit e).2 with
    | ok _ =>
      rw [hresult] at hanswer
      cases hanswer
    | error reason =>
      rw [hresult] at hanswer
      cases hanswer
      have hedit : layer.edit e = ((layer.edit e).1, .error fault) := Prod.ext rfl hresult
      obtain hsame | ⟨enabled, volume, rfl, hother, rfl, hswitched⟩ := Layer.edit_refused hedit
      · rw [hsame, replace_self kept]
        exact .inl rfl
      · rw [hswitched]
        exact .inr (.intro enabled denotes kept hother)

/-- And that one is always refused like this. -/
theorem Switched.refused {c : Call} {fault : Fault} (h : s.Switched c fault s') :
    s.call c = (s', .error fault) := by
  obtain ⟨enabled, denotes, kept, other⟩ := h
  rw [call, edit, denotes]
  dsimp only
  rw [kept]
  dsimp only
  rw [Layer.edit_audio_refused _ enabled other]
  rfl

/-! ## What no call changes -/

/-- All layers have their clamped settings in the unit interval. -/
def Clamped (s : Studio) : Prop := ∀ layer ∈ s.layers, layer.Clamped

theorem clamped_empty : Clamped empty := fun _ hlayer => nomatch hlayer

/-- Where the layers after a call come from. -/
inductive Origin (s : Studio) : Layer → Prop where
  | kept {layer : Layer} (old : layer ∈ s.layers) : Origin s layer
  | added (name : String) (clip : Foreground) (place : Nat) : Origin s (.ofClip name clip place)
  | edited {layer : Layer} (old : layer ∈ s.layers) (e : Layer.Edit) : Origin s (layer.edit e).1

theorem origin_add (id : SheetId) (clip : Checked Foreground) (name : Json) {layer : Layer}
    (h : layer ∈ (s.add id clip name).1.layers) : s.Origin layer := by
  cases hsheet : s.sheet? id with
  | none =>
    rw [add, hsheet] at h
    exact .kept h
  | some sheet =>
    by_cases hboth : ∃ text fg, layerName name sheet.layers.length = .valid text ∧ clip = .valid fg
    · obtain ⟨text, fg, hname, rfl⟩ := hboth
      rw [add_valid hsheet hname] at h
      obtain old | hnew := List.mem_append.mp h
      · exact .kept old
      · rw [List.mem_singleton.mp hnew]
        exact .added text fg _
    · obtain ⟨e, hadd⟩ := add_invalid hsheet fun text fg hname hclip =>
        hboth ⟨text, fg, hname, hclip⟩
      rw [hadd] at h
      exact .kept h

theorem origin_call (c : Call) {layer : Layer} (h : layer ∈ (s.call c).1.layers) :
    s.Origin layer := by
  have hstep := step_call s c
  generalize (s.call c).2 = answer, hcall : (s.call c).1 = s' at hstep h
  cases hstep with
  | created => exact .kept h
  | copied => exact .kept h
  | unknown => exact .kept h
  | added clip name _ _ => exact origin_add _ clip name (hcall ▸ h)
  | refused => exact .kept h
  | missed => exact .kept h
  | edited e _ kept =>
    obtain old | rfl := List.mem_or_eq_of_mem_set h
    · exact .kept old
    · exact .edited (List.mem_of_getElem? kept) e

theorem Clamped.call (hs : s.Clamped) (c : Call) : (s.call c).1.Clamped := by
  intro layer hlayer
  cases origin_call c hlayer with
  | kept old => exact hs _ old
  | added name clip place => exact Layer.clamped_ofClip name clip place
  | edited old e => exact (hs _ old).edit e

theorem Clamped.after (hs : s.Clamped) (calls : List Call) : (s.after calls).Clamped := by
  induction calls generalizing s with
  | nil => exact hs
  | cons c calls ih => exact ih (hs.call c)

/-- Whatever the compositions are, a refused call leaves them as they are, unless it is an
edit that switches the sound of a layer and has no number for its volume; and the settings
that are clamped never leave the unit interval. -/
theorem calls_refused_or_clamped (s : Studio) :
    (∀ c s' fault, s.call c = (s', .error fault) → s' = s ∨ s.Switched c fault s') ∧
    (∀ c s' fault, s.Switched c fault s' → s.call c = (s', .error fault)) ∧
    (s.Clamped → ∀ calls, (s.after calls).Clamped) ∧ ∀ calls, (run calls).Clamped :=
  ⟨fun c _ _ hcall => by
    have hstep := step_call s c
    rw [hcall] at hstep
    exact hstep.of_refused rfl, fun _ _ _ => Switched.refused, Clamped.after,
    clamped_empty.after⟩

/-- The sound of a layer is off after a call that was refused. -/
theorem volume_refused_too_late :
    let clip : Foreground := ⟨.webm, "a.webm", none, none, none, false, none⟩
    let s := run [.create none ⟨0⟩, .add ⟨0⟩ (.valid clip) .null]
    let h : Handle := ⟨⟨0⟩, 0⟩
    (s.call (.edit h (.audio (.bool false) "loud"))).2.toBool = false ∧
      (s.layer? h).map Layer.audioEnabled = some (.bool true) ∧
      ((s.call (.edit h (.audio (.bool false) "loud"))).1.layer? h).map Layer.audioEnabled =
        some (.bool false) := ⟨rfl, rfl, rfl⟩

end Compositor.Studio
