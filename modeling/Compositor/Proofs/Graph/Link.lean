import Compositor.Foreground
import Mathlib.Logic.Function.Basic

/-!
# The links of a composition

Every link that the picture and the sound of a composition may produce, before it is
spelled out. The numbers of layers, of drawing steps and of sources have no bound.
Spelling is injective, so that two links share a label only if they are the same.
-/
namespace Compositor

/-- What a link of one layer carries. -/
inductive Role where
  | maskGray
  | binaryMask
  | merged
  | rgba
  | top
  | topRgba
  | bottom
  | timed
  | crop
  | scale
  | rotate
  | opacity
  deriving DecidableEq, Repr

namespace Role

def suffix : Role → String
  | .maskGray => "_mask_gray"
  | .binaryMask => "_binary_mask"
  | .merged => "_merged"
  | .rgba => "_rgba"
  | .top => "_top"
  | .topRgba => "_top_rgba"
  | .bottom => "_bottom"
  | .timed => "_timed"
  | .crop => "_crop"
  | .scale => "_scale"
  | .rotate => "_rotate"
  | .opacity => "_opacity"

/-- The roles inside a clip, before its picture is brought into shape. -/
def clip : List Role := [.maskGray, .binaryMask, .merged, .rgba, .top, .topRgba, .bottom]

theorem suffix_injective : Function.Injective suffix := by
  intro a b h
  cases a <;> cases b <;> first | rfl | (exact absurd h (by decide))

/-- Every suffix is set off from the number before it. -/
theorem suffix_setOff (r : Role) : r.suffix.toList.takeWhile (· != '_') = [] := by cases r <;> rfl

end Role

inductive Link where
  | layer (number : Nat) (role : Role)
  /-- The picture after a layer that is not the last one. -/
  | step (position : Nat)
  | composed
  | out
  | colorSource
  | alphaSource
  | color
  | mask
  /-- A single source of sound, delayed. -/
  | delayed
  | delayedPart (index : Nat)
  | volumePart (index : Nat)
  | sound
  deriving DecidableEq, Repr

namespace Link

def label : Link → String
  | .layer number role => Foreground.layerLabel (.int number) ++ role.suffix
  | .step position => "tmp" ++ toString position
  | .composed => "composed"
  | .out => "out"
  | .colorSource => "stack_color_src"
  | .alphaSource => "stack_alpha_src"
  | .color => "stack_color"
  | .mask => "stack_mask"
  | .delayed => "audio_delayed"
  | .delayedPart index => "audio_delayed_" ++ toString index
  | .volumePart index => "audio_vol_" ++ toString index
  | .sound => "audio_out"

end Link

/-- Numbers are told apart by their decimal digits. -/
theorem digits_injective : Function.Injective (Nat.toDigits 10) := by
  intro m n h
  have hm : Nat.ofDigitChars 10 (Nat.toDigits 10 m) 0 = m := Nat.ofDigitChars_ten_toDigits
  rw [h, Nat.ofDigitChars_ten_toDigits] at hm
  exact hm.symm

/-- Digits end at the first underscore, or where the text ends. -/
theorem digits_append_inj {m n : Nat} {s t : List Char} (hs : s.takeWhile (· != '_') = [])
    (ht : t.takeWhile (· != '_') = []) (h : Nat.toDigits 10 m ++ s = Nat.toDigits 10 n ++ t) :
    m = n ∧ s = t := by
  have cut : ∀ (k : Nat) (r : List Char), r.takeWhile (· != '_') = [] →
      (Nat.toDigits 10 k ++ r).takeWhile (· != '_') = Nat.toDigits 10 k := by
    intro k r hr
    have hk : ∀ c ∈ Nat.toDigits 10 k, (c != '_') = true := by
      intro c hc
      rw [bne_iff_ne]
      rintro rfl
      exact Nat.underscore_not_in_toDigits hc
    rw [List.takeWhile_append_of_pos hk, hr, List.append_nil]
  have hd : Nat.toDigits 10 m = Nat.toDigits 10 n := by
    rw [← cut m s hs, h, cut n t ht]
  refine ⟨digits_injective hd, ?_⟩
  rw [hd] at h
  exact List.append_cancel_left h

theorem layerLabel_toList (number : Nat) :
    (Foreground.layerLabel (.int number)).toList = "layer_".toList ++ Nat.toDigits 10 number := by
  change ("layer_" ++ Nat.repr number).toList = _
  rw [String.toList_append, Nat.toList_repr]

/-- The name of a layer with something set off behind it tells both. -/
theorem layerLabel_append_inj {m n : Nat} {s t : String}
    (hs : s.toList.takeWhile (· != '_') = []) (ht : t.toList.takeWhile (· != '_') = [])
    (h : Foreground.layerLabel (.int m) ++ s = Foreground.layerLabel (.int n) ++ t) :
    m = n ∧ s = t := by
  have hl := congrArg String.toList h
  simp only [String.toList_append, layerLabel_toList, List.append_assoc] at hl
  obtain ⟨hm, hst⟩ := digits_append_inj hs ht (List.append_cancel_left hl)
  exact ⟨hm, String.toList_injective hst⟩

theorem append_number_inj {start : String} {m n : Nat}
    (h : start ++ toString m = start ++ toString n) : m = n := by
  have hl := congrArg String.toList h
  rw [String.toList_append, String.toList_append] at hl
  have hd : (Nat.repr m).toList = (Nat.repr n).toList := List.append_cancel_left hl
  rw [Nat.toList_repr, Nat.toList_repr] at hd
  exact digits_injective hd

namespace Link

theorem label_injective : Function.Injective label := by
  intro a b h
  have hl := congrArg String.toList h
  cases a with
  | layer m r =>
    cases b with
    | layer n s =>
      obtain ⟨rfl, hs⟩ := layerLabel_append_inj r.suffix_setOff s.suffix_setOff h
      rw [Role.suffix_injective hs]
    | _ => simp [label, layerLabel_toList] at hl
  | step m =>
    cases b with
    | step n => rw [append_number_inj h]
    | _ => simp [label, layerLabel_toList] at hl
  | delayedPart m =>
    cases b with
    | delayedPart n => rw [append_number_inj h]
    | _ => simp [label, layerLabel_toList] at hl
  | volumePart m =>
    cases b with
    | volumePart n => rw [append_number_inj h]
    | _ => simp [label, layerLabel_toList] at hl
  | _ =>
    cases b with
    | layer n s => simp [label, layerLabel_toList] at hl
    | _ => first | rfl | simp [label] at hl

end Link

end Compositor
