import Compositor.Proofs.Picture.Drawing
import Compositor.Proofs.Picture.Wording

/-!
# The statements of the picture

Drawn from layers as they are meant, all statements of the picture are worded, so that they belong
to every idiom that the streams of the inputs belong to.
-/
namespace Compositor

open GraphBuilder

variable {P : FilterNode → Prop} {Q : Pad → Prop} (hPQ : Idiom P Q)

include hPQ

/-! ## Clips -/

namespace Foreground

variable {name : String} (hname : Worded name)

include hname

theorem extends_matte {mask : Pad} (hmask : Q mask) (soft : Bool) :
    (matte mask name soft).Extends P Q := by
  refine .bind (.through hPQ (by decide) (hname.append (by decide)) hmask) fun gray hgray => ?_
  exact .ite (.pure hgray) (.through hPQ (by decide) (hname.append (by decide)) hgray)

theorem extends_normalize {f : Foreground} {stream : String → Except Fault Pad}
    (hstream : ∀ key pad, stream key = .ok pad → Q pad) (alpha : Bool) :
    (f.normalize stream name alpha).Extends P Q := by
  have hmerged : Worded (name ++ "_merged") := hname.append (by decide)
  unfold normalize
  cases f.format with
  | webm | prores =>
    refine .bind_lift fun source hsource => .ite (.pure (hstream _ _ hsource)) ?_
    exact .through hPQ (by decide) hmerged (hstream _ _ hsource)
  | bundle =>
    refine .bind_lift fun picture hpicture => .ite ?_ ?_
    · exact .through hPQ (by decide) hmerged (hstream _ _ hpicture)
    · refine .bind (.through hPQ (by decide) (hname.append (by decide))
        (hstream _ _ hpicture)) fun rgba hrgba => ?_
      refine .bind_lift fun source hsource => ?_
      refine .bind (extends_matte hPQ hname (hstream _ _ hsource) _) fun mask hmask => ?_
      exact .both hPQ (by decide) hmerged hrgba hmask
  | stacked =>
    refine .bind_lift fun source hsource => ?_
    have hsource := hstream _ _ hsource
    refine .bind (.through hPQ (by decide) (hname.append (by decide)) hsource)
      fun top htop => .ite ?_ ?_
    · exact .through hPQ (by decide) hmerged htop
    · refine .bind (.through hPQ (by decide) (hname.append (by decide)) htop)
        fun rgba hrgba => ?_
      refine .bind (.through hPQ (by decide) (hname.append (by decide)) hsource)
        fun bottom hbottom => ?_
      refine .bind (extends_matte hPQ hname hbottom false) fun mask hmask => ?_
      exact .both hPQ (by decide) hmerged hrgba hmask

end Foreground

/-! ## Layers -/

namespace Layer

theorem extends_stage {expr : Option String} (hexpr : ∀ e, expr = some e → Worded e) {pad : Pad}
    (hpad : Q pad) {label : String} (hlabel : Worded label) :
    (stage expr pad label).Extends P Q := by
  cases expr with
  | none => exact .pure hpad
  | some e => exact .through hPQ (hexpr e rfl) hlabel hpad

variable {l : Layer} {canvas : Canvas}

theorem extends_transform (hl : l.Declared) (hw : canvas.width.IsNumber)
    (hh : canvas.height.IsNumber) {name : String} (hname : Worded name) {pad : Pad}
    (hpad : Q pad) : (l.transform name pad canvas).Extends P Q := by
  refine .bind_lift fun shift hshift => ?_
  refine .bind (extends_stage hPQ (fun e he => worded_shiftExpr hl (he ▸ hshift)) hpad
    (hname.append (by decide))) fun timed htimed => ?_
  refine .bind (extends_stage hPQ (fun e he => worded_cropExpr hl he) htimed
    (hname.append (by decide))) fun cropped hcropped => ?_
  refine .bind_lift fun scale hscale => ?_
  refine .bind (extends_stage hPQ (fun e he => worded_scaleExpr hw hh (he ▸ hscale)) hcropped
    (hname.append (by decide))) fun scaled hscaled => ?_
  refine .bind (extends_stage hPQ (fun e he => worded_rotateExpr hl he) hscaled
    (hname.append (by decide))) fun rotated hrotated => ?_
  exact extends_stage hPQ (fun e he => worded_opacityExpr he) hrotated (hname.append (by decide))

end Layer

/-! ## The whole picture -/

namespace Composition

variable {inputs : InputTable} (hinputs : ∀ key pad, inputs.stream key .video = .ok pad → Q pad)
  {canvas : Canvas} (hw : canvas.width.IsNumber) (hh : canvas.height.IsNumber)

include hinputs hw hh

theorem extends_drawLayer {l : Layer} (hl : l.Declared) (number : Nat) {below : Pad}
    (hbelow : Q below) {label : String} (hlabel : Worded label) :
    (drawLayer inputs canvas number l below label).Extends P Q := by
  have hlayer : Worded "layer_" := by decide
  have hname : Worded (Foreground.layerLabel (.int number)) :=
    hlayer.append (unmarked_int number)
  refine .bind (Foreground.extends_normalize hPQ hname hinputs _) fun clip hclip => ?_
  refine .bind (Layer.extends_transform hPQ hl hw hh hname hclip) fun shape hshape => ?_
  refine .bind_lift fun params hparams => ?_
  exact .both hPQ (Layer.worded_overlayParams hl hparams) hlabel hbelow hshape

theorem extends_drawLayers {final : String} (hfinal : Worded final) (position : Nat)
    {layers : List (Nat × Layer)} (hl : ∀ e ∈ layers, e.2.Declared) {below : Pad}
    (hbelow : Q below) :
    (drawLayers inputs canvas final position layers below).Extends P Q := by
  have hstep : Worded "tmp" := by decide
  induction layers generalizing position below with
  | nil => exact .pure hbelow
  | cons e rest ih =>
    obtain ⟨number, l⟩ := e
    obtain ⟨hfirst, hrest⟩ := List.forall_mem_cons.mp hl
    cases rest with
    | nil => exact extends_drawLayer hPQ hinputs hw hh hfirst number hbelow hfinal
    | cons e' rest =>
      refine .bind (extends_drawLayer hPQ hinputs hw hh hfirst number hbelow
        (hstep.append (unmarked_nat position))) fun picture hpicture => ?_
      exact ih (position + 1) hrest hpicture

omit hinputs hw hh in
theorem extends_stackAlpha {picture : Pad} (hpicture : Q picture) (layout : StackLayout) :
    (stackAlpha picture layout).Extends P Q := by
  refine .bind (.fork hPQ (by decide) (by decide) (by decide) hpicture) ?_
  rintro ⟨colorSource, alphaSource⟩ ⟨hcolor, halpha⟩
  refine .bind (.through hPQ (by decide) (by decide) hcolor) fun color hcolor => ?_
  refine .bind (.through hPQ (by decide) (by decide) halpha) fun mask hmask => ?_
  refine .both hPQ ?_ (by decide) hcolor hmask
  cases layout <;> decide

/-- The picture of layers as they are meant belongs to the idioms of the streams it shows. -/
theorem extends_picture {c : Composition} (hl : ∀ l ∈ c.layers, l.Declared)
    (encoder : EncoderProfile) : (c.picture inputs canvas encoder).Extends P Q := by
  refine .bind_lift fun background hbackground => .bind_lift fun layers hlayers => ?_
  have hdeclared : ∀ e ∈ layers, e.2.Declared := fun e he =>
    hl e.2 (List.mem_of_getElem? ((ordered_numbers hlayers).2 e he))
  have hfinal : Worded (if encoder.stacksAlpha then "composed" else "out") := by
    split <;> decide
  refine .bind (extends_drawLayers hPQ hinputs hw hh hfinal 0 hdeclared
    (hinputs _ _ hbackground)) fun drawn hdrawn => ?_
  -- the declaration of the output adds no statement
  have hdeclare : ∀ pad, Q pad → (do
      if !(← get).isEmpty then markOutput pad
      return pad : GraphBuilder Pad).Extends P Q := fun pad hpad =>
    .bind .get fun _ _ => .ite (.bind (.markOutput pad) fun _ _ => .pure hpad) (.pure hpad)
  exact .ite (.bind (extends_stackAlpha hPQ hdrawn _) hdeclare) (.bind (.pure hdrawn) hdeclare)

end Composition

end Compositor
