import Compositor.Proofs.Command.Preview
import Compositor.Proofs.World.Steadiness

/-!
# Building a command again

Whoever builds a command may have to ask the context for the decoder for alpha, and asks for
nothing else. The command depends on the world by the tool of the context and by its answer
alone. A command that was built has got its answer, so it is built again as it was, whatever
the context is asked in between.
-/
namespace Compositor

variable {id : ContextId} {may : Prop}

namespace Foreground

theorem inquires_decoderArgs (f : Foreground) (id : ContextId) :
    (f.decoderArgs id).Inquires id :=
  .bind (.ofExcept _) fun _ => .ite (.bind (.hasDecoder id _) fun _ =>
    .ite (.bind (.log _ _) fun _ => .pure _) (.pure _)) (.pure _)

theorem inquires_wiring (f : Foreground) (first : Int) (label : String) (id : ContextId)
    (trim : List String) : (f.wiring first label id trim).Inquires id :=
  .bind (f.inquires_decoderArgs id) fun _ => .pure _

theorem steady_alphaDecoderArgs (path : String) (hmay : may) :
    (alphaDecoderArgs path id).Steady id may :=
  .bind (.keepsVp9Alpha hmay) fun _ => .ite (.bind (.log _ _) fun _ => .pure _) (.pure _)

theorem steady_decoderArgs {f : Foreground} (hmay : f.MayDecodeAlpha → may) :
    (f.decoderArgs id).Steady id may := by
  rw [← f.wantsAlphaDecoder_iff] at hmay
  unfold decoderArgs
  cases hwants : f.wantsAlphaDecoder with
  | error e => exact .fail e
  | ok wants =>
    cases wants with
    | false => exact .pure []
    | true => exact steady_alphaDecoderArgs f.path (hmay hwants)

theorem steady_wiring {f : Foreground} (hmay : f.MayDecodeAlpha → may) (first : Int)
    (label : String) (trim : List String) : (f.wiring first label id trim).Steady id may :=
  .bind (steady_decoderArgs hmay) fun _ => .pure _

end Foreground

namespace Background

theorem inquires_decoderArgs (b : Background) (id : ContextId) :
    (b.decoderArgs id).Inquires id := by
  unfold decoderArgs
  split
  · exact .bind (.hasDecoder id _) fun _ => .ite (.bind (.log _ _) fun _ => .pure _) (.pure _)
  · exact .pure _

theorem inquires_inputArgs (b : Background) (width height fps : Json) (id : ContextId)
    (manifest : Option ManifestId) : (b.inputArgs width height fps id manifest).Inquires id := by
  unfold inputArgs
  split
  · exact .pure _
  · exact .pure _
  · exact .bind (.keeps (b.keeps_imageSource World.inquiries_hidesTransfers manifest))
      fun _ => .pure _
  · exact .bind (b.inquires_decoderArgs id) fun _ => .bind (.ofExcept _) fun _ => .pure _

theorem steady_decoderArgs {b : Background} (hvideo : b.kind = .video)
    (hmay : b.MayDecodeAlpha → may) : (b.decoderArgs id).Steady id may := by
  unfold decoderArgs
  by_cases hflag : (b.info.map StreamInfo.needsVp9Decoder).getD false = true
  · rw [if_pos hflag]
    exact .bind (.keepsVp9Alpha (hmay ⟨hvideo, hflag⟩)) fun _ =>
      .ite (.bind (.log _ _) fun _ => .pure _) (.pure _)
  · rw [if_neg hflag]
    exact .pure _

theorem steady_inputArgs {b : Background} (hmay : b.MayDecodeAlpha → may)
    (width height fps : Json) : (b.inputArgs width height fps id none).Steady id may := by
  unfold inputArgs
  cases hkind : b.kind with
  | color | empty => exact .pure _
  | image =>
    rw [b.imageSource_none]
    exact .bind (.pure _) fun _ => .pure _
  | video =>
    exact .bind (steady_decoderArgs hkind hmay) fun _ => .bind (.ofExcept _) fun _ => .pure _

end Background

namespace Composition

/-! ## What is asked -/

theorem inquires_wireLayers (id : ContextId)
    (sound : Layer → InputWiring → Except Fault (List AudioSource)) (layers : List Layer)
    (i : Nat) (next : Int) : (wireLayers id sound i next layers).Inquires id := by
  induction layers generalizing i next with
  | nil => exact .pure _
  | cons l layers ih =>
    exact .bind (.ofExcept _) fun _ => .bind (l.clip.inquires_wiring _ _ id _) fun _ =>
      .bind (.ofExcept _) fun _ => .bind (ih _ _) fun _ => .pure _

theorem inquires_backgroundArgs (c : Composition) (frame : Frame)
    (manifest : Option ManifestId) : (c.backgroundArgs frame manifest).Inquires c.context := by
  unfold backgroundArgs
  split
  · exact Background.inquires_inputArgs _ _ _ _ _ _
  · exact .pure _

theorem inquires_lengthArgs (c : Composition) : c.lengthArgs.Inquires id := by
  refine .bind (.ofExcept _) fun rule => ?_
  split
  · exact .ite (.bind (.ofExcept _) fun _ => .bind (.log _ _) fun _ => .pure _) (.pure _)
  · exact .pure _

theorem inquires_command (c : Composition) (outPath : Argument) (encoder : EncoderProfile)
    (format : Json) (manifest : Option ManifestId) :
    (c.command outPath encoder format manifest).Inquires c.context := by
  have hid : (Context.ofId c.context).Inquires c.context := by
    refine .keeps (.bind .look fun w => ?_)
    split
    · exact .pure _
    · exact .fail _
  have hopening : (c.opening manifest).Inquires c.context :=
    .bind (.ofExcept _) fun frame => .bind hid fun _ =>
      .bind (c.inquires_backgroundArgs frame manifest) fun _ =>
        .bind (inquires_wireLayers _ _ _ _ _) fun _ => .pure _
  exact .bind hopening fun _ => .bind (.ofExcept _) fun _ =>
    .bind c.inquires_lengthArgs fun _ => .bind (.ofExcept _) fun _ => .pure _

theorem inquires_graph (c : Composition) (encoder : EncoderProfile) :
    (c.graph encoder).Inquires c.context :=
  .bind (.ofExcept _) fun _ => .bind (inquires_wireLayers _ _ _ _ _) fun _ =>
    .bind (.ofExcept _) fun _ => .pure _

/-! ## What the command depends on -/

theorem steady_wireLayers (sound : Layer → InputWiring → Except Fault (List AudioSource))
    {layers : List Layer} (hmay : ∀ l ∈ layers, l.clip.MayDecodeAlpha → may) (i : Nat)
    (next : Int) : (wireLayers id sound i next layers).Steady id may := by
  induction layers generalizing i next with
  | nil => exact .pure _
  | cons l layers ih =>
    have hrest := ih fun l' hl' => hmay l' (List.mem_cons_of_mem _ hl')
    exact .bind (.ofExcept _) fun _ =>
      .bind (Foreground.steady_wiring (hmay l List.mem_cons_self) _ _ _) fun _ =>
        .bind (.ofExcept _) fun _ => .bind (hrest _ _) fun _ => .pure _

theorem steady_backgroundArgs {c : Composition}
    (hmay : ∀ b, c.background = some b → b.MayDecodeAlpha → may) (frame : Frame) :
    (c.backgroundArgs frame none).Steady c.context may := by
  unfold backgroundArgs
  cases hb : c.background with
  | none => exact .pure _
  | some b => exact Background.steady_inputArgs (hmay b hb) _ _ _

theorem steady_lengthArgs (c : Composition) : c.lengthArgs.Steady id may := by
  refine .bind (.ofExcept _) fun rule => ?_
  split
  · exact .ite (.bind (.ofExcept _) fun _ => .bind (.log _ _) fun _ => .pure _) (.pure _)
  · exact .pure _

theorem steady_command (c : Composition) (outPath : Argument) (encoder : EncoderProfile)
    (format : Json) :
    (c.command outPath encoder format none).Steady c.context c.MayDecodeAlpha := by
  have hopening : (c.opening none).Steady c.context c.MayDecodeAlpha := by
    refine .bind (.ofExcept _) fun frame => ?_
    refine Act.Steady.tool (f := fun tool => c.backgroundArgs frame none >>= fun background =>
      wireLayers c.context Layer.audioSource 0 1 c.layers >>= fun stage =>
        pure (⟨frame, [tool, "-y"] ++ background ++ Argument.ofTexts stage.args, stage⟩ : Opening))
      fun tool => ?_
    exact .bind (steady_backgroundArgs (fun b hb hneeds => .inl ⟨b, hb, hneeds⟩) frame) fun _ =>
      .bind (steady_wireLayers _ (fun l hl hneeds => .inr ⟨l, hl, hneeds⟩) 0 1) fun _ => .pure _
  exact .bind hopening fun _ => .bind (.ofExcept _) fun _ =>
    .bind c.steady_lengthArgs fun _ => .bind (.ofExcept _) fun _ => .pure _

/-- A command that was built without a manifest is built again as it was, whatever the
context has been asked since. -/
theorem command_repeated {c : Composition} {outPath : Argument} {encoder : EncoderProfile}
    {format : Json} {w w' : World} {line : List Argument} {asked : List Question}
    (h : (c.command outPath encoder format none w).1 = .ok line)
    (hasked : World.Inquired c.context (c.command outPath encoder format none w).2 asked w') :
    (c.command outPath encoder format none w').1 = .ok line := by
  have hsteady := c.steady_command outPath encoder format
  have hknown := (c.consults_command outPath encoder format w).2 ⟨line, h⟩
  rw [← h]
  exact hsteady.same w w' ((hsteady.stays w).trans (hasked.alike hknown))

end Composition

end Compositor
