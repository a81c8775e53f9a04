import Compositor.Proofs.Command.Scoping
import Compositor.Proofs.World.Consulting
import Compositor.Proofs.World.Keeping

/-!
# Looking at a command

A preview builds the command of a composition without a manifest and runs nothing of it.
It fetches nothing and stores nothing, but it is not silent: if a video or a clip may have
to be read with the decoder for alpha and it is not known yet whether the tool of the
context has it, the tool is started once to list its decoders.
-/
namespace Compositor

/-- Videos that may be read with the decoder for alpha. -/
def Background.MayDecodeAlpha (b : Background) : Prop :=
  b.kind = .video ∧ (b.info.map StreamInfo.needsVp9Decoder).getD false = true

/-- Compositions with an input that may be read with the decoder for alpha. -/
def Composition.MayDecodeAlpha (c : Composition) : Prop :=
  (∃ b, c.background = some b ∧ b.MayDecodeAlpha) ∨ ∃ l ∈ c.layers, l.clip.MayDecodeAlpha

variable {id : ContextId} {may : Prop}

namespace Foreground

theorem consults_alphaDecoderArgs (path : String) (hmay : may) :
    (alphaDecoderArgs path id).Consults id may True := by
  refine .bind_left (.keepsVp9Alpha hmay) fun keeps => .ite ?_ (.pure _)
  exact .bind_left (.log _ _) fun _ => .pure _

theorem consults_decoderArgs {f : Foreground} (hmay : f.MayDecodeAlpha → may) :
    (f.decoderArgs id).Consults id may f.MayDecodeAlpha := by
  rw [← f.wantsAlphaDecoder_iff] at hmay ⊢
  unfold decoderArgs
  cases hwants : f.wantsAlphaDecoder with
  | error e => exact .fail e
  | ok wants =>
    cases wants with
    | false => exact .needing (.pure []) nofun
    | true => exact (consults_alphaDecoderArgs f.path (hmay hwants)).needing fun _ => trivial

theorem consults_wiring {f : Foreground} (hmay : f.MayDecodeAlpha → may) (first : Int)
    (label : String) (trim : List String) :
    (f.wiring first label id trim).Consults id may f.MayDecodeAlpha :=
  .bind_left (consults_decoderArgs hmay) fun _ => .pure _

end Foreground

namespace Background

theorem consults_decoderArgs {b : Background} (hvideo : b.kind = .video)
    (hmay : b.MayDecodeAlpha → may) : (b.decoderArgs id).Consults id may b.MayDecodeAlpha := by
  unfold decoderArgs
  by_cases hflag : (b.info.map StreamInfo.needsVp9Decoder).getD false = true
  · rw [if_pos hflag]
    refine Act.Consults.bind_left
      (.needing (.keepsVp9Alpha (hmay ⟨hvideo, hflag⟩)) fun _ => trivial)
      fun keeps => .ite ?_ (.pure _)
    exact .bind_left (.log _ _) fun _ => .pure _
  · rw [if_neg hflag]
    exact .needing (.pure []) fun h => hflag h.2

/-- Without a manifest an image is named as it is. -/
theorem imageSource_none (b : Background) : b.imageSource none = pure b.source := by
  unfold imageSource
  split <;> simp_all

/-- With one, an image may be fetched. -/
theorem keeps_imageSource (b : Background) {γ : Type} {view : World → γ}
    (h : World.HidesTransfers view) (manifest : Option ManifestId) :
    (b.imageSource manifest).Keeps view := by
  unfold imageSource
  split
  · refine .bind (.bind (.ofExcept _) fun _ => .ite ?_ (.pure _)) fun _ => .pure _
    exact .download h _ (fun _ => .manifestPath h _ _ _) _ _
  · exact .pure _

/-- Without a manifest nothing is fetched. -/
theorem consults_inputArgs {b : Background} (hmay : b.MayDecodeAlpha → may)
    (width height fps : Json) :
    (b.inputArgs width height fps id none).Consults id may b.MayDecodeAlpha := by
  unfold inputArgs
  cases hkind : b.kind with
  | color | empty => exact .needing (.pure _) fun h => by simp [MayDecodeAlpha, hkind] at h
  | image =>
    rw [b.imageSource_none]
    exact .needing (.bind_left (.pure _) fun _ => .pure _)
      fun h => by simp [MayDecodeAlpha, hkind] at h
  | video =>
    exact .bind_left (consults_decoderArgs hkind hmay) fun _ =>
      .bind_left (.ofExcept _) fun _ => .pure _

end Background

namespace Composition

theorem consults_backgroundArgs {c : Composition}
    (hmay : ∀ b, c.background = some b → b.MayDecodeAlpha → may) (frame : Frame)
    (hid : c.context = id) :
    (c.backgroundArgs frame none).Consults id may
      (∃ b, c.background = some b ∧ b.MayDecodeAlpha) := by
  unfold backgroundArgs
  cases hb : c.background with
  | none => exact .needing (.pure _) (by simp)
  | some b =>
    rw [hid]
    exact .needing (Background.consults_inputArgs (hmay b hb) _ _ _) (by simp)

theorem consults_wireLayers (sound : Layer → InputWiring → Except Fault (List AudioSource))
    {layers : List Layer} (hmay : ∀ l ∈ layers, l.clip.MayDecodeAlpha → may) (i : Nat)
    (next : Int) :
    (wireLayers id sound i next layers).Consults id may
      (∃ l ∈ layers, l.clip.MayDecodeAlpha) := by
  induction layers generalizing i next with
  | nil => exact .needing (.pure _) (by simp)
  | cons l layers ih =>
    have hl (first : Int) (label : String) (trim : List String) :
        (l.clip.wiring first label id trim).Consults id may l.clip.MayDecodeAlpha :=
      Foreground.consults_wiring (hmay l List.mem_cons_self) first label trim
    have hrest := ih fun l' hl' => hmay l' (List.mem_cons_of_mem _ hl')
    refine .needing (.bind_right (.ofExcept _) fun trim => .bind (hl next _ trim) fun _ =>
      .bind_right (.ofExcept _) fun _ => .bind_left (hrest _ _) fun _ => .pure _) ?_
    rintro ⟨l', hmem, hneeds⟩
    rcases List.mem_cons.mp hmem with rfl | hmem
    · exact .inl hneeds
    · exact .inr ⟨l', hmem, hneeds⟩

theorem consults_lengthArgs (c : Composition) : c.lengthArgs.Consults id may False := by
  refine .bind_left (.ofExcept _) fun rule => ?_
  split
  · exact .ite (.bind_left (.ofExcept _) fun _ => .bind_left (.log _ _) fun _ => .pure _) (.pure _)
  · exact .pure _

theorem consults_command (c : Composition) (outPath : Argument) (encoder : EncoderProfile)
    (format : Json) :
    (c.command outPath encoder format none).Consults c.context c.MayDecodeAlpha
      c.MayDecodeAlpha := by
  have hopening : (c.opening none).Consults c.context c.MayDecodeAlpha c.MayDecodeAlpha :=
    .bind_right (.ofExcept _) fun frame => .bind_right (.ofId _) fun _ =>
      .bind (consults_backgroundArgs (fun b hb hneeds => .inl ⟨b, hb, hneeds⟩) frame rfl) fun _ =>
        .bind_left (consults_wireLayers _ (fun l hl hneeds => .inr ⟨l, hl, hneeds⟩) 0 1)
          fun _ => .pure _
  exact .bind_left hopening fun _ => .bind_left (.ofExcept _) fun _ =>
    .bind_left c.consults_lengthArgs fun _ => .bind_left (.ofExcept _) fun _ => .pure _

/-- A preview leaves all files as they are. It sends no request and starts no process but,
at most once, the tool that is asked for its decoders; and a preview that succeeds starts
the tool exactly if the answer may be needed and was not known before. -/
theorem preview_asks_only (c : Composition) (w : World) :
    (c.preview w).2.files = w.files ∧
    ∃ news, (c.preview w).2.events = w.events ++ news ∧
      (Event.deeds news = [] ∨
        c.MayDecodeAlpha ∧ w.knowsAlpha c.context = false ∧
          ∃ tool, w.tool? c.context = some tool ∧
            Event.deeds news = [Context.listing tool]) ∧
      ((∃ line, (c.preview w).1 = .ok line) →
        (Event.deeds news = [] ↔ (c.MayDecodeAlpha → w.knowsAlpha c.context = true))) := by
  have hpreview : c.preview.Consults c.context c.MayDecodeAlpha c.MayDecodeAlpha :=
    .bind_left (c.consults_command _ _ _) fun _ => .pure _
  obtain ⟨hconsulted, hneeds⟩ := hpreview w
  obtain ⟨news, hevents, hnews⟩ := hconsulted.events
  refine ⟨hconsulted.files, news, hevents, ?_, fun hok => ?_⟩
  · exact hnews.imp And.right fun ⟨hmay, hunknown, _, hasked⟩ => ⟨hmay, hunknown, hasked⟩
  · have hknown := hneeds hok
    rcases hnews with ⟨hsame, hnone⟩ | ⟨hmay, hunknown, -, tool, -, hasked⟩
    · exact ⟨fun _ hmay => hsame ▸ hknown hmay, fun _ => hnone⟩
    · rw [hasked, hunknown]
      simp [hmay]

/-- A world with one context, whose tool was not asked for its decoders. -/
def unasked : World :=
  { ready with contexts := [⟨"ffmpeg", "ffprobe", "/tmp/one", []⟩] }

/-- A preview of a clip in WebM starts the tool when its decoders are not known. -/
theorem preview_not_silent : ¬ ∀ (c : Composition) (w : World),
    Event.deeds (c.preview w).2.events = Event.deeds w.events := by
  intro hall
  have hrun : (Event.deeds (attached.preview unasked).2.events).length = 1 := by decide +kernel
  rw [hall] at hrun
  cases hrun

end Composition

end Compositor
