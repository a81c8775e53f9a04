import Compositor.Composition.Export
import Compositor.Proofs.Command.Preview
import Compositor.Proofs.World.Staging

/-!
# Compiling for an export

The command of an export is built with a manifest, so that a remote image is copied into a
fresh file first. Building stores nothing else, and the command that comes out of it reads
the copy instead of the image.
-/
namespace Compositor

/-! ## The input of the background -/

/-- The background is an image at an address. -/
def Background.ShowsRemote (b : Background) (source : String) : Prop :=
  b.kind = .image ∧ b.source = some source ∧ Locator.sourceType source = .ok .url

/-- The background of the composition is an image at an address. -/
def Composition.ShowsRemote (c : Composition) (source : String) : Prop :=
  ∃ b, c.background = some b ∧ b.ShowsRemote source

variable {id : ManifestId}

namespace Background

/-- The arguments of the input that shows a copy of an image. -/
def copyArgs (path : String) : List Argument := ["-loop", "1", "-i", .str path]

/-- The input of a remote image is its copy. -/
def ReadsCopy (b : Background) (id : ManifestId) (args : List Argument) (w w' : World) : Prop :=
  ∀ source, b.ShowsRemote source →
    ∃ path, World.Copied id source path w w' ∧ args = copyArgs path

/-- Only images are staged. -/
theorem inputArgs_unstaged {b : Background} (h : b.kind ≠ .image) (width height fps : Json)
    (context : ContextId) (manifest : Option ManifestId) :
    b.inputArgs width height fps context manifest = b.inputArgs width height fps context none := by
  unfold inputArgs
  cases hkind : b.kind with
  | image => exact absurd hkind h
  | _ => rfl

/-- A remote image is copied. -/
theorem stages_stagedImage (source : String) :
    (stagedImage source id).Stages id fun path w w' =>
      Locator.sourceType source = .ok .url → World.Copied id source path w w' := by
  refine .ofExcept_bind fun type htype => ?_
  by_cases hurl : type = .url
  · rw [if_pos (by rw [hurl]; rfl)]
    exact (Download.stages_toFile id source).weaken fun _ _ _ hcopied _ => hcopied
  · rw [if_neg (by simpa using hurl)]
    exact .of_aside .refl fun _ _ _ h => absurd (Except.ok.inj (htype.symm.trans h)) hurl

theorem stages_imageSource (b : Background) :
    (b.imageSource (some id)).Stages id fun answer w w' => ∀ source, b.ShowsRemote source →
      ∃ path, World.Copied id source path w w' ∧ answer = some path := by
  unfold imageSource
  cases hsource : b.source with
  | none =>
    refine .of_aside .refl ?_
    rintro answer w - source ⟨-, hs, -⟩
    rw [hsource] at hs
    cases hs
  | some source =>
    refine .bind (stages_stagedImage source) fun path w w' hpending hcopied => ⟨hpending, ?_⟩
    rintro answer hanswer source' ⟨-, hs, hurl⟩
    obtain rfl : source = source' := Option.some.inj (hsource.symm.trans hs)
    exact ⟨path, hcopied hurl, (Except.ok.inj hanswer).symm⟩

theorem stages_inputArgs (b : Background) (width height fps : Json) (context : ContextId) :
    (b.inputArgs width height fps context (some id)).Stages id (b.ReadsCopy id) := by
  by_cases hkind : b.kind = .image
  · unfold inputArgs
    rw [hkind]
    refine .before context b.stages_imageSource (fun _ => .pure _) ?_
    intro answer args w w' w'' hanswer haside hargs source hremote
    obtain ⟨path, hcopied, rfl⟩ := hanswer source hremote
    exact ⟨path, hcopied.aside haside, (Except.ok.inj hargs).symm⟩
  · rw [inputArgs_unstaged hkind]
    exact .of_consults (b.consults_inputArgs (fun _ => trivial) width height fps)
      fun _ _ _ _ hremote => absurd hremote.1 hkind

end Background

/-! ## The whole command -/

/-- A command that can be run has only texts in it. -/
theorem Argument.command_ok {args : List Argument} {texts : List String}
    (h : command args = .ok texts) : args = ofTexts texts := by
  induction args generalizing texts with
  | nil => cases h; rfl
  | cons arg rest ih =>
    cases arg with
    | str s =>
      rw [command] at h
      cases hrest : command rest with
      | error e =>
        rw [hrest] at h
        cases h
      | ok others =>
        rw [hrest] at h
        cases h
        rw [ih hrest]
        rfl
    | _ => cases h

namespace Composition

/-- A command that shows a remote image reads its copy. -/
def ReadsCopy (c : Composition) (id : ManifestId) (args : List Argument) (w w' : World) : Prop :=
  ∀ source, c.ShowsRemote source → ∃ tool path rest, World.Copied id source path w w' ∧
    args = tool :: .str "-y" :: (Background.copyArgs path ++ rest)

theorem stages_backgroundArgs (c : Composition) (frame : Frame) :
    (c.backgroundArgs frame (some id)).Stages id fun args w w' =>
      ∀ b, c.background = some b → b.ReadsCopy id args w w' := by
  unfold backgroundArgs
  cases c.background with
  | none =>
    refine .of_aside .refl fun _ _ _ b hb => ?_
    cases hb
  | some b =>
    refine (b.stages_inputArgs frame.width frame.height frame.fps c.context).weaken ?_
    intro args w w' hread b' hb
    exact Option.some.inj hb ▸ hread

theorem stages_opening (c : Composition) :
    (c.opening (some id)).Stages id fun o => c.ReadsCopy id o.args := by
  refine .ofExcept_bind fun frame _ => .ofId_bind fun tools => ?_
  refine .before c.context (c.stages_backgroundArgs frame) (fun _ =>
    .bind_left (consults_wireLayers _ (fun _ _ _ => trivial) 0 1) fun _ => .pure _) ?_
  intro background o w w' w'' hread haside ho
  rintro source ⟨b, hb, hremote⟩
  obtain ⟨path, hcopied, rfl⟩ := hread b hb source hremote
  obtain ⟨stage, w₁, -, ho⟩ := Act.bind_ok ho
  obtain rfl := Except.ok.inj ho
  exact ⟨tools.ffmpeg, path, _, hcopied.aside haside, rfl⟩

theorem stages_command (c : Composition) (outPath : Argument) (encoder : EncoderProfile)
    (format : Json) :
    (c.command outPath encoder format (some id)).Stages id (c.ReadsCopy id) := by
  refine .before c.context c.stages_opening (fun o =>
    .bind_left (.ofExcept _) fun _ => .bind_left c.consults_lengthArgs fun _ =>
      .bind_left (.ofExcept _) fun _ => .pure _) ?_
  intro o args w w' w'' hread haside hargs source hremote
  obtain ⟨tool, path, rest, hcopied, ho⟩ := hread source hremote
  have hmore : ∃ more, args = o.args ++ more := by
    obtain ⟨outputs, w₁, -, hargs⟩ := Act.bind_ok hargs
    obtain ⟨length, w₂, -, hargs⟩ := Act.bind_ok hargs
    obtain ⟨container, w₃, -, hargs⟩ := Act.bind_ok hargs
    exact ⟨_, (Except.ok.inj hargs).symm.trans (List.append_assoc ..)⟩
  obtain ⟨more, rfl⟩ := hmore
  refine ⟨tool, path, rest ++ more, hcopied.aside haside, ?_⟩
  rw [ho, List.cons_append, List.cons_append, List.append_assoc]

end Composition

end Compositor
