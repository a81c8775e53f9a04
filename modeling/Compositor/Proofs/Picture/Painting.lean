import Compositor.Proofs.Graph.Emission
import Compositor.Proofs.Picture.Drawing

/-!
# Layers as cutouts

A layer is cut out by statements of its own, which depend neither on what lies below it nor on
its height. One more statement lays the cutout over what is below. So the statements of a picture
are those of its cutouts, and in between the overlays, in the order in which layers are drawn.
-/
namespace Compositor

open GraphBuilder

/-- A statement of the picture that is no overlay. -/
def FilterNode.Shapes (n : FilterNode) : Prop := n.kind = .video ∧ n.overlays = false

/-- All runs of the builder give the same picture, by the same statements but no overlays. -/
abbrev GraphBuilder.Shaping (m : GraphBuilder Pad) : Prop :=
  m.Uniform FilterNode.Shapes fun p => p.kind = .video

/-- A statement on a picture that is no overlay. -/
theorem GraphBuilder.Uniform.shapes {expr label : String} (hexpr : Aside expr) {first : Pad}
    (hfirst : first.kind = .video) (rest : List Pad) :
    (statement expr (first :: rest) label).Shaping :=
  .of_emits (.statement expr first rest label) hfirst
    (List.forall_mem_singleton.mpr ⟨hfirst, hexpr.overlays⟩)

theorem InputTable.stream_kind {inputs : InputTable} {key : String} {kind : StreamKind} {pad : Pad}
    (h : inputs.stream key kind = .ok pad) : pad.kind = kind := by
  unfold stream at h
  split at h
  · cases h
    rfl
  · cases h

/-! ## Clips -/

namespace Foreground

theorem shaping_matte {mask : Pad} (hmask : mask.kind = .video) (name : String) (soft : Bool) :
    (matte mask name soft).Shaping := by
  refine .bind (.shapes (by decide) hmask []) fun gray hgray => ?_
  exact .ite (.pure hgray) (.shapes (by decide) hgray [])

theorem shaping_normalize (f : Foreground) {stream : String → Except Fault Pad}
    (hstream : ∀ key pad, stream key = .ok pad → pad.kind = .video) (name : String)
    (alpha : Bool) : (f.normalize stream name alpha).Shaping := by
  unfold normalize
  cases f.format with
  | webm | prores =>
    refine .bind_lift fun source hsource => .ite (.pure (hstream _ _ hsource)) ?_
    exact .shapes (by decide) (hstream _ _ hsource) []
  | bundle =>
    refine .bind_lift fun picture hpicture => ?_
    have hpicture := hstream _ _ hpicture
    refine .ite (.shapes (by decide) hpicture []) ?_
    refine .bind (.shapes (by decide) hpicture []) fun rgba hrgba => .bind_lift fun source hs => ?_
    refine .bind (shaping_matte (hstream _ _ hs) name _) fun mask _ => ?_
    exact .shapes (by decide) hrgba [mask]
  | stacked =>
    refine .bind_lift fun source hsource => ?_
    have hsource := hstream _ _ hsource
    refine .bind (.shapes (by decide) hsource []) fun top htop => ?_
    refine .ite (.shapes (by decide) htop []) ?_
    refine .bind (.shapes (by decide) htop []) fun rgba hrgba => ?_
    refine .bind (.shapes (by decide) hsource []) fun bottom hbottom => ?_
    refine .bind (shaping_matte hbottom name false) fun mask _ => ?_
    exact .shapes (by decide) hrgba [mask]

end Foreground

/-! ## Layers -/

namespace Layer

variable {l : Layer} {expr : String}

theorem aside_shiftExpr (h : l.shiftExpr = .ok (some expr)) : Aside expr := by
  obtain ⟨delay, -, h⟩ := bind_eq_ok.mp h
  obtain ⟨seconds, -, rfl⟩ := Option.map_eq_some_iff.mp (Except.ok.inj h)
  rw [String.append_assoc]
  exact .append (by decide) (by decide) _

theorem aside_cropExpr (h : l.cropExpr = some expr) : Aside expr := by
  obtain ⟨r, -, rfl⟩ := Option.map_eq_some_iff.mp h
  simp only [String.append_assoc]
  exact .append (by decide) (by decide) _

theorem aside_scaleExpr {canvas : Canvas} (h : l.scaleExpr canvas = .ok (some expr)) :
    Aside expr := by
  obtain ⟨params, -, h⟩ := bind_eq_ok.mp h
  obtain ⟨p, -, rfl⟩ := Option.map_eq_some_iff.mp (Except.ok.inj h)
  exact .append (by decide) (by decide) _

theorem aside_rotateExpr (h : l.rotateExpr = some expr) : Aside expr := by
  unfold rotateExpr at h
  split at h
  · cases h
  · cases h
    rw [String.append_assoc]
    exact .append (by decide) (by decide) _

theorem aside_opacityExpr (h : l.opacityExpr = some expr) : Aside expr := by
  unfold opacityExpr at h
  split at h
  · cases h
  · cases h
    split
    · exact .append (by decide) (by decide) _
    · exact .append (by decide) (by decide) _

theorem shaping_stage {expr : Option String} (hexpr : ∀ e, expr = some e → Aside e) {pad : Pad}
    (hpad : pad.kind = .video) (label : String) : (stage expr pad label).Shaping := by
  cases expr with
  | none => exact .pure hpad
  | some e => exact .shapes (hexpr e rfl) hpad []

theorem shaping_transform (l : Layer) (canvas : Canvas) (name : String) {pad : Pad}
    (hpad : pad.kind = .video) : (l.transform name pad canvas).Shaping := by
  refine .bind_lift fun shift hshift => ?_
  refine .bind (shaping_stage (fun e he => aside_shiftExpr (he ▸ hshift)) hpad _)
    fun timed htimed => ?_
  refine .bind (shaping_stage (fun e he => aside_cropExpr he) htimed _)
    fun cropped hcropped => .bind_lift fun scale hscale => ?_
  refine .bind (shaping_stage (fun e he => aside_scaleExpr (he ▸ hscale)) hcropped _)
    fun scaled hscaled => ?_
  refine .bind (shaping_stage (fun e he => aside_rotateExpr he) hscaled _)
    fun rotated hrotated => ?_
  exact shaping_stage (fun e he => aside_opacityExpr he) hrotated _

/-- A layer without its height. -/
def level (l : Layer) : Layer := { l with z := .null }

end Layer

/-- What a layer brings to a picture: its own statements, the pad they end in, and how it lies
over what is below. -/
structure Cutout where
  statements : List FilterNode
  pad : Pad
  params : String

namespace Cutout

/-- The statement that lays a cutout over what is below. -/
def overlay (s : Cutout) (below : Pad) (label : String) : FilterNode :=
  ⟨"overlay=" ++ s.params, below.kind, [below, s.pad], [Pad.link label below.kind]⟩

theorem overlays_overlay (s : Cutout) (below : Pad) (label : String) :
    (s.overlay below label).overlays = true := by
  rw [FilterNode.overlays_iff]
  exact firstFilter_append (by decide) s.params

/-- The statements of a cutout that is laid over what is below. -/
def laid (s : Cutout) (below : Pad) (label : String) : List FilterNode :=
  s.statements ++ [s.overlay below label]

/-- A cutout whose statements belong to a picture. -/
def Proper (s : Cutout) : Prop := ∀ n ∈ s.statements, n.Shapes

theorem Proper.laid_others {s : Cutout} (hs : s.Proper) (below : Pad) (label : String) :
    (s.laid below label).filter (fun n => !n.overlays) = s.statements := by
  have hown : s.statements.filter (fun n => !n.overlays) = s.statements :=
    List.filter_eq_self.mpr fun n hn => by rw [(hs n hn).2, Bool.not_false]
  rw [laid, List.filter_append, hown, List.filter_singleton, s.overlays_overlay]
  exact List.append_nil _

theorem Proper.laid_video {s : Cutout} (hs : s.Proper) {below : Pad}
    (hbelow : below.kind = .video) (label : String) :
    ∀ n ∈ s.laid below label, n.kind = .video := by
  intro n hn
  rcases List.mem_append.mp hn with hn | hn
  · exact (hs n hn).1
  · rw [List.mem_singleton.mp hn]
    exact hbelow

/-- The statements of cutouts that are laid over one another; the pads in between are counted
from `position`. -/
def pile (final : String) : Nat → List Cutout → Pad → List FilterNode
  | _, [], _ => []
  | _, [s], below => s.laid below final
  | position, s :: rest, below =>
    let label := "tmp" ++ toString position
    s.laid below label ++ pile final (position + 1) rest (Pad.link label below.kind)

/-- The pad that a pile ends in. -/
def top (final : String) (cutouts : List Cutout) (below : Pad) : Pad :=
  if cutouts.isEmpty then below else Pad.link final below.kind

variable {cutouts : List Cutout}

theorem pile_eq_nil_iff (final : String) (position : Nat) (below : Pad) :
    pile final position cutouts below = [] ↔ cutouts = [] := by
  cases cutouts with
  | nil => exact iff_of_true rfl rfl
  | cons s rest => cases rest <;> simp [pile, laid]

/-- All statements of a pile but the overlays are those of its cutouts. -/
theorem pile_others (hs : ∀ s ∈ cutouts, s.Proper) (final : String) (position : Nat)
    (below : Pad) :
    (pile final position cutouts below).filter (fun n => !n.overlays) =
      cutouts.flatMap statements := by
  induction cutouts generalizing position below with
  | nil => rfl
  | cons s rest ih =>
    obtain ⟨hfirst, hrest⟩ := List.forall_mem_cons.mp hs
    cases rest with
    | nil => rw [pile, hfirst.laid_others, List.flatMap_singleton]
    | cons s' rest =>
      have hpile : pile final position (s :: s' :: rest) below =
          s.laid below ("tmp" ++ toString position) ++ pile final (position + 1) (s' :: rest)
            (Pad.link ("tmp" ++ toString position) below.kind) := rfl
      rw [hpile, List.filter_append, hfirst.laid_others, ih hrest]
      rfl

theorem pile_video (hs : ∀ s ∈ cutouts, s.Proper) (final : String) (position : Nat)
    {below : Pad} (hbelow : below.kind = .video) :
    ∀ n ∈ pile final position cutouts below, n.kind = .video := by
  induction cutouts generalizing position below with
  | nil => exact nofun
  | cons s rest ih =>
    obtain ⟨hfirst, hrest⟩ := List.forall_mem_cons.mp hs
    cases rest with
    | nil => exact hfirst.laid_video hbelow final
    | cons s' rest =>
      intro n hn
      rcases List.mem_append.mp hn with hn | hn
      · exact hfirst.laid_video hbelow _ n hn
      · have hlink : (Pad.link ("tmp" ++ toString position) below.kind).kind = .video := hbelow
        exact ih hrest (position + 1) hlink n hn

end Cutout

namespace Composition

open Cutout (pile top)

/-! ## Drawing -/

variable {inputs : InputTable} {canvas : Canvas}

/-- The cutout of a layer with its number, whatever it is laid over. -/
structure Cuts (inputs : InputTable) (canvas : Canvas) (e : Nat × Layer) (s : Cutout) : Prop where
  proper : s.Proper
  emits : ∀ below label, (drawLayer inputs canvas e.1 e.2 below label).Emits
    (Pad.link label below.kind) (s.laid below label)

/-- A layer that has been drawn once has a cutout. -/
theorem exists_cuts {number : Nat} {l : Layer} {below : Pad} {label : String} {g : FilterGraph}
    {r : Pad × FilterGraph} (h : drawLayer inputs canvas number l below label g = .ok r) :
    ∃ s, Cuts inputs canvas (number, l) s := by
  obtain ⟨clip, g₁, hclip, h⟩ := run_bind h
  obtain ⟨shape, g₂, hshape, h⟩ := run_bind h
  obtain ⟨params, hparams, -⟩ := run_lift h
  obtain ⟨hvideo, own, hown, hshapes⟩ := Foreground.shaping_normalize l.clip
    (fun _ _ => InputTable.stream_kind) _ _ g clip g₁ hclip
  obtain ⟨-, own', hown', hshapes'⟩ := l.shaping_transform canvas _ hvideo g₁ shape g₂ hshape
  refine ⟨⟨own ++ own', shape, params⟩, fun n hn => ?_, fun below label => ?_⟩
  · exact (List.mem_append.mp hn).elim (hshapes n) (hshapes' n)
  · rw [Cutout.laid, List.append_assoc]
    exact hown.bind (hown'.bind (.bind_lift hparams (.statement _ below [shape] label)))

/-- Layers that have been drawn have cutouts. -/
theorem forall_cuts {final : String} {position : Nat} {layers : List (Nat × Layer)} {below : Pad}
    {g : FilterGraph} {r : Pad × FilterGraph}
    (h : drawLayers inputs canvas final position layers below g = .ok r) :
    ∀ e ∈ layers, ∃ s, Cuts inputs canvas e s := by
  induction layers generalizing position below g with
  | nil => exact List.forall_mem_nil _
  | cons e rest ih =>
    obtain ⟨number, l⟩ := e
    cases rest with
    | nil => exact List.forall_mem_singleton.mpr (exists_cuts h)
    | cons e' rest =>
      obtain ⟨picture, g', hfirst, hrest⟩ := run_bind h
      exact List.forall_mem_cons.mpr ⟨exists_cuts hfirst, ih hrest⟩

/-- Layers with cutouts are drawn as the pile of these. -/
theorem drawLayers_emits {cut : Nat × Layer → Cutout} {layers : List (Nat × Layer)}
    (hcut : ∀ e ∈ layers, Cuts inputs canvas e (cut e)) (final : String) (position : Nat)
    (below : Pad) :
    (drawLayers inputs canvas final position layers below).Emits
      (top final (layers.map cut) below) (pile final position (layers.map cut) below) := by
  induction layers generalizing position below with
  | nil => exact .pure below
  | cons e rest ih =>
    obtain ⟨hfirst, hrest⟩ := List.forall_mem_cons.mp hcut
    cases rest with
    | nil => exact hfirst.emits below final
    | cons e' rest => exact (hfirst.emits below _).bind (ih hrest (position + 1) _)

theorem settled_stackAlpha (picture : Pad) (layout : StackLayout) :
    (stackAlpha picture layout).Settled := by
  refine .bind (.any (.fork _ picture _ _)) fun sources _ => ?_
  refine .bind (.any (.statement _ sources.1 [] _)) fun color _ => ?_
  refine .bind (.any (.statement _ sources.2 [] _)) fun mask _ => ?_
  exact .any (.statement _ color [mask] _)

/-! ## Heights -/

/-- A composition without the heights of its layers. -/
def level (c : Composition) : Composition := { c with layers := c.layers.map Layer.level }

/-- A layer with its number, without its height. -/
def flat (e : Nat × Layer) : Nat × Layer := (e.1, e.2.level)

theorem numbered_level (c : Composition) : c.level.numbered = c.numbered.map flat := by
  change ((c.layers.map Layer.level).zipIdx).map _ = _
  rw [List.zipIdx_map, List.map_map, numbered, List.map_map]
  rfl

/-- Drawing a layer does not look at its height. -/
theorem Cuts.of_flat {e : Nat × Layer} {s : Cutout} (h : Cuts inputs canvas (flat e) s) :
    Cuts inputs canvas e s := ⟨h.proper, h.emits⟩

theorem Cuts.flat {e : Nat × Layer} {s : Cutout} (h : Cuts inputs canvas e s) :
    Cuts inputs canvas (flat e) s := ⟨h.proper, h.emits⟩

theorem ordered_perm_level {c : Composition} {layers : List (Nat × Layer)}
    (h : c.ordered = .ok layers) : (layers.map flat).Perm c.level.numbered := by
  rw [numbered_level]
  exact (Order.sort_perm h).map flat

/-- How layers are painted in whatever order: as a pile of their cutouts over a background, with
the same statements behind it. -/
structure Painting where
  final : String
  background : Pad
  cut : Nat × Layer → Cutout
  behind : List FilterNode

namespace Painting

variable {p : Painting} {layers layers' : List (Nat × Layer)}

def cutouts (p : Painting) (layers : List (Nat × Layer)) : List Cutout :=
  (layers.map flat).map p.cut

def nodes (p : Painting) (layers : List (Nat × Layer)) : List FilterNode :=
  pile p.final 0 (p.cutouts layers) p.background ++ p.behind

/-- A painting of the layers of a composition. -/
structure Of (p : Painting) (c : Composition) : Prop where
  video : p.background.kind = .video
  proper : ∀ e ∈ c.level.numbered, (p.cut e).Proper

theorem Of.cutouts_proper {c : Composition} (hp : p.Of c)
    (hperm : (layers.map flat).Perm c.level.numbered) : ∀ s ∈ p.cutouts layers, s.Proper := by
  intro s hs
  obtain ⟨e, he, rfl⟩ := List.mem_map.mp hs
  exact hp.proper e (hperm.subset he)

theorem nodes_congr (p : Painting) (h : layers.map flat = layers'.map flat) :
    p.nodes layers = p.nodes layers' := by
  rw [nodes, nodes, cutouts, cutouts, h]

theorem cutouts_perm (p : Painting) (h : (layers.map flat).Perm (layers'.map flat)) :
    (p.cutouts layers).Perm (p.cutouts layers') := h.map p.cut

theorem nodes_eq_nil_iff (p : Painting) (layers : List (Nat × Layer)) :
    p.nodes layers = [] ↔ layers = [] ∧ p.behind = [] := by
  rw [nodes, List.append_eq_nil_iff, Cutout.pile_eq_nil_iff, cutouts, List.map_eq_nil_iff,
    List.map_eq_nil_iff]

/-- But for the overlays, the statements do not depend on the order of the layers. -/
theorem Of.others_perm {c : Composition} (hp : p.Of c)
    (h : (layers.map flat).Perm c.level.numbered) (h' : (layers'.map flat).Perm c.level.numbered) :
    ((p.nodes layers).filter fun n => !n.overlays).Perm
      ((p.nodes layers').filter fun n => !n.overlays) := by
  rw [nodes, nodes, List.filter_append, List.filter_append,
    Cutout.pile_others (hp.cutouts_proper h), Cutout.pile_others (hp.cutouts_proper h')]
  exact ((p.cutouts_perm (h.trans h'.symm)).flatMap_right _).append_right _

/-- A pile is no sound. -/
theorem Of.filter_audio {c : Composition} (hp : p.Of c)
    (h : (layers.map flat).Perm c.level.numbered) :
    (p.nodes layers).filter (fun n => n.kind == .audio) =
      p.behind.filter fun n => n.kind == .audio := by
  have hpile := Cutout.pile_video (hp.cutouts_proper h) p.final 0 hp.video
  have hnone : (pile p.final 0 (p.cutouts layers) p.background).filter
      (fun n => n.kind == .audio) = [] :=
    List.filter_eq_nil_iff.mpr fun n hn => by simp [hpile n hn]
  rw [nodes, List.filter_append, hnone, List.nil_append]

end Painting

/-- What comes behind the pile does not depend on it, but for the pad it ends in. -/
theorem settled_behind (encoder : EncoderProfile) (drawn : Pad) : (do
    let pad ← if encoder.stacksAlpha then stackAlpha drawn (encoder.layout.getD .vertical)
      else pure drawn
    if !(← get).isEmpty then markOutput pad
    return pad : GraphBuilder Pad).Settled :=
  .ite (.bind (settled_stackAlpha drawn _) fun pad _ => .any (.declare pad))
    (.bind (.any (.pure drawn)) fun pad _ => .any (.declare pad))

/-- A picture that has been drawn once is painted in the same way, whatever the heights are. -/
theorem exists_painting {c : Composition} {encoder : EncoderProfile} {g g' : FilterGraph}
    {pad : Pad} (h : c.picture inputs canvas encoder g = .ok (pad, g')) :
    ∃ p : Painting, p.Of c ∧ ∀ (c' : Composition) (layers : List (Nat × Layer)),
      c'.level = c.level → c'.ordered = .ok layers →
        (c'.picture inputs canvas encoder).Emits pad (p.nodes layers) := by
  obtain ⟨background, hbackground, h⟩ := run_lift h
  obtain ⟨layers, hlayers, h⟩ := run_lift h
  obtain ⟨drawn, g₁, hdrawn, h⟩ := run_bind h
  obtain ⟨-, behind, hbehind, -⟩ := settled_behind encoder drawn g₁ pad g' h
  have hperm := ordered_perm_level hlayers
  have hexists : ∀ e ∈ c.level.numbered, ∃ s, Cuts inputs canvas e s := by
    intro e he
    obtain ⟨e', he', rfl⟩ := List.mem_map.mp (hperm.mem_iff.mpr he)
    exact (forall_cuts hdrawn e' he').imp fun s hs => hs.flat
  have hnonempty : Nonempty Cutout := ⟨⟨[], background, ""⟩⟩
  choose! cut hcut using hexists
  let p : Painting := ⟨if encoder.stacksAlpha then "composed" else "out", background, cut, behind⟩
  have hdraw : ∀ layers : List (Nat × Layer), (layers.map flat).Perm c.level.numbered →
      (drawLayers inputs canvas p.final 0 layers background).Emits
        (top p.final (p.cutouts layers) background)
        (pile p.final 0 (p.cutouts layers) background) := by
    intro layers hperm
    rw [Painting.cutouts, List.map_map]
    refine drawLayers_emits (fun e he => ?_) p.final 0 background
    exact (hcut _ (hperm.subset (List.mem_map_of_mem he))).of_flat
  refine ⟨p, ⟨InputTable.stream_kind hbackground, fun e he => (hcut e he).proper⟩, ?_⟩
  intro c' layers' hsame hlayers'
  have hperm' : (layers'.map flat).Perm c.level.numbered := hsame ▸ ordered_perm_level hlayers'
  -- the pile ends in the same pad
  obtain ⟨hpad, -⟩ := (hdraw layers hperm).of_run hdrawn
  have hrest := hdraw layers' hperm'
  rw [top, (p.cutouts_perm (hperm'.trans hperm.symm)).isEmpty_eq, ← top, ← hpad] at hrest
  exact .bind_lift hbackground (.bind_lift hlayers' (hrest.bind hbehind))

end Composition

end Compositor
