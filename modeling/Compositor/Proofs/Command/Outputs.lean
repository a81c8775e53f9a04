import Compositor.Proofs.Command.Arguments
import Compositor.Proofs.Picture.Drawing
import Compositor.Proofs.Sound.Mixing

/-!
# The outputs of a command

The graph of a command carries the picture and the sound that its composition stands
for, and the command selects them.
-/
namespace Compositor.Composition

open FilterGraph GraphBuilder
open Setting (texts ofPair reserved)

/-- The sources of sound: the layers in the order in which they were added, and then the
background. -/
def sources (c : Composition) : Except Fault (List AudioSource) := do
  let layers ← layerSounds Layer.sound (fun n => firstInput c.layers n) c.layers.zipIdx
  return layers ++ (c.background.map Background.audioSource).getD []

theorem mem_of_mapM_ok {α β : Type} {f : α → Except Fault β} {l : List α} {r : List β}
    (h : l.mapM f = .ok r) : ∀ b ∈ r, ∃ a ∈ l, f a = .ok b := by
  induction l generalizing r with
  | nil =>
    cases h
    exact nofun
  | cons a l ih =>
    rw [List.mapM_cons] at h
    obtain ⟨b, hb, h⟩ := bind_eq_ok.mp h
    obtain ⟨r', hr', h⟩ := bind_eq_ok.mp h
    cases h
    intro b' hb'
    rcases List.mem_cons.mp hb' with rfl | hb'
    · exact ⟨a, List.mem_cons_self, hb⟩
    · obtain ⟨a', ha', hf⟩ := ih hr' b' hb'
      exact ⟨a', List.mem_cons_of_mem _ ha', hf⟩

theorem sound_stream {l : Layer} {first : Int} {heard : List AudioSource}
    (h : l.sound first = .ok heard) : ∀ s ∈ heard, s.IsStream := by
  unfold Layer.sound at h
  split at h
  · obtain ⟨offset, -, h⟩ := bind_eq_ok.mp h
    obtain ⟨delay, -, h⟩ := bind_eq_ok.mp h
    cases h
    intro s hs
    rw [List.mem_singleton.mp hs]
    exact ⟨_, rfl⟩
  · cases h
    exact nofun

/-- Every source is a stream of sound of an input. -/
theorem sources_stream {c : Composition} {sources : List AudioSource}
    (h : c.sources = .ok sources) : ∀ s ∈ sources, s.IsStream := by
  obtain ⟨layers, hlayers, he⟩ := bind_eq_ok.mp h
  obtain ⟨lists, hlists, hflat⟩ := bind_eq_ok.mp hlayers
  cases he
  cases hflat
  intro s hs
  rcases List.mem_append.mp hs with hs | hs
  · obtain ⟨heard, hheard, hs⟩ := List.mem_flatten.mp hs
    obtain ⟨e, -, he⟩ := mem_of_mapM_ok hlists heard hheard
    exact sound_stream he s hs
  · cases hb : c.background with
    | none =>
      rw [hb] at hs
      cases hs
    | some b =>
      rw [hb, Option.map_some, Option.getD_some, Background.audioSource] at hs
      split at hs
      · rw [List.mem_singleton.mp hs]
        exact ⟨0, rfl⟩
      · cases hs

/-- Once the layers are wired, their sounds and that of the background are the sources. -/
theorem sources_of_audio {c : Composition} {audio : List AudioSource}
    (h : layerSounds Layer.sound (fun n => firstInput c.layers n) c.layers.zipIdx = .ok audio) :
    c.sources = .ok (audio ++ (c.background.map Background.audioSource).getD []) := by
  rw [sources, h]
  rfl

/-- A graph that carries picture and sound of a composition. -/
structure Wires (c : Composition) (frame : Frame) (encoder : EncoderProfile) (graph : FilterGraph)
    (pad : Pad) (sound : Sounding) : Prop where
  wired : graph.Wired []
  picture : ∃ layers t, c.ordered = .ok layers ∧
    drawn frame.canvas (fun n => firstInput c.layers n) layers (Foreground.streamTerm 0 .video) =
      .ok t ∧ graph.Unfolds pad (finished encoder t)
  sounding : ∃ sources, c.sources = .ok sources ∧ AudioSource.sounding sources = .ok sound
  heard : sound.In graph

theorem soundLink_not_pictureLink {l : Link} (h : SoundLink l) : ¬ PictureLink l := by
  rcases h with rfl | ⟨k, rfl⟩ | ⟨k, rfl⟩ | rfl <;> simp [PictureLink, stackLinks]

/-- The statements of picture and sound, and the arguments that select them. -/
def statements (c : Composition) (stage : InputStage) (frame : Frame) (encoder : EncoderProfile) :
    GraphBuilder (List String) := do
  let pad ← c.picture (inputTable stage) frame.canvas encoder
  let audio ← AudioSource.args (stage.audio ++ (c.background.map Background.audioSource).getD [])
  return ["-map", pad.mapSpec] ++ audio

section Statements

variable {c : Composition} {stage : InputStage} {frame : Frame} {encoder : EncoderProfile}

theorem outputs_of_error {e : Fault} (h : c.statements stage frame encoder .empty = .error e) :
    c.outputs stage frame encoder = .error e := by
  change (c.statements stage frame encoder .empty >>= _) = _
  rw [h]
  rfl

theorem outputs_of_valid {selection : List String} {graph : FilterGraph}
    (h : c.statements stage frame encoder .empty = .ok (selection, graph))
    (hvalid : graph.validate = .ok ()) :
    c.outputs stage frame encoder = .ok (graph, selection) := by
  change (c.statements stage frame encoder .empty >>= _) = _
  rw [h]
  simp only [bind, Except.bind, hvalid]

theorem statements_of_outputs {selection : List String} {graph : FilterGraph}
    (h : c.outputs stage frame encoder = .ok (graph, selection)) :
    c.statements stage frame encoder .empty = .ok (selection, graph) := by
  cases hrun : c.statements stage frame encoder .empty with
  | error e =>
    rw [outputs_of_error hrun] at h
    cases h
  | ok r =>
    change (c.statements stage frame encoder .empty >>= _) = _ at h
    rw [hrun] at h
    simp only [bind, Except.bind] at h
    split at h
    · cases h
    · cases h
      rfl

end Statements

theorem statements_assemble {c : Composition} {stage : InputStage}
    (hinputs : stage.inputs = layerTable (fun n => firstInput c.layers n) c.layers.zipIdx)
    (haudio : layerSounds Layer.sound (fun n => firstInput c.layers n) c.layers.zipIdx =
      .ok stage.audio) (frame : Frame) (encoder : EncoderProfile) :
    (c.statements stage frame encoder).Assembles .empty fun selection graph =>
      ∃ pad sound, c.Wires frame encoder graph pad sound ∧
        selection = ["-map", pad.mapSpec] ++ sound.selection := by
  have hsources := sources_of_audio haudio
  obtain ⟨hbackground, hfind⟩ := inputTable_stream hinputs .video
  refine .bind (c.picture_assembles frame.canvas encoder hbackground hfind) ?_
  rintro pad g ⟨layers, t, hlayers, ht, hholds, hunfolds⟩
  refine .bind (AudioSource.args_sounds (sources_stream hsources) hholds
    fun l => soundLink_not_pictureLink) ?_
  rintro _ g' ⟨sound, hsound, rfl, hin, hgrows, hholds'⟩
  refine .pure ⟨pad, sound, ⟨hholds'.wired, ?_, ⟨_, hsources, hsound⟩, hin⟩, rfl⟩
  exact ⟨layers, t, hlayers, ht, hunfolds.mono hgrows⟩

/-- The graph passes its check, and carries what the composition stands for. -/
theorem outputs_wires {c : Composition} {manifest : Option ManifestId} {tool : Argument}
    {backdrop : InputGroup} {groups : List (List InputGroup)} {o : Opening}
    (h : c.Opened manifest tool backdrop groups o) (encoder : EncoderProfile) :
    Clean (c.outputs o.stage o.frame encoder) ∧ ∀ graph selection,
      c.outputs o.stage o.frame encoder = .ok (graph, selection) → ∃ pad sound,
        c.Wires o.frame encoder graph pad sound ∧
          selection = ["-map", pad.mapSpec] ++ sound.selection := by
  have hbuild := statements_assemble h.inputs h.audio o.frame encoder
  cases hrun : c.statements o.stage o.frame encoder .empty with
  | error e =>
    rw [outputs_of_error hrun]
    exact ⟨(clean_error e).mpr (hbuild.clean e hrun), nofun⟩
  | ok r =>
    obtain ⟨selection, graph⟩ := r
    obtain ⟨pad, sound, hwires, rfl⟩ := hbuild.post_of_ok hrun
    rw [outputs_of_valid hrun hwires.wired.validate_eq_ok]
    refine ⟨clean_ok _, fun graph' selection' he => ?_⟩
    cases he
    exact ⟨pad, sound, hwires, rfl⟩

end Compositor.Composition
