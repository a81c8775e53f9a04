import Compositor.Proofs.Command.Meaning
import Compositor.Proofs.Picture.Appending
import Compositor.Proofs.Sound.Appending

/-!
# The graph in a command can be read

A command carries its graph as one text. When the settings of a composition are what they are
meant to be, no part of this text can be mistaken for another one, so that the statements of the
graph are read back from the command, in order and as they were written.
-/
namespace Compositor

open GraphBuilder
open Setting (ofPair)

theorem Pad.unmarked_input (index : Int) (kind : StreamKind) :
    Unmarked (Pad.input index kind).label := by
  have hcolon : Unmarked ":" := by decide
  have hletter : Unmarked kind.letter := by cases kind <;> decide
  exact ((unmarked_int index).append hcolon).append hletter

theorem InputTable.unmarked_stream {inputs : InputTable} {key : String} {kind : StreamKind}
    {pad : Pad} (h : inputs.stream key kind = .ok pad) : Unmarked pad.label := by
  unfold stream at h
  split at h
  · cases h
    exact Pad.unmarked_input _ _
  · cases h

namespace Composition

/-- Layers as they are meant, on a canvas with numbers for its sides. -/
structure Declared (c : Composition) : Prop where
  layers : ∀ l ∈ c.layers, l.Declared
  canvas : ∀ f, c.hint = some f → f.width.IsNumber ∧ f.height.IsNumber

/-- A canvas that follows from a background has numbers for its sides, too. -/
theorem Declared.frame {c : Composition} (hc : c.Declared) {frame : Frame}
    (h : c.frame = .ok frame) : frame.width.IsNumber ∧ frame.height.IsNumber := by
  unfold Composition.frame at h
  cases hbackground : c.background.bind frameOf? with
  | none =>
    rw [hbackground, Option.none_or] at h
    cases hhint : c.hint with
    | none =>
      rw [hhint] at h
      cases h
    | some f =>
      rw [hhint] at h
      cases h
      exact hc.canvas frame hhint
  | some f =>
    rw [hbackground, Option.some_or] at h
    cases h
    obtain ⟨b, -, hb⟩ := Option.bind_eq_some_iff.mp hbackground
    unfold frameOf? at hb
    split at hb
    · cases hb
    · cases hb
      exact ⟨⟨_, rfl⟩, ⟨_, rfl⟩⟩

/-- All statements of a command can be told apart. -/
theorem legible_outputs {c : Composition} (hc : c.Declared) {stage : InputStage} {frame : Frame}
    {encoder : EncoderProfile} {graph : FilterGraph} {selection : List String}
    (hframe : c.frame = .ok frame)
    (haudio : layerSounds Layer.sound (fun n => firstInput c.layers n) c.layers.zipIdx =
      .ok stage.audio)
    (h : c.outputs stage frame encoder = .ok (graph, selection)) :
    ∀ n ∈ graph.nodes, n.Legible := by
  obtain ⟨hw, hh⟩ := hc.frame hframe
  have hheard : ∀ s ∈ stage.audio ++ (c.background.map Background.audioSource).getD [],
      Unmarked s.pad.label := by
    intro s hs
    obtain ⟨index, hpad⟩ := sources_stream (sources_of_audio haudio) s hs
    rw [hpad]
    exact Pad.unmarked_input index .audio
  have hpicture : (c.picture (inputTable stage) frame.canvas encoder).Extends FilterNode.Legible
      fun p => Unmarked p.label :=
    extends_picture idiom_legible (fun _ _ => InputTable.unmarked_stream) hw hh hc.layers encoder
  have hsound := AudioSource.extends_args idiom_legible hheard
  have hstatements : (c.statements stage frame encoder).Extends FilterNode.Legible
      fun _ => True :=
    .bind hpicture fun _ _ => .bind hsound fun _ _ => .pure trivial
  obtain ⟨⟨more, hnodes, hmore⟩, -⟩ :=
    hstatements .empty selection graph (statements_of_outputs h)
  rw [hnodes]
  exact hmore

/-- The text of a graph whose parts can be told apart determines its statements. The text in a
command is of this kind if its composition is what it is meant to be, and it determines the
statements of the graph that the composition builds. -/
theorem text_determines_statements :
    (∀ graph : FilterGraph, (∀ n ∈ graph.nodes, n.Legible) →
      Markup.read graph.render = some (graph.nodes.map FilterNode.written)) ∧
    ∀ (c : Composition) (outPath : Argument) (encoder : EncoderProfile) (format : Json)
      (manifest : Option ManifestId) (w : World) (argv : List Argument), c.Declared →
      (c.command outPath encoder format manifest w).1 = .ok argv →
      ∃ frame r graph, Reading.read argv.tail = some r ∧
        c.BuiltFrom encoder manifest w frame r graph ∧
        ∀ text, ofPair ("-filter_complex", text) ∈ r.settings →
          Markup.read text = some (graph.nodes.map FilterNode.written) := by
  refine ⟨fun graph => Markup.read_render, ?_⟩
  intro c outPath encoder format manifest w argv hc h
  obtain ⟨o, r, hr⟩ := command_renders h
  obtain ⟨args, rfl, hread⟩ := hr.read
  obtain ⟨selection, hbuilt⟩ := hr.built
  have hlegible := legible_outputs hc hr.opened.frame hr.opened.audio hbuilt
  refine ⟨o.frame, r.reading outPath, r.graph, hread, hr.builtFrom, fun text htext => ?_⟩
  have hcarried : ofPair ("-filter_complex", text) ∈ r.graph.settings := by
    rw [← hr.builtFrom.carried]
    exact List.mem_filter.mpr ⟨htext, rfl⟩
  cases FilterGraph.eq_of_mem_settings hcarried
  exact Markup.read_render hlegible

theorem declared_crossed : crossed.Declared := by
  have hover : ∀ l ∈ crossed.layers, l.Declared := by
    intro l hl
    simp only [crossed, List.mem_cons, List.not_mem_nil, or_false] at hl
    rcases hl with rfl | rfl <;>
      exact ⟨⟨_, rfl⟩, nofun, nofun, nofun, by decide, by decide⟩
  refine ⟨hover, fun f hf => ?_⟩
  cases hf
  exact ⟨⟨_, rfl⟩, ⟨_, rfl⟩⟩

theorem text_determines_statements_crossed : crossed.Declared ∧ ∃ argv,
    (crossed.command "out.mov" EncoderProfile.h264 .null none ready).1 = .ok argv ∧
    ∃ frame r graph text, Reading.read argv.tail = some r ∧
      crossed.BuiltFrom EncoderProfile.h264 none ready frame r graph ∧
      ofPair ("-filter_complex", text) ∈ r.settings ∧
      Markup.read text = some (graph.nodes.map FilterNode.written) := by
  have hrun : ((crossed.command "out.mov" EncoderProfile.h264 .null none ready).1.toOption.bind
      fun argv => (Reading.read argv.tail).map fun r => r.settings.any Setting.carriesGraph) =
      some true := by decide +kernel
  obtain ⟨argv, hargv, hcarries⟩ := Option.bind_eq_some_iff.mp hrun
  have h := ok_of_toOption hargv
  obtain ⟨frame, r, graph, hread, hbuilt, hdetermined⟩ :=
    text_determines_statements.2 crossed "out.mov" EncoderProfile.h264 .null none ready argv
      declared_crossed h
  rw [hread, Option.map_some] at hcarries
  obtain ⟨s, hs, hname⟩ := List.any_eq_true.mp (Option.some.inj hcarries)
  have htext : s ∈ graph.settings := by
    rw [← hbuilt.carried]
    exact List.mem_filter.mpr ⟨hs, hname⟩
  have hrender := FilterGraph.eq_of_mem_settings htext
  exact ⟨declared_crossed, argv, h, frame, r, graph, graph.render, hread, hbuilt, hrender ▸ hs,
    hdetermined _ (hrender ▸ hs)⟩

end Composition

end Compositor
