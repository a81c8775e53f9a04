import Compositor.Proofs.Command.Legible
import Compositor.Proofs.Picture.Painting

/-!
# Heights are nothing but an order

The heights of layers decide in which order they are drawn, and nothing else. Compositions that
differ in integer heights only have the same command but for the text of the graph, and the graphs
have the same statements but for the overlays.
-/
namespace Compositor

open GraphBuilder

/-! ## The sound -/

namespace AudioSource

theorem settled_delayed (s : AudioSource) (label : String) : (s.delayed label).Settled :=
  .ite (.bind_lift fun expr _ => .any (.statement expr s.pad [] label)) (.any (.pure s.pad))

theorem settled_single (s : AudioSource) : s.single.Settled :=
  .bind (s.settled_delayed _) fun pad _ =>
    .ite (.any (.statement _ pad [] _)) (.any (.statement _ pad [] _))

theorem settled_part (s : AudioSource) (i : Nat) : (s.part i).Settled :=
  .bind (s.settled_delayed _) fun pad _ => .ite (.any (.statement _ pad [] _)) (.any (.pure pad))

theorem settled_parts (i : Nat) (sources : List AudioSource) : (parts i sources).Settled := by
  induction sources generalizing i with
  | nil => exact .any (.pure [])
  | cons s sources ih =>
    exact .bind (s.settled_part i) fun pad _ => .bind (ih (i + 1)) fun pads _ => .any (.pure _)

theorem settled_mix (sources : List AudioSource) : (mix sources).Settled := by
  refine .bind (settled_parts 0 sources) fun pads _ => ?_
  cases pads with
  | nil => exact .any (.refused _ _)
  | cons pad pads => exact .any (.statement _ pad pads _)

theorem settled_select (pad : Pad) : (select pad).Settled :=
  .bind (.any (.markOutput pad)) fun _ _ => .any (.pure _)

theorem settled_audibleArgs (sources : List AudioSource) : (audibleArgs sources).Settled := by
  match sources with
  | [] => exact .any (.pure _)
  | [s] =>
    exact .ite (.any (.pure _)) (.bind s.settled_single fun pad _ => settled_select pad)
  | s :: s' :: rest => exact .bind (settled_mix _) fun pad _ => settled_select pad

theorem settled_args (sources : List AudioSource) : (args sources).Settled := by
  have hheard := settled_audibleArgs (sources.filter AudioSource.audible)
  match sources with
  | [] | _ :: _ :: _ => exact hheard
  | [s] => exact .ite (.any (.pure _)) hheard

end AudioSource

namespace Composition

/-! ## What heights do not change -/

theorem opening_level (c : Composition) (manifest : Option ManifestId) :
    c.level.opening manifest = c.opening manifest := by
  have hwire : ∀ (i : Nat) (next : Int) (layers : List Layer),
      wireLayers c.context Layer.audioSource i next (layers.map Layer.level) =
        wireLayers c.context Layer.audioSource i next layers := by
    intro i next layers
    induction layers generalizing i next with
    | nil => rfl
    | cons l rest ih =>
      simp only [List.map_cons, wireLayers, ih]
      rfl
  unfold opening
  rw [show c.level.layers = c.layers.map Layer.level from rfl]
  simp only [show c.level.context = c.context from rfl, hwire]
  rfl

theorem lengthArgs_level (c : Composition) : c.level.lengthArgs = c.lengthArgs := by
  have hlengths : c.level.layers.mapM Layer.duration = c.layers.mapM Layer.duration := by
    change (c.layers.map Layer.level).mapM _ = _
    rw [List.mapM_map]
    rfl
  unfold lengthArgs lengthRule
  rw [hlengths]
  rfl

/-- Statements that have been built once are the same with other heights, but for the pile of
the picture. -/
theorem exists_statements {c : Composition} {stage : InputStage} {frame : Frame}
    {encoder : EncoderProfile} {selection : List String} {graph : FilterGraph}
    (h : c.statements stage frame encoder .empty = .ok (selection, graph)) :
    ∃ p : Painting, p.Of c ∧ ∀ (c' : Composition) (layers : List (Nat × Layer)),
      c'.level = c.level → c'.ordered = .ok layers →
        (c'.statements stage frame encoder).Emits selection (p.nodes layers) := by
  obtain ⟨pad, g, hpicture, h⟩ := run_bind h
  obtain ⟨audio, g', haudio, h⟩ := run_bind h
  obtain ⟨-, sound, hsound, -⟩ := AudioSource.settled_args _ g audio g' haudio
  obtain ⟨p, hp, hemits⟩ := exists_painting hpicture
  refine ⟨{ p with behind := p.behind ++ sound }, ⟨hp.video, hp.proper⟩, ?_⟩
  intro c' layers hsame hlayers
  have hbackground : c'.level.background = c.level.background := by rw [hsame]
  change c'.background = c.background at hbackground
  have hselect : (do
      let audio ← AudioSource.args
        (stage.audio ++ (c.background.map Background.audioSource).getD [])
      return ["-map", pad.mapSpec] ++ audio : GraphBuilder (List String)).Emits
        (["-map", pad.mapSpec] ++ audio) (sound ++ []) := hsound.bind (.pure _)
  cases h
  rw [statements, hbackground, Painting.nodes, ← List.append_assoc, ← List.append_nil sound]
  exact (hemits c' layers hsame hlayers).bind hselect

/-! ## Two orders of the same layers -/

/-- Compositions with integer heights that are the same but for these. -/
structure Restacked (c c' : Composition) : Prop where
  same : c'.level = c.level
  integers : ∀ l ∈ c.layers ++ c'.layers, ∃ n, l.z = .int n

/-- Numbers of layers in rising order of height, those of equal height as they were added. -/
def StacksAs (c : Composition) (numbers : List Nat) : Prop :=
  ∃ layers : List (Nat × Layer), layers.Perm c.numbered ∧ layers.Pairwise Above ∧
    layers.map Prod.fst = numbers

theorem Above.asymm {a b : Nat × Layer} (h : Above a b) : ¬ Above b a := by
  rintro ⟨n', m', hn', hm', h'⟩
  obtain ⟨m, n, hm, hn, h⟩ := h
  cases hm.symm.trans hm'
  cases hn.symm.trans hn'
  omega

/-- The order in which layers are drawn is the only one of its kind. -/
theorem StacksAs.ordered {c : Composition} (hz : ∀ l ∈ c.layers, ∃ n, l.z = .int n)
    {numbers : List Nat} (h : c.StacksAs numbers) {layers : List (Nat × Layer)}
    (hlayers : c.ordered = .ok layers) : layers.map Prod.fst = numbers := by
  obtain ⟨stack, hstack, hsorted, rfl⟩ := h
  obtain ⟨layers', hlayers', hperm, hsorted'⟩ := ordered_stable hz
  cases hlayers.symm.trans hlayers'
  have hsame : layers = stack :=
    List.Perm.eq_of_pairwise (fun _ _ _ _ hab hba => (hab.asymm hba).elim) hsorted' hsorted
      (hperm.trans hstack.symm)
  rw [hsame]

/-- The numbers of layers determine them but for their heights. -/
theorem flat_of_numbers {c : Composition} {layers : List (Nat × Layer)}
    (h : (layers.map flat).Perm c.level.numbered) :
    layers.map flat = (layers.map Prod.fst).filterMap fun n =>
      (c.level.layers[n]?).map (Prod.mk n) := by
  rw [List.filterMap_map, ← List.filterMap_eq_map]
  refine List.filterMap_congr fun e he => ?_
  have hlayer := mem_numbered (h.subset (List.mem_map_of_mem he))
  exact (congrArg (Option.map (Prod.mk e.1)) hlayer).symm

section Orders

variable {c c' : Composition} {encoder : EncoderProfile} {manifest : Option ManifestId} {w : World}

/-- Graphs of the same layers are painted in the same way. -/
theorem Restacked.outputs (hc : c.Restacked c') {o : Opening} {w₁ : World}
    (ho : c.opening manifest w = (.ok o, w₁)) {graph : FilterGraph} {selection : List String}
    (h : c.outputs o.stage o.frame encoder = .ok (graph, selection)) :
    ∃ (p : Painting) (layers layers' : List (Nat × Layer)) (graph' : FilterGraph), p.Of c ∧
      c.ordered = .ok layers ∧ c'.ordered = .ok layers' ∧
      c'.outputs o.stage o.frame encoder = .ok (graph', selection) ∧
      graph.nodes = p.nodes layers ∧ graph'.nodes = p.nodes layers' := by
  obtain ⟨hz, hz'⟩ := List.forall_mem_append.mp hc.integers
  obtain ⟨layers, hlayers, -⟩ := ordered_stable hz
  obtain ⟨layers', hlayers', -⟩ := ordered_stable hz'
  have hbuilt := statements_of_outputs h
  obtain ⟨p, hp, hemits⟩ := exists_statements hbuilt
  obtain ⟨-, hnodes⟩ := (hemits c layers rfl hlayers).of_run hbuilt
  have ho' : (c'.opening manifest w).1 = .ok o := by
    rw [← opening_level, hc.same, opening_level, ho]
  obtain ⟨tool, backdrop, groups, hopened⟩ := (c'.yields_opening manifest).post_of_ok ho'
  have hassembled := statements_assemble hopened.inputs hopened.audio o.frame encoder
  obtain ⟨graph', hrun, hnodes'⟩ | ⟨e, hrun⟩ := hemits c' layers' hc.same hlayers' .empty
  · obtain ⟨pad, sound, hwires, -⟩ := hassembled.post_of_ok hrun
    exact ⟨p, layers, layers', graph', hp, hlayers, hlayers',
      outputs_of_valid hrun hwires.wired.validate_eq_ok, hnodes, hnodes'⟩
  · exact absurd (hassembled.clean _ hrun) (by simp [Fault.isWiring])

variable {outPath : Argument} {format : Json} {argv : List Argument} {v : World}

/-- A command is put together from its inputs, its graph, and options for its output. -/
theorem command_eq_ok :
    c.command outPath encoder format manifest w = (.ok argv, v) ↔
      ∃ o w₁ graph selection length container, c.opening manifest w = (.ok o, w₁) ∧
        c.outputs o.stage o.frame encoder = .ok (graph, selection) ∧
        c.lengthArgs w₁ = (.ok length, v) ∧ PipeFormat.namedArgs format = .ok container ∧
        argv = o.args ++ Argument.ofTexts (graphArgs graph ++ selection ++ length ++
          encoder.codecArgs ++ container) ++ [outPath] := by
  constructor
  · intro h
    obtain ⟨o, w₁, ho, h⟩ := Act.bind_eq_ok h
    obtain ⟨⟨graph, selection⟩, w₂, hout, h⟩ := Act.bind_eq_ok h
    obtain ⟨length, w₃, hlength, h⟩ := Act.bind_eq_ok h
    obtain ⟨container, w₄, hcontainer, h⟩ := Act.bind_eq_ok h
    have houtputs := Act.ofExcept_ok hout
    have hnamed := Act.ofExcept_ok hcontainer
    rw [houtputs] at hout
    rw [hnamed] at hcontainer
    cases hout
    cases hcontainer
    cases h
    exact ⟨o, w₁, graph, selection, length, container, ho, houtputs, hlength, hnamed, rfl⟩
  · rintro ⟨o, w₁, graph, selection, length, container, ho, hout, hlength, hcontainer, rfl⟩
    rw [command, Act.bind_apply, ho]
    dsimp only
    rw [hout]
    change (c.lengthArgs >>= _) w₁ = _
    rw [Act.bind_apply, hlength, hcontainer]
    rfl

/-- What two commands have in common that draw the same layers in different orders. -/
structure Redrawn (argv argv' : List Argument) (graph graph' : FilterGraph) : Prop where
  /-- The arguments agree but for the text of the graph. -/
  arguments : ∃ before behind,
    argv = before ++ Argument.ofTexts (graphArgs graph) ++ behind ∧
    argv' = before ++ Argument.ofTexts (graphArgs graph') ++ behind
  isEmpty_eq : graph'.isEmpty = graph.isEmpty
  /-- All statements but the overlays are the same, with all of their labels. -/
  others : (graph'.nodes.filter fun n => !n.overlays).Perm
    (graph.nodes.filter fun n => !n.overlays)
  /-- The statements of the sound are the same, in the same order. -/
  audio : graph'.nodes.filter (fun n => n.kind == .audio) =
    graph.nodes.filter fun n => n.kind == .audio

theorem Restacked.redrawn {p : Painting} (hp : p.Of c) (hc : c.Restacked c')
    {layers layers' : List (Nat × Layer)} (hlayers : c.ordered = .ok layers)
    (hlayers' : c'.ordered = .ok layers') {graph graph' : FilterGraph}
    (hnodes : graph.nodes = p.nodes layers) (hnodes' : graph'.nodes = p.nodes layers')
    (before behind : List Argument) :
    Redrawn (before ++ Argument.ofTexts (graphArgs graph) ++ behind)
      (before ++ Argument.ofTexts (graphArgs graph') ++ behind) graph graph' := by
  have hperm := ordered_perm_level hlayers
  have hperm' : (layers'.map flat).Perm c.level.numbered := hc.same ▸ ordered_perm_level hlayers'
  have hnone : layers' = [] ↔ layers = [] := by
    have hlength := (hperm'.trans hperm.symm).length_eq
    rw [List.length_map, List.length_map] at hlength
    rw [← List.length_eq_zero_iff, hlength, List.length_eq_zero_iff]
  refine ⟨⟨before, behind, rfl, rfl⟩, ?_, ?_, ?_⟩
  · rw [Bool.eq_iff_iff, FilterGraph.isEmpty, FilterGraph.isEmpty, List.isEmpty_iff,
      List.isEmpty_iff, hnodes, hnodes', p.nodes_eq_nil_iff, p.nodes_eq_nil_iff, hnone]
  · rw [hnodes, hnodes']
    exact hp.others_perm hperm' hperm
  · rw [hnodes, hnodes', hp.filter_audio hperm, hp.filter_audio hperm']

/-- Heights are nothing but an order: whenever a composition has a command, it has one with other
integer heights as well, which differs in the overlays of its graph only; and if both compositions
stack their layers in the same way, the commands are the same. -/
theorem heights_are_order {c c' : Composition} (hc : c.Restacked c') {outPath : Argument}
    {encoder : EncoderProfile} {format : Json} {manifest : Option ManifestId} {w v : World}
    {argv : List Argument} (h : c.command outPath encoder format manifest w = (.ok argv, v)) :
    ∃ argv' o graph graph' selection,
      c'.command outPath encoder format manifest w = (.ok argv', v) ∧
      (c.opening manifest w).1 = .ok o ∧ (c'.opening manifest w).1 = .ok o ∧
      c.outputs o.stage o.frame encoder = .ok (graph, selection) ∧
      c'.outputs o.stage o.frame encoder = .ok (graph', selection) ∧
      Redrawn argv argv' graph graph' ∧
      ∀ numbers, c.StacksAs numbers → c'.StacksAs numbers → argv' = argv := by
  obtain ⟨o, w₁, graph, selection, length, container, ho, hout, hlength, hcontainer, rfl⟩ :=
    command_eq_ok.mp h
  obtain ⟨p, layers, layers', graph', hp, hlayers, hlayers', hout', hnodes, hnodes'⟩ :=
    hc.outputs ho hout
  have ho' : c'.opening manifest w = (.ok o, w₁) := by
    rw [← opening_level, hc.same, opening_level, ho]
  have hlength' : c'.lengthArgs w₁ = (.ok length, v) := by
    rw [← lengthArgs_level, hc.same, lengthArgs_level, hlength]
  have hargv (g : FilterGraph) :
      o.args ++ Argument.ofTexts (graphArgs g ++ selection ++ length ++ encoder.codecArgs ++
        container) ++ [outPath] =
      o.args ++ Argument.ofTexts (graphArgs g) ++ (Argument.ofTexts (selection ++ length ++
        encoder.codecArgs ++ container) ++ [outPath]) := by
    simp only [Argument.ofTexts_append, List.append_assoc]
  refine ⟨_, o, graph, graph', selection, command_eq_ok.mpr ⟨o, w₁, graph', selection, length,
    container, ho', hout', hlength', hcontainer, rfl⟩, by rw [ho], by rw [ho'], hout, hout', ?_, ?_⟩
  · rw [hargv, hargv]
    exact hc.redrawn hp hlayers hlayers' hnodes hnodes' _ _
  · intro numbers hstacks hstacks'
    obtain ⟨hz, hz'⟩ := List.forall_mem_append.mp hc.integers
    have hflat : layers'.map flat = layers.map flat := by
      rw [flat_of_numbers (ordered_perm_level hlayers), flat_of_numbers
        (ordered_perm_level hlayers'), hstacks.ordered hz hlayers, hstacks'.ordered hz' hlayers',
        hc.same]
    have hsame : graph'.nodes = graph.nodes := by rw [hnodes, hnodes', p.nodes_congr hflat]
    rw [graphArgs, graphArgs, FilterGraph.isEmpty, FilterGraph.isEmpty, FilterGraph.render,
      FilterGraph.render, hsame]

end Orders

/-- The two clips of `crossed` with their heights exchanged. -/
def uncrossed : Composition :=
  { crossed with
    layers := [{ Layer.ofClip "over" ⟨.webm, "a.webm", none, none, none, false, none⟩ 0 with
        opacity := 0.5 },
      Layer.ofClip "under" ⟨.stacked, "b.mp4", none, none, none, false, none⟩ 1] }

theorem restacked_crossed : crossed.Restacked uncrossed where
  same := rfl
  integers := by
    intro l hl
    simp only [crossed, uncrossed, List.cons_append, List.nil_append, List.mem_cons,
      List.not_mem_nil, or_false] at hl
    rcases hl with rfl | rfl | rfl | rfl <;> exact ⟨_, rfl⟩

/-- The two clips are drawn in different orders. -/
theorem stacksAs_crossed : crossed.StacksAs [1, 0] ∧ uncrossed.StacksAs [0, 1] := by
  refine ⟨⟨_, List.Perm.swap _ _ _, ?_, rfl⟩, ⟨_, List.Perm.refl _, ?_, rfl⟩⟩
  · exact List.pairwise_pair.mpr ⟨0, 1, rfl, rfl, .inl (by decide)⟩
  · exact List.pairwise_pair.mpr ⟨0, 1, rfl, rfl, .inl (by decide)⟩

theorem heights_are_order_crossed : crossed.Restacked uncrossed ∧
    (crossed.StacksAs [1, 0] ∧ uncrossed.StacksAs [0, 1]) ∧ ∃ argv v argv' graph graph',
      crossed.command "out.mov" EncoderProfile.h264 .null none ready = (.ok argv, v) ∧
      uncrossed.command "out.mov" EncoderProfile.h264 .null none ready = (.ok argv', v) ∧
      Redrawn argv argv' graph graph' := by
  refine ⟨restacked_crossed, stacksAs_crossed, ?_⟩
  obtain ⟨argv, hargv⟩ := crossed_command
  cases h : crossed.command "out.mov" EncoderProfile.h264 .null none ready with
  | mk result v =>
    obtain rfl : result = .ok argv := by rw [← hargv, h]
    obtain ⟨argv', o, graph, graph', selection, h', -, -, -, -, hredrawn, -⟩ :=
      heights_are_order restacked_crossed h
    exact ⟨argv, v, argv', graph, graph', rfl, h', hredrawn⟩

end Composition

end Compositor
