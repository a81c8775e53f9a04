import Compositor.Proofs.Command.Rendering

/-!
# Compositions never miswire

Neither the command nor the graph of a composition can fail because a statement is
refused, or because an input of a layer is not found. The graphs they end in are wired:
each link is produced once, before it is used, and used once.
-/
namespace Compositor

/-- A finished graph without a loose or a crossed link. -/
structure FilterGraph.WellWired (g : FilterGraph) : Prop where
  distinct : ((g.nodes.flatMap FilterNode.outputs).map Pad.label).Nodup
  inOrder : InOrder [] g.nodes
  kinds : ∀ n ∈ g.nodes, ∀ p ∈ n.inputs ++ n.outputs, p.kind = n.kind
  /-- Every link is read by one statement, or declared as an output. -/
  once : ∀ n ∈ g.nodes, ∀ p ∈ n.outputs, g.uses p.label = 1
  valid : g.validate = .ok ()

theorem FilterGraph.Wired.wellWired {g : FilterGraph} (h : g.Wired []) : g.WellWired where
  distinct := h.produced_eq ▸ h.distinct
  inOrder := h.inOrder
  kinds := h.kinds
  once := by
    intro n hn p hp
    refine h.uses_eq_one (List.mem_map_of_mem ?_)
    rw [h.produced_eq]
    exact List.mem_flatMap.mpr ⟨n, hn, hp⟩
  valid := h.validate_eq_ok

namespace Composition

/-- The graph of the picture alone. -/
theorem yields_graph (c : Composition) (encoder : EncoderProfile) :
    (c.graph encoder).Yields FilterGraph.WellWired := by
  refine .bind (.ofExcept c.clean_frame) fun frame _ => ?_
  have hstage : (wireLayers c.context (fun _ _ => .ok []) 0 1 c.layers).Yields
      (Staged (fun _ _ => .ok []) (fun n => firstInput c.layers n) c.layers.zipIdx) :=
    c.yields_stage (fun _ _ _ _ => rfl) fun _ _ => clean_ok _
  refine .bind hstage fun stage hstage => ?_
  obtain ⟨hbackground, hfind⟩ := inputTable_stream hstage.inputs .video
  have hpicture := c.picture_assembles frame.canvas encoder hbackground hfind
  refine .bind (.ofExcept hpicture.clean) ?_
  rintro ⟨pad, graph⟩ hrun
  obtain ⟨layers, t, -, -, hholds, -⟩ := hpicture.post_of_ok hrun
  exact .pure hholds.wired.wellWired

/-- The graph of a command, if there is one, and no fault of wiring. -/
theorem outputs_wellWired {c : Composition} {manifest : Option ManifestId} {w : World} {o : Opening}
    (h : (c.opening manifest w).1 = .ok o) (encoder : EncoderProfile) :
    Clean (c.outputs o.stage o.frame encoder) ∧ ∀ graph selection,
      c.outputs o.stage o.frame encoder = .ok (graph, selection) → graph.WellWired := by
  obtain ⟨tool, backdrop, groups, hopened⟩ := (c.yields_opening manifest).post_of_ok h
  obtain ⟨hclean, hwires⟩ := outputs_wires hopened encoder
  refine ⟨hclean, fun graph selection hout => ?_⟩
  obtain ⟨pad, sound, hw, -⟩ := hwires graph selection hout
  exact hw.wired.wellWired

/-- Only the name of the container can miss a table, once everything is wired. -/
theorem command_fault {c : Composition} {outPath : Argument} {encoder : EncoderProfile}
    {format : Json} {manifest : Option ManifestId} {w : World} {e : Fault}
    (h : (c.command outPath encoder format manifest w).1 = .error e) (he : e.isWiring = true) :
    PipeFormat.namedArgs format = .error e ∧ ∃ o result, (c.opening manifest w).1 = .ok o ∧
      c.outputs o.stage o.frame encoder = .ok result := by
  -- each step but the last one is clean
  have hclean : ∀ {α : Type} {x : Except Fault α}, Clean x → x ≠ .error e := by
    intro α x hx hxe
    rw [hx e hxe] at he
    cases he
  rcases Act.bind_error h with h | ⟨o, w₁, ho, h⟩
  · exact absurd h (hclean ((c.yields_opening manifest).clean w))
  have hstarted : (c.opening manifest w).1 = .ok o := by rw [ho]
  rcases Act.bind_error h with h | ⟨⟨graph, selection⟩, w₂, hout, h⟩
  · exact absurd (Act.ofExcept_error h) (hclean (outputs_wellWired hstarted encoder).1)
  rcases Act.bind_error h with h | ⟨length, w₃, -, h⟩
  · exact absurd h (hclean (c.yields_lengthArgs.clean w₂))
  rcases Act.bind_error h with h | ⟨container, w₄, -, h⟩
  · exact ⟨Act.ofExcept_error h, o, _, hstarted, Act.ofExcept_ok hout⟩
  · cases h

/-- Whatever the settings of a composition are, and whatever the world answers, building
its command or its graph never ends in a refused statement or in a missing input, and
the graphs built are wired. -/
theorem never_miswired (c : Composition) (outPath : Argument) (encoder : EncoderProfile)
    (format : Json) (manifest : Option ManifestId) (w : World) :
    (∀ e, (c.command outPath encoder format manifest w).1 ≠ .error (.graph e)) ∧
    ((c.command outPath encoder format manifest w).1 = .error .noKey →
      PipeFormat.namedArgs format = .error .noKey ∧ ∃ o result,
        (c.opening manifest w).1 = .ok o ∧ c.outputs o.stage o.frame encoder = .ok result) ∧
    (∀ o graph selection, (c.opening manifest w).1 = .ok o →
      c.outputs o.stage o.frame encoder = .ok (graph, selection) → graph.WellWired) ∧
    (∀ e, (c.graph encoder w).1 ≠ .error (.graph e)) ∧
    (c.graph encoder w).1 ≠ .error .noKey ∧
    ∀ graph, (c.graph encoder w).1 = .ok graph → graph.WellWired := by
  have hgraph := c.yields_graph encoder
  have hformat : ∀ e, PipeFormat.namedArgs format ≠ .error (.graph e) := by
    intro e h
    unfold PipeFormat.namedArgs at h
    repeat' split at h
    all_goals cases h
  refine ⟨fun e h => ?_, fun h => command_fault h rfl, fun o graph selection ho => ?_,
    fun e h => ?_, fun h => ?_, fun graph h => hgraph.post_of_ok h⟩
  · exact hformat e (command_fault h rfl).1
  · exact (outputs_wellWired ho encoder).2 graph selection
  · exact Bool.noConfusion (hgraph.clean w _ h)
  · exact Bool.noConfusion (hgraph.clean w _ h)

end Composition

end Compositor
