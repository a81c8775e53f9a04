import Compositor.Proofs.Command.Meaning
import Compositor.Proofs.Sound.Appending
import Compositor.Proofs.World.Consulting

/-!
# Looking at a graph

The graph of the picture can be looked at without a command. Whenever a composition has a
command, it has this graph too, also in a world in which the tool answers otherwise, and the
graph of the command is this one with statements of the sound behind it.
-/
namespace Compositor

variable {α β : Type}

/-! ## Actions that need a context only -/

/-- There is a context with this number. -/
def World.HasContext (w : World) (id : ContextId) : Prop := ∃ c, w.contexts[id.index]? = some c

/-- Asking about decoders removes no context. -/
theorem World.Consulted.hasContext {id : ContextId} {may : Prop} {w w' : World}
    (h : Consulted id may w w') {other : ContextId} (hw : w.HasContext other) :
    w'.HasContext other := by
  obtain ⟨c, hc⟩ := hw
  have hsetup := congrArg (fun l => (l[other.index]?).isSome) h.contexts
  simp only [List.getElem?_map, Option.isSome_map, hc, Option.isSome_some] at hsetup
  exact Option.isSome_iff_exists.mp hsetup

/-- In every world with the context, the action succeeds and leaves the context there. -/
def Act.Completes (x : Act α) (id : ContextId) : Prop :=
  ∀ w, w.HasContext id → (∃ a, (x w).1 = .ok a) ∧ (x w).2.HasContext id

namespace Act.Completes

variable {x : Act α} {id : ContextId}

theorem pure (a : α) : (Pure.pure a : Act α).Completes id := fun _ hw => ⟨⟨a, rfl⟩, hw⟩

theorem bind {f : α → Act β} (hx : x.Completes id) (hf : ∀ a, (f a).Completes id) :
    (x >>= f).Completes id := by
  intro w hw
  obtain ⟨⟨a, ha⟩, hw'⟩ := hx w hw
  rw [bind_apply]
  match hrun : x w with
  | (.ok a, w') =>
    rw [hrun] at hw'
    exact hf a w' hw'
  | (.error e, w') =>
    rw [hrun] at ha
    cases ha

theorem ofExcept_bind {r : Except Fault α} {a : α} {f : α → Act β} (hr : r = .ok a)
    (hf : (f a).Completes id) : (ofExcept r >>= f).Completes id := by
  rw [hr]
  exact hf

theorem ite {p : Prop} [Decidable p] {y : Act α} (hx : x.Completes id) (hy : y.Completes id) :
    (if p then x else y).Completes id := by
  split
  · exact hx
  · exact hy

theorem log (level : LogLevel) (text : String) : (log level text).Completes id := by
  intro w hw
  rw [log_apply]
  exact ⟨⟨(), rfl⟩, hw⟩

/-- The question for the decoder for alpha is always answered. -/
theorem keepsVp9Alpha (id : ContextId) : (Context.keepsVp9Alpha id).Completes id := by
  intro w hw
  refine ⟨?_, (Consults.keepsVp9Alpha trivial w).1.hasContext hw⟩
  obtain ⟨c, hc⟩ := hw
  cases hfound : c.decoders.find? fun d => d.1 == Context.alphaDecoder with
  | none =>
    obtain ⟨runs, news, -, hrun⟩ := Context.hasDecoder_unknown hc hfound
    exact ⟨_, by rw [Context.keepsVp9Alpha, hrun]⟩
  | some d =>
    refine ⟨d.2, ?_⟩
    rw [Context.keepsVp9Alpha, Context.hasDecoder_known hc hfound]

end Act.Completes

/-! ## Wiring without a tool -/

/-- Layers that can be wired, whatever the tool says: the trim can be written, and it can be
told whether the decoder matters. -/
def Layer.Wirable (l : Layer) : Prop :=
  (∃ trim, Trim.args l.effectiveTrim = .ok trim) ∧ ∃ wants, l.clip.wantsAlphaDecoder = .ok wants

theorem Foreground.completes_wiring {f : Foreground} {wants : Bool}
    (h : f.wantsAlphaDecoder = .ok wants) (first : Int) (label : String) (id : ContextId)
    (trim : List String) : (f.wiring first label id trim).Completes id := by
  have halpha : (alphaDecoderArgs f.path id).Completes id :=
    .bind (.keepsVp9Alpha id) fun _ => .ite (.bind (.log _ _) fun _ => .pure _) (.pure _)
  have hdecoder : (f.decoderArgs id).Completes id :=
    .ofExcept_bind h (.ite halpha (.pure _))
  exact .bind hdecoder fun _ => .pure _

theorem Foreground.wiring_ok {f : Foreground} {first : Int} {label : String} {id : ContextId}
    {trim : List String} {w : World} {wiring : InputWiring}
    (h : (f.wiring first label id trim w).1 = .ok wiring) :
    ∃ wants, f.wantsAlphaDecoder = .ok wants := by
  obtain ⟨decoder, w₁, hdecoder, -⟩ := Act.bind_ok h
  obtain ⟨wants, hwants, -⟩ := Act.ofExcept_bind_ok (Prod.ext_iff.mp hdecoder).1
  exact ⟨wants, hwants⟩

namespace Composition

variable {id : ContextId} {layers : List Layer}

theorem wireLayers_ok {sound : Layer → InputWiring → Except Fault (List AudioSource)} {i : Nat}
    {next : Int} {w : World} {stage : InputStage}
    (h : (wireLayers id sound i next layers w).1 = .ok stage) : ∀ l ∈ layers, l.Wirable := by
  induction layers generalizing i next w stage with
  | nil => exact List.forall_mem_nil _
  | cons l layers ih =>
    rw [wireLayers] at h
    obtain ⟨trim, htrim, h⟩ := Act.ofExcept_bind_ok h
    obtain ⟨wiring, w₁, hwiring, h⟩ := Act.bind_ok h
    obtain ⟨audio, -, h⟩ := Act.ofExcept_bind_ok h
    obtain ⟨others, w₂, hothers, -⟩ := Act.bind_ok h
    refine List.forall_mem_cons.mpr ⟨⟨⟨trim, htrim⟩, ?_⟩, ?_⟩
    · exact Foreground.wiring_ok (Prod.ext_iff.mp hwiring).1
    · exact ih (Prod.ext_iff.mp hothers).1

/-- Whoever opens a command has a context and layers that can be wired. -/
theorem opening_ok {c : Composition} {manifest : Option ManifestId} {w : World} {o : Opening}
    (h : (c.opening manifest w).1 = .ok o) :
    w.HasContext c.context ∧ ∀ l ∈ c.layers, l.Wirable := by
  obtain ⟨frame, -, h⟩ := Act.ofExcept_bind_ok h
  obtain ⟨tools, w₁, htools, h⟩ := Act.bind_ok h
  obtain ⟨background, w₂, -, h⟩ := Act.bind_ok h
  obtain ⟨stage, w₃, hstage, -⟩ := Act.bind_ok h
  refine ⟨?_, wireLayers_ok (Prod.ext_iff.mp hstage).1⟩
  cases hcontext : w.contexts[c.context.index]? with
  | some context => exact ⟨context, hcontext⟩
  | none =>
    rw [Context.ofId_missing hcontext] at htools
    cases htools

theorem completes_wireLayers (h : ∀ l ∈ layers, l.Wirable) (i : Nat) (next : Int) :
    (wireLayers id (fun _ _ => .ok []) i next layers).Completes id := by
  induction layers generalizing i next with
  | nil => exact .pure _
  | cons l layers ih =>
    obtain ⟨⟨trim, htrim⟩, wants, hwants⟩ := h l List.mem_cons_self
    refine .ofExcept_bind htrim ?_
    refine .bind (Foreground.completes_wiring hwants _ _ id _) fun wiring => ?_
    refine .ofExcept_bind rfl (.bind (ih (fun l' hl' => h l' (List.mem_cons_of_mem _ hl')) _ _) ?_)
    exact fun _ => .pure _

/-! ## The graph of the picture inside the one of the command -/

/-- The statements of the picture end before those of the sound begin. -/
theorem outputs_split {c : Composition} {stage : InputStage} {frame : Frame}
    {encoder : EncoderProfile} {full : FilterGraph} {selection : List String}
    {sources : List AudioSource} (hsources : c.sources = .ok sources)
    (haudio : sources = stage.audio ++ (c.background.map Background.audioSource).getD [])
    (h : c.outputs stage frame encoder = .ok (full, selection)) :
    ∃ pad shown, c.picture (inputTable stage) frame.canvas encoder .empty = .ok (pad, shown) ∧
      shown.GrowsWith (fun n => n.kind = .audio) full := by
  have hrun := statements_of_outputs h
  obtain ⟨⟨pad, shown⟩, hpicture, hrest⟩ := bind_eq_ok.mp (show (c.picture (inputTable stage)
    frame.canvas encoder .empty >>= fun r => (AudioSource.args (stage.audio ++
      (c.background.map Background.audioSource).getD []) >>= fun audio =>
        (pure (["-map", r.1.mapSpec] ++ audio) : GraphBuilder (List String))) r.2) = _ from hrun)
  obtain ⟨⟨audio, _⟩, hargs, hlast⟩ := bind_eq_ok.mp (show (AudioSource.args (stage.audio ++
      (c.background.map Background.audioSource).getD []) shown >>= fun r =>
        (pure (["-map", pad.mapSpec] ++ r.1) : GraphBuilder (List String)) r.2) = _ from hrest)
  cases hlast
  rw [← haudio] at hargs
  have hkinds : ∀ s ∈ sources, s.pad.kind = .audio :=
    fun s hs => (sources_stream hsources s hs).kind_eq
  exact ⟨pad, shown, hpicture,
    (AudioSource.extends_args (idiom_kind .audio) hkinds shown audio _ hargs).1⟩

/-- Statements of picture and sound as one text, with a semicolon between the two if there
are both. There is no text without statements. -/
def joinedText? (shown : FilterGraph) (sounds : List FilterNode) : Option String :=
  let sound := String.intercalate ";" (sounds.map FilterNode.render)
  match shown.nodes, sounds with
  | [], [] => none
  | _ :: _, [] => some shown.render
  | [], _ :: _ => some sound
  | _ :: _, _ :: _ => some (shown.render ++ ";" ++ sound)

theorem settings_joined {graph shown : FilterGraph} {sounds : List FilterNode}
    (h : graph.nodes = shown.nodes ++ sounds) :
    graph.settings = (joinedText? shown sounds).toList.map fun text =>
      Setting.ofPair ("-filter_complex", text) := by
  unfold FilterGraph.settings FilterGraph.isEmpty FilterGraph.render joinedText?
  rw [h]
  cases hshown : shown.nodes with
  | nil => cases sounds <;> rfl
  | cons n nodes =>
    cases sounds with
    | nil => simp [FilterGraph.render, hshown]
    | cons m sounds =>
      simp only [List.cons_append, List.isEmpty_cons, Bool.false_eq_true, ↓reduceIte,
        Option.toList_some, List.map_cons, List.map_nil, FilterGraph.render, hshown,
        List.map_append]
      rw [← List.cons_append, String.intercalate_append_of_ne_nil (by simp) (by simp)]

/-- The graph of the picture is shown in every world with the context. -/
theorem graph_of_picture {c : Composition} {frame : Frame} {encoder : EncoderProfile} {pad : Pad}
    {inputs : InputTable} {shown : FilterGraph} (hframe : c.frame = .ok frame)
    (hlayers : ∀ l ∈ c.layers, l.Wirable)
    (hinputs : inputs =
      (backgroundKey, 0) :: layerTable (fun n => firstInput c.layers n) c.layers.zipIdx)
    (hpicture : c.picture inputs frame.canvas encoder .empty = .ok (pad, shown)) {v : World}
    (hv : v.HasContext c.context) : (c.graph encoder v).1 = .ok shown := by
  obtain ⟨⟨stage, hstage⟩, -⟩ := completes_wireLayers hlayers 0 1 v hv
  have htable : stage.inputs = layerTable (fun n => firstInput c.layers n) c.layers.zipIdx :=
    ((c.yields_stage (fun _ _ _ _ => rfl) fun _ _ => clean_ok _).post_of_ok hstage).inputs
  obtain ⟨v', hrun⟩ : ∃ v', wireLayers c.context (fun _ _ => .ok []) 0 1 c.layers v =
      (.ok stage, v') := ⟨_, Prod.ext hstage rfl⟩
  have hdrawn : (c.picture (inputTable stage) frame.canvas encoder).run .empty =
      .ok (pad, shown) := by
    rw [StateT.run, inputTable, htable, ← hinputs, hpicture]
  rw [Composition.graph, hframe]
  change ((wireLayers c.context (fun _ _ => .ok []) 0 1 c.layers >>= fun stage => _) v).1 = _
  rw [Act.bind_apply, hrun]
  dsimp only
  rw [hdrawn]
  rfl

/-- Whenever a composition has a command, the graph of its picture can be shown in every
world with its context, and it is the same in all of them. The graph of the command is the
shown one and then statements of the sound, and the text of the two is the value of the
option for the graph, which is left out exactly if there are no statements. -/
theorem graph_shown {c : Composition} {outPath : Argument} {encoder : EncoderProfile}
    {format : Json} {manifest : Option ManifestId} {w : World} {argv : List Argument}
    (h : (c.command outPath encoder format manifest w).1 = .ok argv) :
    ∃ shown sounds frame r graph, w.HasContext c.context ∧
      (∀ v, World.HasContext v c.context → (c.graph encoder v).1 = .ok shown) ∧
      Reading.read argv.tail = some r ∧ c.BuiltFrom encoder manifest w frame r graph ∧
      graph.nodes = shown.nodes ++ sounds ∧ (∀ n ∈ sounds, n.kind = .audio) ∧
      r.settings.filter Setting.carriesGraph =
        (joinedText? shown sounds).toList.map fun text =>
          Setting.ofPair ("-filter_complex", text) := by
  obtain ⟨o, r, hr⟩ := command_renders h
  obtain ⟨args, rfl, hread⟩ := hr.read
  obtain ⟨selection, hbuilt⟩ := hr.built
  obtain ⟨hcontext, hwirable⟩ := opening_ok hr.started
  have hsources : c.sources =
      .ok (o.stage.audio ++ (c.background.map Background.audioSource).getD []) := by
    rw [sources, hr.opened.audio]; rfl
  obtain ⟨pad, shown, hpicture, sounds, hnodes, hkinds⟩ := outputs_split hsources rfl hbuilt
  refine ⟨shown, sounds, o.frame, r.reading outPath, r.graph, hcontext, fun v hv => ?_, hread,
    hr.builtFrom, hnodes, hkinds, ?_⟩
  · exact graph_of_picture hr.opened.frame hwirable (by rw [inputTable, hr.opened.inputs])
      hpicture hv
  · rw [hr.builtFrom.carried, settings_joined hnodes]

theorem graph_shown_crossed : ∃ argv,
    (crossed.command "out.mov" EncoderProfile.h264 .null none ready).1 = .ok argv ∧
    ∃ shown sounds frame r graph, ready.HasContext crossed.context ∧
      (∀ v, World.HasContext v crossed.context →
        (crossed.graph EncoderProfile.h264 v).1 = .ok shown) ∧
      Reading.read argv.tail = some r ∧
      crossed.BuiltFrom EncoderProfile.h264 none ready frame r graph ∧
      graph.nodes = shown.nodes ++ sounds ∧ (∀ n ∈ sounds, n.kind = .audio) ∧
      r.settings.filter Setting.carriesGraph =
        (joinedText? shown sounds).toList.map fun text =>
          Setting.ofPair ("-filter_complex", text) := by
  obtain ⟨argv, h⟩ := crossed_command
  exact ⟨argv, h, graph_shown h⟩

end Composition

end Compositor
