import Compositor.Proofs.Command.Rendering

/-!
# The inputs of a command

The options of a command belong to the input behind them. Each layer has the inputs of
its own files with its own trim, and the numbers in the table of inputs are the places
of these files among all inputs.
-/
namespace Compositor.Composition

/-- The inputs of a reading: the background and, for each layer in the order in which they
were added, the files of its clip with the options of that layer. The `j`-th name of a layer in the
table of inputs has the number of the `j`-th input of that layer, also when other layers have
inputs from the same file. -/
structure InputsOf (c : Composition) (manifest : Option ManifestId) (o : Opening) (r : Reading)
    (backdrop : InputGroup) (groups : List (List InputGroup)) : Prop where
  inputs : r.inputs = inputGroups backdrop groups
  background : c.BackgroundGroup o.frame manifest backdrop
  layers : List.Forall₂ Layer.Scoped c.layers groups
  table : ∀ (n j : Nat) (l : Layer) (source : String × String), c.layers[n]? = some l →
    (l.clip.sources (Foreground.layerLabel (.int n)))[j]? = some source →
      (r.inputs[firstInput c.layers n + j]?).map InputGroup.source = some (.str source.2) ∧
      ∀ kind, (inputTable o.stage).stream source.1 kind =
        .ok (Pad.input (firstInput c.layers n + j : Nat) kind)

/-- The options and the numbers of the inputs are those of the composition. -/
theorem inputs_scoped {c : Composition} {outPath : Argument} {encoder : EncoderProfile}
    {format : Json} {manifest : Option ManifestId} {w : World} {argv : List Argument}
    (h : (c.command outPath encoder format manifest w).1 = .ok argv) :
    ∃ o r backdrop groups, (c.opening manifest w).1 = .ok o ∧ Reading.read argv.tail = some r ∧
      r.target = outPath ∧ c.InputsOf manifest o r backdrop groups := by
  obtain ⟨o, r, hr⟩ := command_renders h
  obtain ⟨args, rfl, hread⟩ := hr.read
  refine ⟨o, r.reading outPath, r.backdrop, r.groups, hr.started, hread, rfl, rfl,
    hr.opened.background, hr.opened.layers, ?_⟩
  intro n j l source hl hj
  have hfile : l.clip.files[j]? = some source.2 := by
    rw [← Foreground.sources_files l.clip (Foreground.layerLabel (.int n)), List.getElem?_map, hj]
    rfl
  refine ⟨hr.opened.source_at hl hfile, fun kind => ?_⟩
  exact (inputTable_stream hr.opened.inputs kind).2 n l hl j source hj

/-- One clip with its alpha in the stream, to which a file with sound is attached. -/
def attached : Composition where
  background := none
  layers := [Layer.ofClip "clip" ⟨.webm, "a.webm", none, some "a.m4a", none, false, none⟩ 0]
  hint := some ⟨.int 640, .int 360, .int 30⟩
  length := none
  context := ⟨0⟩

/-- A world with one context, whose tool is known to have the decoder for alpha. -/
def ready : World :=
  { World.initial with
    contexts := [⟨"ffmpeg", "ffprobe", "/tmp/one", [(Context.alphaDecoder, true)]⟩] }

/-- The inputs of the command for `attached` are the canvas and the clip. -/
theorem attached_inputs : ∃ argv r,
    (attached.command "out.mp4" EncoderProfile.h264 .null none ready).1 = .ok argv ∧
    Reading.read argv.tail = some r ∧ r.inputs.map (fun g => g.source.text) =
      ["color=c=black@0.0:size=640x360:rate=30", "a.webm"] := by
  have hrun : ((attached.command "out.mp4" EncoderProfile.h264 .null none ready).1.toOption.bind
      fun argv => (Reading.read argv.tail).map fun r => r.inputs.map fun g => g.source.text) =
      some ["color=c=black@0.0:size=640x360:rate=30", "a.webm"] := by decide +kernel
  obtain ⟨argv, hargv, hmap⟩ := Option.bind_eq_some_iff.mp hrun
  obtain ⟨r, hread, hinputs⟩ := Option.map_eq_some_iff.mp hmap
  exact ⟨argv, r, ok_of_toOption hargv, hread, hinputs⟩

theorem inputs_scoped_attached : ∃ argv,
    (attached.command "out.mp4" EncoderProfile.h264 .null none ready).1 = .ok argv ∧
    ∃ o r backdrop groups, (attached.opening none ready).1 = .ok o ∧
      Reading.read argv.tail = some r ∧ r.target = "out.mp4" ∧
      attached.InputsOf none o r backdrop groups := by
  obtain ⟨argv, r, h, -⟩ := attached_inputs
  exact ⟨argv, h, inputs_scoped h⟩

/-- A file with sound is no input of a clip that is not a bundle. -/
theorem sound_file_left_out : ¬ ∀ (c : Composition) (outPath : Argument) (encoder : EncoderProfile)
    (format : Json) (manifest : Option ManifestId) (w : World) (argv : List Argument) (r : Reading),
    (c.command outPath encoder format manifest w).1 = .ok argv → Reading.read argv.tail = some r →
    ∀ l ∈ c.layers, ∀ audio, l.clip.audio = some audio → audio ≠ "" →
      ∃ g ∈ r.inputs, g.source = .str audio := by
  intro hall
  obtain ⟨argv, r, h, hread, hinputs⟩ := attached_inputs
  obtain ⟨g, hg, hsource⟩ := hall _ _ _ _ _ _ _ _ h hread _ List.mem_cons_self "a.m4a" rfl
    (by decide)
  have hmem : "a.m4a" ∈ r.inputs.map fun g => g.source.text :=
    List.mem_map.mpr ⟨g, hg, by rw [hsource]; rfl⟩
  rw [hinputs] at hmem
  exact absurd hmem (by decide)

end Compositor.Composition
