import Compositor.Proofs.Command.Scoping

/-!
# What a command renders

The graph of a returned command, unfolded from the pads that the command selects, is the
picture and the sound of the composition, applied to the files of its own layers.
-/
namespace Compositor.Composition

open Setting (ofPair)

/-- A reading with the graph that its composition builds. -/
structure BuiltFrom (c : Composition) (encoder : EncoderProfile) (manifest : Option ManifestId)
    (w : World) (frame : Frame) (r : Reading) (graph : FilterGraph) : Prop where
  frame_eq : c.frame = .ok frame
  built : ∃ o selection, (c.opening manifest w).1 = .ok o ∧
    c.outputs o.stage frame encoder = .ok (graph, selection)
  /-- The graph is the value of its option, which is left out when it is empty. -/
  carried : r.settings.filter Setting.carriesGraph = graph.settings
  /-- Counting inputs leads to the files of each layer. -/
  own : ∀ n l j file, c.layers[n]? = some l → l.clip.files[j]? = some file →
    (r.inputs[firstInput c.layers n + j]?).map InputGroup.source = some (.str file)

theorem Renders.builtFrom {c : Composition} {encoder : EncoderProfile}
    {manifest : Option ManifestId} {outPath : Argument} {w : World} {argv : List Argument}
    {o : Opening} {r : Rendering} (h : c.Renders encoder manifest outPath w argv o r) :
    c.BuiltFrom encoder manifest w o.frame (r.reading outPath) r.graph where
  frame_eq := h.opened.frame
  built := h.built.elim fun selection hb => ⟨o, selection, h.started, hb⟩
  carried := Rendering.settings_graph h.ordinary
  own := fun _ _ _ _ hl hj => h.opened.source_at hl hj

/-- What a reading shows: its first selection is a pad that unfolds to the picture of the
layers, drawn in rising order of their heights, those of equal height as they were added. -/
structure Shows (c : Composition) (encoder : EncoderProfile) (frame : Frame) (r : Reading)
    (graph : FilterGraph) (pad : Pad) (layers : List (Nat × Layer)) (picture : Term) : Prop where
  selected : ∃ sound, r.settings.filter Setting.selects = [ofPair ("-map", pad.mapSpec), sound]
  perm : layers.Perm c.numbered
  sorted : layers.Pairwise Above
  drawn_eq : drawn frame.canvas (fun n => firstInput c.layers n) layers
    (Foreground.streamTerm 0 .video) = .ok picture
  unfolds_iff : ∀ t, graph.Unfolds pad t ↔ t = finished encoder picture

/-- The picture of a command is exactly the one that its layers stand for, each applied to
its own inputs. -/
theorem picture_meaning {c : Composition} (hz : ∀ l ∈ c.layers, ∃ n, l.z = .int n)
    {outPath : Argument} {encoder : EncoderProfile} {format : Json} {manifest : Option ManifestId}
    {w : World} {argv : List Argument}
    (h : (c.command outPath encoder format manifest w).1 = .ok argv) :
    ∃ frame r graph pad layers picture, Reading.read argv.tail = some r ∧
      c.BuiltFrom encoder manifest w frame r graph ∧
      c.Shows encoder frame r graph pad layers picture := by
  obtain ⟨o, r, hr⟩ := command_renders h
  obtain ⟨args, rfl, hread⟩ := hr.read
  obtain ⟨layers, picture, hlayers, hdrawn, hunfolds⟩ := hr.wires.picture
  obtain ⟨layers', hlayers', hperm, hsorted⟩ := ordered_stable hz
  obtain rfl : layers' = layers := by
    rw [hlayers] at hlayers'
    exact (Except.ok.inj hlayers').symm
  exact ⟨o.frame, r.reading outPath, r.graph, r.picture, layers', picture, hread, hr.builtFrom,
    ⟨r.sound.setting, Rendering.settings_selecting hr.ordinary⟩, hperm, hsorted, hdrawn,
    fun t => hunfolds.iff_eq t⟩

/-- Two clips, of which the one added later lies below. -/
def crossed : Composition where
  background := none
  layers := [{ Layer.ofClip "over" ⟨.webm, "a.webm", none, none, none, false, none⟩ 1 with
      opacity := 0.5 },
    Layer.ofClip "under" ⟨.stacked, "b.mp4", none, none, none, false, none⟩ 0]
  hint := some ⟨.int 640, .int 360, .int 30⟩
  length := none
  context := ⟨0⟩

theorem crossed_command : ∃ argv,
    (crossed.command "out.mov" EncoderProfile.h264 .null none ready).1 = .ok argv := by
  have hrun : (crossed.command "out.mov" EncoderProfile.h264 .null none ready).1.toOption.isSome =
      true := by decide +kernel
  obtain ⟨argv, h⟩ := Option.isSome_iff_exists.mp hrun
  exact ⟨argv, ok_of_toOption h⟩

theorem picture_meaning_crossed : (∀ l ∈ crossed.layers, ∃ n, l.z = .int n) ∧ ∃ argv,
    (crossed.command "out.mov" EncoderProfile.h264 .null none ready).1 = .ok argv ∧
    ∃ frame r graph pad layers picture, Reading.read argv.tail = some r ∧
      crossed.BuiltFrom EncoderProfile.h264 none ready frame r graph ∧
      crossed.Shows EncoderProfile.h264 frame r graph pad layers picture := by
  have hz : ∀ l ∈ crossed.layers, ∃ n, l.z = .int n := by
    intro l hl
    rcases List.mem_cons.mp hl with rfl | hl
    · exact ⟨1, rfl⟩
    · rw [List.mem_singleton.mp hl]
      exact ⟨0, rfl⟩
  obtain ⟨argv, h⟩ := crossed_command
  exact ⟨hz, argv, h, picture_meaning hz h⟩

/-- What is heard of a reading: the one option for the sound follows from the sources, and
a mix is what its link unfolds to. -/
structure Heard (c : Composition) (r : Reading) (graph : FilterGraph)
    (sources : List AudioSource) (sound : Sounding) : Prop where
  /-- The sound of a layer comes from the input of its sound file, if it has one, or else
  from the one of its picture. -/
  place : ∀ (n : Nat) (l : Layer), c.layers[n]? = some l →
    (r.inputs[firstInput c.layers n + l.clip.soundPlace]?).map InputGroup.source =
      some (.str (l.clip.soundFile.getD l.clip.path))
  selected : ∃ picture, r.settings.filter Setting.selects =
    [ofPair ("-map", picture), sound.setting]
  sources_eq : c.sources = .ok sources
  sounding_eq : AudioSource.sounding sources = .ok sound
  unfolds_iff : ∀ t, sound = .mixed t → ∀ u, graph.Unfolds Pad.sound u ↔ u = t

/-- The sound of a command is that of its sources: a stream as it is, nothing, or exactly
their mix. -/
theorem sound_meaning {c : Composition} {outPath : Argument} {encoder : EncoderProfile}
    {format : Json} {manifest : Option ManifestId} {w : World} {argv : List Argument}
    (h : (c.command outPath encoder format manifest w).1 = .ok argv) :
    ∃ frame r graph sources sound, Reading.read argv.tail = some r ∧
      c.BuiltFrom encoder manifest w frame r graph ∧ c.Heard r graph sources sound := by
  obtain ⟨o, r, hr⟩ := command_renders h
  obtain ⟨args, rfl, hread⟩ := hr.read
  obtain ⟨sources, hsources, hsound⟩ := hr.wires.sounding
  refine ⟨o.frame, r.reading outPath, r.graph, sources, r.sound, hread, hr.builtFrom,
    fun n l hl => hr.opened.source_at hl l.clip.files_sound,
    ⟨r.picture.mapSpec, Rendering.settings_selecting hr.ordinary⟩, hsources, hsound, ?_⟩
  intro t ht u
  have hheard := hr.wires.heard
  rw [ht] at hheard
  exact FilterGraph.Unfolds.iff_eq hheard u

theorem sound_meaning_crossed : ∃ argv,
    (crossed.command "out.mov" EncoderProfile.h264 .null none ready).1 = .ok argv ∧
    ∃ frame r graph sources sound, Reading.read argv.tail = some r ∧
      crossed.BuiltFrom EncoderProfile.h264 none ready frame r graph ∧
      crossed.Heard r graph sources sound := by
  obtain ⟨argv, h⟩ := crossed_command
  exact ⟨argv, h, sound_meaning h⟩

/-- A file with sound is not heard with a clip that is not a bundle, although the clip is
the only source and nothing is done to its sound. -/
theorem sound_file_not_heard : ¬ ∀ (c : Composition) (outPath : Argument)
    (encoder : EncoderProfile) (format : Json) (manifest : Option ManifestId) (w : World)
    (argv : List Argument) (r : Reading),
    (c.command outPath encoder format manifest w).1 = .ok argv → Reading.read argv.tail = some r →
    ∀ l audio, c.layers = [l] → c.background.isNone → l.audioEnabled.isTruthy →
      l.startOffset = .ok (.real 0) → l.volume = 1 → l.clip.audio = some audio → audio ≠ "" →
      ∃ n : Nat, (r.inputs[n]?).map InputGroup.source = some (.str audio) ∧
        ofPair ("-map", (Pad.input n .audio).label ++ "?") ∈ r.settings := by
  intro hall
  obtain ⟨argv, r, h, hread, hinputs⟩ := attached_inputs
  obtain ⟨n, hn, -⟩ := hall _ _ _ _ _ _ _ _ h hread _ "a.m4a" rfl rfl rfl rfl rfl rfl (by decide)
  obtain ⟨g, hg, hsource⟩ := Option.map_eq_some_iff.mp hn
  have hmem : "a.m4a" ∈ r.inputs.map fun g => g.source.text :=
    List.mem_map.mpr ⟨g, List.mem_of_getElem? hg, by rw [hsource]; rfl⟩
  rw [hinputs] at hmem
  exact absurd hmem (by decide)

end Compositor.Composition
