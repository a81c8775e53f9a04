import Compositor.Proofs.Command.Outputs

/-!
# Commands and their readings

A command that is returned reads as the inputs of its composition, and as output options
that select its picture and its sound.
-/
namespace Compositor

open Setting (texts ofPair reserved)

/-! ## Options that select nothing -/

/-- Names and values, none under one of the given names. -/
def Avoids (names args : List String) : Prop :=
  ∃ pairs, args = texts pairs ∧ ∀ p ∈ pairs, p.1 ∉ names

namespace Avoids

variable {names : List String}

theorem nil : Avoids names [] := ⟨[], rfl, nofun⟩

theorem append {a b : List String} (ha : Avoids names a) (hb : Avoids names b) :
    Avoids names (a ++ b) := by
  obtain ⟨pairs, rfl, h⟩ := ha
  obtain ⟨pairs', rfl, h'⟩ := hb
  refine ⟨pairs ++ pairs', (Setting.texts_append _ _).symm, fun p hp => ?_⟩
  exact (List.mem_append.mp hp).elim (h p) (h' p)

/-- One name and its value. -/
theorem pair {name : String} (h : name ∉ names) (value : String) : Avoids names [name, value] :=
  ⟨[(name, value)], rfl, by simpa using h⟩

end Avoids

/-- The names that neither a codec nor a container has: they select streams or limit them. -/
def Setting.streamwise : List String := "-t" :: reserved

theorem EncoderProfile.codecArgs_avoids (p : EncoderProfile) :
    Avoids Setting.streamwise p.codecArgs := by
  have hquality : ∀ default, Avoids Setting.streamwise (p.quality default) :=
    fun _ => .pair (by decide) _
  have hx264 : Avoids Setting.streamwise p.x264 :=
    ((Avoids.pair (by decide) _).append (hquality 18)).append
      ((Avoids.pair (by decide) _).append (.pair (by decide) _))
  unfold codecArgs
  cases p.kind with
  | h264 | stackedVideo => exact hx264
  | vp9 => exact ((Avoids.pair (by decide) _).append (hquality 32)).append (.pair (by decide) _)
  | transparentWebm =>
    exact ((Avoids.pair (by decide) _).append (hquality 28)).append
      ⟨[("-b:v", "0"), ("-pix_fmt", "yuva420p"), ("-auto-alt-ref", "0")], rfl, by decide⟩
  | prores4444 =>
    exact ⟨[("-c:v", "prores_ks"), ("-profile:v", "4"), ("-pix_fmt", "yuva444p10le")], rfl,
      by decide⟩
  | pngSequence =>
    have hpng : Avoids Setting.streamwise ["-c:v", "png", "-pix_fmt", "rgba"] :=
      ⟨[("-c:v", "png"), ("-pix_fmt", "rgba")], rfl, by decide⟩
    cases p.fps with
    | none => exact hpng.append .nil
    | some fps =>
      refine hpng.append ?_
      dsimp only
      split
      · exact .nil
      · exact .pair (by decide) _

theorem PipeFormat.namedArgs_avoids {format : Json} {args : List String}
    (h : namedArgs format = .ok args) : Avoids Setting.streamwise args := by
  have hargs : ∀ f : PipeFormat, Avoids Setting.streamwise f.args := by
    intro f
    cases f with
    | fragmentedMp4 =>
      exact ⟨[("-f", "mp4"), ("-movflags", "frag_keyframe+empty_moov")], rfl, by decide⟩
    | _ => exact .pair (by decide) _
  unfold namedArgs at h
  split at h
  · cases h
    exact .nil
  · split at h
    · split at h
      · cases h
        exact hargs _
      · cases h
    · cases h
    · cases h
    · cases h

/-- The options for the length: one, if there is a length that is not zero. -/
def Composition.lengthPairs : Option Json → List (String × String)
  | some d => if d.isTruthy then [("-t", d.text)] else []
  | none => []

theorem Composition.yields_lengthArgs (c : Composition) :
    c.lengthArgs.Yields fun args => ∃ d, c.duration = .ok d ∧ args = texts (lengthPairs d) := by
  refine .bind (.ofExcept c.clean_lengthRule) fun rule hrule => ?_
  obtain ⟨d, rule⟩ := rule
  have hduration : c.duration = .ok d := by
    rw [duration, hrule]
    rfl
  cases d with
  | none => exact .pure ⟨none, hduration, rfl⟩
  | some d =>
    dsimp only
    by_cases ht : d.isTruthy = true
    · have hargs : ["-t", d.text] = texts (lengthPairs (some d)) := by simp [lengthPairs, ht, texts]
      rw [if_pos ht]
      refine .bind (.ofExcept d.clean_onePlaceText) fun shown _ => ?_
      exact .bind (Act.yields_log _ _) fun _ _ => .pure ⟨some d, hduration, hargs⟩
    · have hargs : [] = texts (lengthPairs (some d)) := by simp [lengthPairs, ht, texts]
      rw [if_neg ht]
      exact .pure ⟨some d, hduration, hargs⟩

theorem Composition.lengthPairs_names (d : Option Json) : ∀ p ∈ lengthPairs d, p.1 = "-t" := by
  unfold lengthPairs
  split
  · split <;> simp
  · simp

/-! ## The whole command -/

/-- The option that carries a graph, unless it is empty. -/
def FilterGraph.settings (graph : FilterGraph) : List Setting :=
  if graph.isEmpty then [] else [ofPair ("-filter_complex", graph.render)]

/-- The option that carries the graph. -/
def Setting.carriesGraph (s : Setting) : Bool := s.name == "-filter_complex"

/-- The options that select a stream, or say that there is none. -/
def Setting.selects (s : Setting) : Bool := s.name == "-map" || s.name == "-an"

/-- The one option for the sound. -/
def Sounding.setting : Sounding → Setting
  | .silent => ⟨"-an", none⟩
  | .direct pad => ofPair ("-map", pad.label ++ "?")
  | .mixed _ => ofPair ("-map", Pad.sound.mapSpec)

theorem Sounding.setting_elements (sound : Sounding) :
    sound.setting.elements = Argument.ofTexts sound.selection := by
  cases sound <;> rfl

theorem Sounding.setting_spelled (sound : Sounding) : sound.setting.Spelled := by
  cases sound with
  | silent => exact ⟨rfl, by decide⟩
  | _ => exact Setting.spelled_ofPair (by simp)

theorem FilterGraph.settings_elements (graph : FilterGraph) :
    graph.settings.flatMap Setting.elements = Argument.ofTexts (Composition.graphArgs graph) := by
  unfold settings Composition.graphArgs
  split <;> rfl

theorem FilterGraph.eq_of_mem_settings {graph : FilterGraph} {s : Setting}
    (h : s ∈ graph.settings) : s = ofPair ("-filter_complex", graph.render) := by
  unfold settings at h
  split at h
  · cases h
  · exact List.mem_singleton.mp h

/-- The parts of a command. -/
structure Rendering where
  tool : Argument
  backdrop : InputGroup
  groups : List (List InputGroup)
  graph : FilterGraph
  picture : Pad
  sound : Sounding
  others : List (String × String)

namespace Rendering

/-- The options of the output. -/
def settings (r : Rendering) : List Setting :=
  r.graph.settings ++ [ofPair ("-map", r.picture.mapSpec), r.sound.setting] ++ r.others.map ofPair

theorem settings_elements (r : Rendering) :
    r.settings.flatMap Setting.elements = Argument.ofTexts (Composition.graphArgs r.graph ++
      (["-map", r.picture.mapSpec] ++ r.sound.selection) ++ texts r.others) := by
  simp only [settings, List.flatMap_append, List.flatMap_cons, List.flatMap_nil, List.append_nil,
    r.graph.settings_elements, r.sound.setting_elements, ← Setting.elements_ofPairs,
    Argument.ofTexts_append, List.append_assoc]
  rfl

theorem settings_spelled {r : Rendering} (h : ∀ p ∈ r.others, p.1 ∉ reserved) :
    ∀ s ∈ r.settings, s.Spelled := by
  intro s hs
  simp only [settings, List.mem_append, List.mem_cons, List.not_mem_nil, or_false] at hs
  rcases hs with (hs | rfl | rfl) | hs
  · unfold FilterGraph.settings at hs
    split at hs
    · cases hs
    · rw [List.mem_singleton.mp hs]
      exact Setting.spelled_ofPair (by simp)
  · exact Setting.spelled_ofPair (by simp)
  · exact r.sound.setting_spelled
  · refine spelled_pairs _ (fun p hp hm => h p hp ?_) s hs
    simp only [reserved, List.mem_cons, List.not_mem_nil, or_false] at hm ⊢
    tauto

theorem others_filter {names : List String} {others : List (String × String)}
    (h : ∀ e ∈ others, e.1 ∉ names) {p : Setting → Bool} (hp : ∀ s, p s = true → s.name ∈ names) :
    (others.map ofPair).filter p = [] := by
  rw [List.filter_eq_nil_iff]
  intro s hm hs
  obtain ⟨e, he, rfl⟩ := List.mem_map.mp hm
  exact h e he (hp _ hs)

/-- The graph is the value of the one option for it. -/
theorem settings_graph {r : Rendering} (h : ∀ p ∈ r.others, p.1 ∉ reserved) :
    r.settings.filter Setting.carriesGraph = r.graph.settings := by
  have hothers := others_filter (p := Setting.carriesGraph) h fun s hs => by
    rw [eq_of_beq hs]
    decide
  have hgraph : r.graph.settings.filter Setting.carriesGraph = r.graph.settings := by
    unfold FilterGraph.settings
    split <;> rfl
  have hsound : r.sound.setting.carriesGraph = false := by cases r.sound <;> rfl
  rw [settings, List.filter_append, List.filter_append, hothers, hgraph, List.append_nil,
    List.filter_cons_of_neg (by simp [Setting.carriesGraph, ofPair]), List.filter_cons_of_neg
    (by simp [hsound]), List.filter_nil, List.append_nil]

/-- Two options select streams: the first selects the picture, the other one is for the
sound. -/
theorem settings_selecting {r : Rendering} (h : ∀ p ∈ r.others, p.1 ∉ reserved) :
    r.settings.filter Setting.selects =
      [ofPair ("-map", r.picture.mapSpec), r.sound.setting] := by
  have hothers := others_filter (p := Setting.selects) h fun s hs => by
    rcases Bool.or_eq_true_iff.mp hs with hs | hs <;> rw [eq_of_beq hs] <;> decide
  have hgraph : r.graph.settings.filter Setting.selects = [] := by
    unfold FilterGraph.settings
    split <;> rfl
  have hsound : r.sound.setting.selects = true := by cases r.sound <;> rfl
  rw [settings, List.filter_append, List.filter_append, hothers, hgraph, List.append_nil,
    List.nil_append, List.filter_cons_of_pos (by simp [Setting.selects, ofPair]),
    List.filter_cons_of_pos hsound, List.filter_nil]

def reading (r : Rendering) (target : Argument) : Reading :=
  ⟨Composition.inputGroups r.backdrop r.groups, r.settings, target⟩

end Rendering

namespace Composition

/-- A command that renders a composition, with its parts. -/
structure Renders (c : Composition) (encoder : EncoderProfile) (manifest : Option ManifestId)
    (outPath : Argument) (w : World) (argv : List Argument) (o : Opening) (r : Rendering) :
    Prop where
  started : (c.opening manifest w).1 = .ok o
  opened : c.Opened manifest r.tool r.backdrop r.groups o
  built : ∃ selection, c.outputs o.stage o.frame encoder = .ok (r.graph, selection)
  wires : c.Wires o.frame encoder r.graph r.picture r.sound
  ordinary : ∀ p ∈ r.others, p.1 ∉ reserved
  read : ∃ args, argv = r.tool :: args ∧ Reading.read args = some (r.reading outPath)

/-- A command that is returned has parts; its last options are those for the length, and then
those of the codec and the container. -/
theorem command_parts {c : Composition} {outPath : Argument} {encoder : EncoderProfile}
    {format : Json} {manifest : Option ManifestId} {w : World} {argv : List Argument}
    (h : (c.command outPath encoder format manifest w).1 = .ok argv) :
    ∃ o r d coding, c.Renders encoder manifest outPath w argv o r ∧ c.duration = .ok d ∧
      r.others = lengthPairs d ++ coding ∧ ∀ p ∈ coding, p.1 ∉ Setting.streamwise := by
  obtain ⟨o, w₁, ho, h⟩ := Act.bind_ok h
  obtain ⟨⟨graph, selection⟩, w₂, hout, h⟩ := Act.bind_ok h
  obtain ⟨length, w₃, hlength, h⟩ := Act.bind_ok h
  obtain ⟨container, w₄, hcontainer, h⟩ := Act.bind_ok h
  have hstarted : (c.opening manifest w).1 = .ok o := by rw [ho]
  obtain ⟨tool, backdrop, groups, hopened⟩ := (c.yields_opening manifest).post_of_ok hstarted
  obtain ⟨pad, sound, hwires, rfl⟩ :=
    (outputs_wires hopened encoder).2 graph selection (Act.ofExcept_ok hout)
  obtain ⟨d, hduration, rfl⟩ := c.yields_lengthArgs.post_of_ok (w := w₂) (by rw [hlength])
  have hf := PipeFormat.namedArgs_avoids (Act.ofExcept_ok hcontainer)
  obtain ⟨coding, hcoding, hnames⟩ := encoder.codecArgs_avoids.append hf
  have hordinary : ∀ p ∈ lengthPairs d ++ coding, p.1 ∉ reserved := by
    intro p hp
    rcases List.mem_append.mp hp with hp | hp
    · rw [lengthPairs_names d p hp]
      decide
    · exact fun hm => hnames p hp (List.mem_cons_of_mem _ hm)
  let r : Rendering := ⟨tool, backdrop, groups, graph, pad, sound, lengthPairs d ++ coding⟩
  refine ⟨o, r, d, coding, ⟨hstarted, hopened, ⟨_, Act.ofExcept_ok hout⟩, hwires, hordinary, _, ?_,
    Reading.read_elements hopened.spelled (Rendering.settings_spelled hordinary) outPath⟩,
    hduration, rfl, hnames⟩
  have hargv : argv = o.args ++ Argument.ofTexts (graphArgs graph ++
      (["-map", pad.mapSpec] ++ sound.selection) ++ texts (lengthPairs d) ++ encoder.codecArgs ++
        container) ++ [outPath] := (Except.ok.inj h).symm
  rw [hargv, hopened.args, r.settings_elements]
  simp only [r, Setting.texts_append, ← hcoding, List.append_assoc, List.cons_append]

theorem command_renders {c : Composition} {outPath : Argument} {encoder : EncoderProfile}
    {format : Json} {manifest : Option ManifestId} {w : World} {argv : List Argument}
    (h : (c.command outPath encoder format manifest w).1 = .ok argv) :
    ∃ o r, c.Renders encoder manifest outPath w argv o r := by
  obtain ⟨o, r, -, -, hr, -⟩ := command_parts h
  exact ⟨o, r, hr⟩

end Composition

end Compositor
