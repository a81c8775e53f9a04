import Compositor.Composition.Command
import Compositor.Proofs.Command.Reading
import Compositor.Proofs.Picture.Shape
import Compositor.Proofs.World.Act
import Mathlib.Data.List.Forall2
import Mathlib.Data.List.Nodup

/-!
# The inputs of layers

Each layer contributes the files of its clip, all trimmed the same way, and the numbers
by which the streams of these files are found count the inputs of all layers before it.
-/
namespace Compositor

open Setting (texts ofPair)

/-! ## The files of one clip -/

namespace Foreground

/-- The file of a bundle that has the sound, if there is one. -/
def soundFile (f : Foreground) : Option String :=
  if f.format = .bundle then f.audio.filter fun audio => !audio.isEmpty else none

/-- The files of a clip, in the order of its inputs. -/
def files (f : Foreground) : List String :=
  [f.path] ++ (if f.format = .bundle then [f.mask.getD ""] else []) ++ f.soundFile.toList

/-- The place among the files of a clip of the one that has the sound. -/
def soundPlace (f : Foreground) : Nat := if f.soundFile.isSome then 2 else 0

/-- A clip without any audio file whose complete probe found no sound. -/
def isKnownSilent (f : Foreground) : Bool :=
  (f.audio.getD "").isEmpty &&
    match f.info with
    | some info => info.isComplete && !info.hasAudio
    | none => false

theorem mayHaveAudio_eq (f : Foreground) : f.mayHaveAudio = !f.isKnownSilent := by
  unfold mayHaveAudio isKnownSilent
  cases f.audio <;> cases f.info <;> simp

theorem files_sound (f : Foreground) :
    f.files[f.soundPlace]? = some (f.soundFile.getD f.path) := by
  unfold files soundPlace
  cases h : f.soundFile with
  | none => rfl
  | some file =>
    have hformat : f.format = .bundle := by
      by_contra hne
      rw [soundFile, if_neg hne] at h
      cases h
    rw [if_pos hformat]
    rfl

theorem sources_bundle {f : Foreground} (h : f.format = .bundle) (label : String) :
    f.sources label = [(label ++ "_rgb", f.path), (label ++ "_mask", f.mask.getD "")] ++
      f.soundFile.toList.map fun audio => (label ++ "_audio", audio) := by
  unfold sources soundFile
  rw [h, if_pos rfl]
  cases f.audio with
  | none => rfl
  | some audio => cases hempty : audio.isEmpty <;> simp [Option.filter, hempty]

theorem sources_files (f : Foreground) (label : String) :
    (f.sources label).map Prod.snd = f.files := by
  cases hf : f.format with
  | webm | prores | stacked => simp [sources, files, soundFile, hf]
  | bundle =>
    rw [sources_bundle hf, files, hf]
    cases f.soundFile <;> rfl

/-- The names of the inputs of a layer are set off from its number. -/
theorem sources_name {f : Foreground} {label : String} {source : String × String}
    (h : source ∈ f.sources label) :
    ∃ s, source.1 = label ++ s ∧ s.toList.takeWhile (· != '_') = [] := by
  cases hf : f.format with
  | webm | prores =>
    simp only [sources, hf, List.mem_singleton] at h
    exact ⟨"", by rw [h, String.append_empty], rfl⟩
  | stacked =>
    simp only [sources, hf, List.mem_singleton] at h
    exact ⟨"_stacked", by rw [h], rfl⟩
  | bundle =>
    rw [sources_bundle hf] at h
    simp only [List.mem_append, List.mem_cons, List.not_mem_nil, or_false, List.mem_map] at h
    rcases h with (rfl | rfl) | ⟨audio, -, rfl⟩
    · exact ⟨"_rgb", rfl, rfl⟩
    · exact ⟨"_mask", rfl, rfl⟩
    · exact ⟨"_audio", rfl, rfl⟩

theorem sources_nodup (f : Foreground) (label : String) :
    ((f.sources label).map Prod.fst).Nodup := by
  cases hf : f.format with
  | webm | prores | stacked => simp [sources, hf]
  | bundle =>
    rw [sources_bundle hf]
    cases f.soundFile <;> simp

theorem audioKey_source (f : Foreground) (label : String) :
    ∃ file, (f.sources label)[f.soundPlace]? = some (f.audioKey label, file) := by
  cases hf : f.format with
  | webm | prores | stacked => simp [sources, soundPlace, soundFile, audioKey, hf]
  | bundle =>
    rw [sources_bundle hf, soundPlace, audioKey, hf, soundFile, if_pos hf]
    cases f.audio with
    | none => simp
    | some audio => cases hempty : audio.isEmpty <;> simp [Option.filter, hempty]

end Foreground

/-! ## Tables of inputs -/

/-- In a table of different names, each name is found. -/
theorem InputTable.stream_of_mem {table : InputTable} (hd : (table.map Prod.fst).Nodup)
    {name : String} {index : Int} (h : (name, index) ∈ table) (kind : StreamKind) :
    table.stream name kind = .ok (Pad.input index kind) := by
  have hfind : table.find? (fun e => e.1 == name) = some (name, index) := by
    induction table with
    | nil => cases h
    | cons e table ih =>
      rw [List.map_cons, List.nodup_cons] at hd
      rcases List.mem_cons.mp h with rfl | h
      · simp
      · have hne : e.1 ≠ name := fun he =>
          hd.1 (he ▸ List.mem_map_of_mem (f := Prod.fst) h)
        rw [List.find?_cons_of_neg (by simpa using hne)]
        exact ih hd.2 h
  rw [stream, hfind]

theorem Foreground.numbered_names (first : Int) (sources : List (String × String)) :
    (numbered first sources).map Prod.fst = sources.map Prod.fst := by
  induction sources generalizing first with
  | nil => rfl
  | cons source sources ih => rw [numbered, List.map_cons, List.map_cons, ih]

theorem Foreground.mem_numbered (first : Int) {sources : List (String × String)} {j : Nat}
    {source : String × String} (h : sources[j]? = some source) :
    (source.1, first + j) ∈ numbered first sources := by
  induction sources generalizing first j with
  | nil => cases h
  | cons head sources ih =>
    cases j with
    | zero =>
      obtain rfl : head = source := by simpa using h
      simp [numbered]
    | succ j =>
      have hrest := ih (first + 1) (by simpa using h)
      rw [Int.add_assoc, Int.add_comm 1] at hrest
      exact List.mem_cons_of_mem _ hrest

namespace Composition

/-- The table of the inputs of numbered layers; `first` gives the number of the first
input of each. -/
def layerTable (first : Nat → Int) (layers : List (Layer × Nat)) : InputTable :=
  layers.flatMap fun (l, n) =>
    Foreground.numbered (first n) (l.clip.sources (Foreground.layerLabel (.int n)))

/-- Names of different layers differ, and so do those of one layer. -/
theorem layerTable_nodup (first : Nat → Int) {layers : List (Layer × Nat)}
    (h : (layers.map Prod.snd).Nodup) : ((layerTable first layers).map Prod.fst).Nodup := by
  rw [layerTable, List.map_flatMap]
  simp only [Foreground.numbered_names]
  rw [List.nodup_flatMap]
  refine ⟨fun e _ => e.1.clip.sources_nodup _, ?_⟩
  refine (List.pairwise_map.mp h).imp fun {a b} hne name ha hb => ?_
  obtain ⟨source, hs, rfl⟩ := List.mem_map.mp ha
  obtain ⟨source', hs', he⟩ := List.mem_map.mp hb
  obtain ⟨s, hname, hset⟩ := Foreground.sources_name hs
  obtain ⟨s', hname', hset'⟩ := Foreground.sources_name hs'
  rw [hname, hname'] at he
  exact hne (layerLabel_append_inj hset' hset he).1.symm

/-- The background has a name that no layer has. -/
theorem layerTable_background (first : Nat → Int) (layers : List (Layer × Nat)) :
    backgroundKey ∉ (layerTable first layers).map Prod.fst := by
  intro hmem
  rw [layerTable, List.map_flatMap] at hmem
  simp only [Foreground.numbered_names, List.mem_flatMap, List.mem_map] at hmem
  obtain ⟨e, -, source, hs, he⟩ := hmem
  obtain ⟨s, hname, -⟩ := Foreground.sources_name hs
  rw [hname] at he
  have hchars := congrArg String.toList he
  rw [String.toList_append, layerLabel_toList] at hchars
  simp [backgroundKey] at hchars

/-- The inputs of all layers and of the background are found by their names. -/
theorem inputTable_stream {stage : InputStage} {layers : List Layer} {first : Nat → Int}
    (h : stage.inputs = layerTable first layers.zipIdx) (kind : StreamKind) :
    (inputTable stage).stream backgroundKey kind = .ok (Pad.input 0 kind) ∧
      ∀ (n : Nat) (l : Layer), layers[n]? = some l →
        l.clip.Finds ((inputTable stage).stream · kind) (Foreground.layerLabel (.int n)) (first n)
          kind := by
  have hdistinct : ((inputTable stage).map Prod.fst).Nodup := by
    rw [inputTable, h, List.map_cons, List.nodup_cons]
    refine ⟨layerTable_background _ _, layerTable_nodup _ ?_⟩
    rw [List.zipIdx_map_snd]
    exact List.nodup_range'
  refine ⟨InputTable.stream_of_mem hdistinct List.mem_cons_self kind, ?_⟩
  intro n l hl j source hs
  refine InputTable.stream_of_mem hdistinct (List.mem_cons_of_mem _ ?_) kind
  rw [h, layerTable, List.mem_flatMap]
  exact ⟨(l, n), List.mem_zipIdx_iff_getElem?.mpr hl, Foreground.mem_numbered _ hs⟩

end Composition

/-! ## The groups of a layer -/

/-- The options for a trim: where it begins, and its span if it has an end. -/
def Trim.pairs (trim : Option (Trim Json)) : Except Fault (List (String × String)) :=
  match trim with
  | none => .ok []
  | some ⟨start, none⟩ => .ok [("-ss", start.text)]
  | some ⟨start, some stop⟩ => do
    let span ← Json.sub stop start
    .ok [("-ss", start.text), ("-t", span.text)]

theorem Trim.args_eq (trim : Option (Trim Json)) :
    Trim.args trim = (Trim.pairs trim).map texts := by
  match trim with
  | none | some ⟨_, none⟩ => rfl
  | some ⟨start, some stop⟩ =>
    simp only [args, seek, pairs, Quantity.sub]
    cases Json.sub stop start <;> rfl

theorem Trim.pairs_names {trim : Option (Trim Json)} {pairs : List (String × String)}
    (h : Trim.pairs trim = .ok pairs) : ∀ p ∈ pairs, p.1 = "-ss" ∨ p.1 = "-t" := by
  match trim with
  | none =>
    cases h
    simp
  | some ⟨start, none⟩ =>
    cases h
    simp
  | some ⟨start, some stop⟩ =>
    obtain ⟨span, -, hp⟩ := bind_eq_ok.mp h
    cases hp
    simp

theorem Trim.args_eq_ok {trim : Option (Trim Json)} {args : List String}
    (h : Trim.args trim = .ok args) :
    ∃ pairs, Trim.pairs trim = .ok pairs ∧ args = texts pairs := by
  rw [Trim.args_eq] at h
  cases hp : Trim.pairs trim with
  | error e => rw [hp] at h; cases h
  | ok pairs => rw [hp] at h; cases h; exact ⟨pairs, rfl, rfl⟩

/-- The options that select the decoder with alpha. -/
def alphaDecoding : List (String × String) := [("-c:v", Context.alphaDecoder)]

/-- No options, or those that select the decoder with alpha, where it may be selected. -/
def Decoding (may : Prop) (pairs : List (String × String)) : Prop :=
  pairs = [] ∨ pairs = alphaDecoding ∧ may

theorem Decoding.names {may : Prop} {pairs : List (String × String)} (h : Decoding may pairs) :
    ∀ p ∈ pairs, p.1 = "-c:v" := by
  rcases h with rfl | ⟨rfl, -⟩
  · exact nofun
  · simp [alphaDecoding]

/-- The options of a decoder as arguments. -/
def DecodingArgs (may : Prop) (args : List String) : Prop :=
  ∃ pairs, Decoding may pairs ∧ args = texts pairs

theorem decodingArgs_nil (may : Prop) : DecodingArgs may [] := ⟨[], .inl rfl, rfl⟩

theorem decodingArgs_alpha {may : Prop} (h : may) :
    DecodingArgs may ["-c:v", Context.alphaDecoder] := ⟨_, .inr ⟨rfl, h⟩, rfl⟩

namespace Foreground

/-- Clips whose picture may be read with the decoder for alpha. -/
def MayDecodeAlpha (f : Foreground) : Prop :=
  f.format = .webm ∨ f.format = .bundle ∧ Locator.extension f.path = .ok ".webm"

theorem wantsAlphaDecoder_iff (f : Foreground) :
    f.wantsAlphaDecoder = .ok true ↔ f.MayDecodeAlpha := by
  unfold wantsAlphaDecoder MayDecodeAlpha
  cases hf : f.format with
  | webm => simp
  | prores | stacked => simp
  | bundle =>
    cases Locator.extension f.path with
    | error e => simp [bind, Except.bind]
    | ok ext => simp [bind, Except.bind]

/-- The inputs for some files: all are trimmed, and the first one has its decoder. -/
def groups (decoder trim : List (String × String)) : List String → List InputGroup
  | [] => []
  | first :: rest => ⟨(decoder ++ trim).map ofPair, .str first⟩ ::
      rest.map fun file => ⟨trim.map ofPair, .str file⟩

/-- The inputs of a clip as they are wired. -/
def wired (f : Foreground) (first : Int) (label : String) (args : List String) : InputWiring :=
  ⟨args, numbered first (f.sources label), f.audioKey label⟩

theorem wired_length (f : Foreground) (first : Int) (label : String) (args : List String) :
    (f.wired first label args).inputs.length = f.files.length := by
  have hnames := congrArg List.length (numbered_names first (f.sources label))
  have hfiles := congrArg List.length (sources_files f label)
  rw [List.length_map] at hnames hfiles
  rw [List.length_map] at hnames
  exact hnames.trans hfiles

theorem files_eq_cons (f : Foreground) : ∃ rest, f.files = f.path :: rest := ⟨_, rfl⟩

theorem groups_elements (decoder trim : List (String × String)) (first : String)
    (rest : List String) :
    Argument.ofTexts (texts decoder ++ (first :: rest).flatMap fun file =>
      texts trim ++ ["-i", file]) =
      (groups decoder trim (first :: rest)).flatMap InputGroup.elements := by
  have hrest : Argument.ofTexts (rest.flatMap fun file => texts trim ++ ["-i", file]) =
      (rest.map fun file => (⟨trim.map ofPair, .str file⟩ : InputGroup)).flatMap
        InputGroup.elements := by
    induction rest with
    | nil => rfl
    | cons file rest ih =>
      rw [List.map_cons, List.flatMap_cons, List.flatMap_cons, ← ih, Setting.group_elements,
        Argument.ofTexts_append, Argument.ofTexts_append]
      rfl
  rw [groups, List.flatMap_cons, List.flatMap_cons, ← hrest, Setting.group_elements,
    Setting.texts_append, Argument.ofTexts_append, Argument.ofTexts_append,
    Argument.ofTexts_append, Argument.ofTexts_append, List.append_assoc, List.append_assoc,
    List.append_assoc]
  rfl

theorem yields_decoderArgs (f : Foreground) (context : ContextId) :
    (f.decoderArgs context).Yields (DecodingArgs f.MayDecodeAlpha) := by
  have hclean : Clean f.wantsAlphaDecoder := by
    unfold wantsAlphaDecoder
    split
    · exact clean_ok _
    · exact .bind (Locator.clean_extension _) fun _ => clean_ok _
    · exact clean_ok _
  refine .bind (.ofExcept hclean) fun wants hwants => ?_
  cases wants with
  | false => exact .pure (decodingArgs_nil _)
  | true =>
    refine .bind (Context.yields_hasDecoder _ _) fun keeps _ => .ite ?_ (.pure (decodingArgs_nil _))
    exact .bind (Act.yields_log _ _) fun _ _ =>
      .pure (decodingArgs_alpha (f.wantsAlphaDecoder_iff.mp hwants))

end Foreground

/-- The groups of a layer: its files, all trimmed as the layer says, the first one perhaps
with the decoder for alpha. -/
def Layer.Scoped (l : Layer) (groups : List InputGroup) : Prop :=
  ∃ decoder trim, Trim.pairs l.effectiveTrim = .ok trim ∧
    Decoding l.clip.MayDecodeAlpha decoder ∧
    groups = Foreground.groups decoder trim l.clip.files

theorem Foreground.yields_wiring (l : Layer) (first : Int) (label : String) (context : ContextId)
    {trim : List String} (h : Trim.args l.effectiveTrim = .ok trim) :
    (l.clip.wiring first label context trim).Yields fun wiring => ∃ args groups,
      wiring = l.clip.wired first label args ∧ l.Scoped groups ∧
        Argument.ofTexts args = groups.flatMap InputGroup.elements := by
  obtain ⟨pairs, hpairs, rfl⟩ := Trim.args_eq_ok h
  obtain ⟨rest, hfiles⟩ := l.clip.files_eq_cons
  refine .bind (l.clip.yields_decoderArgs context) ?_
  rintro decoder ⟨decoding, hdecoding, rfl⟩
  refine .pure ?_
  refine ⟨_, _, rfl, ⟨decoding, pairs, hpairs, hdecoding, rfl⟩, ?_⟩
  rw [hfiles, ← groups_elements, ← hfiles, ← sources_files l.clip label, List.flatMap_map]

namespace Composition

/-- The sources of sound of numbered layers. -/
def layerSounds (sound : Layer → Int → Except Fault (List AudioSource)) (first : Nat → Int)
    (layers : List (Layer × Nat)) : Except Fault (List AudioSource) := do
  return (← layers.mapM fun (l, n) => sound l (first n)).flatten

/-- What wiring some layers leaves: the groups of each, the table of their inputs, and
their sources of sound. -/
structure Staged (sound : Layer → Int → Except Fault (List AudioSource)) (first : Nat → Int)
    (layers : List (Layer × Nat)) (stage : InputStage) : Prop where
  args : ∃ groups, List.Forall₂ Layer.Scoped (layers.map Prod.fst) groups ∧
    Argument.ofTexts stage.args = groups.flatten.flatMap InputGroup.elements
  inputs : stage.inputs = layerTable first layers
  audio : layerSounds sound first layers = .ok stage.audio

/-- The layers from the `i`-th on are wired with the inputs that follow those before. -/
theorem yields_wireLayers (context : ContextId)
    {sound : Layer → InputWiring → Except Fault (List AudioSource)}
    {plain : Layer → Int → Except Fault (List AudioSource)}
    (hsound : ∀ l first label args, sound l (l.clip.wired first label args) = plain l first)
    (hclean : ∀ l first, Clean (plain l first)) (first : Nat → Int) {layers : List Layer} {i : Nat}
    (hfirst : ∀ k l, layers[k]? = some l →
      first (i + k + 1) = first (i + k) + l.clip.files.length) :
    (wireLayers context sound i (first i) layers).Yields
      (Staged plain first (layers.zipIdx i)) := by
  induction layers generalizing i with
  | nil => exact .pure ⟨⟨[], .nil, rfl⟩, rfl, rfl⟩
  | cons l layers ih =>
    refine .bind (.ofExcept (Trim.clean_args _)) fun trim htrim => ?_
    refine .bind (Foreground.yields_wiring l _ _ _ htrim) ?_
    rintro wiring ⟨args, groups, rfl, hscoped, hargs⟩
    rw [hsound]
    refine .bind (.ofExcept (hclean l _)) fun audio haudio => ?_
    have hnext : first i +
        (l.clip.wired (first i) (Foreground.layerLabel (.int i)) args).inputs.length =
          first (i + 1) := by
      have hone := hfirst 0 l rfl
      rw [Nat.add_zero] at hone
      rw [hone, Foreground.wired_length]
      rfl
    rw [hnext]
    refine .bind (ih ?_) fun others hothers => .pure ?_
    · intro k l' hl'
      have hstep := hfirst (k + 1) l' hl'
      rwa [Nat.add_left_comm, Nat.add_comm k] at hstep
    · obtain ⟨⟨groups', hscoped', hargs'⟩, hinputs', haudio'⟩ := hothers
      rw [List.zipIdx_cons]
      refine ⟨⟨groups :: groups', .cons hscoped hscoped', ?_⟩, ?_, ?_⟩
      · rw [List.flatten_cons, List.flatMap_append, ← hargs, ← hargs', ← Argument.ofTexts_append]
        rfl
      · rw [layerTable, List.flatMap_cons, hinputs']
        rfl
      · obtain ⟨lists, hlists, hflat⟩ := bind_eq_ok.mp haudio'
        simp only [layerSounds, List.mapM_cons, haudio, hlists, bind, Except.bind, pure,
          Except.pure, List.flatten_cons, ← Except.ok.inj hflat]

/-- The number of the first input of a layer: one for the background, and the files of all
layers before it. -/
def firstInput (layers : List Layer) (n : Nat) : Nat :=
  1 + ((layers.take n).flatMap fun l => l.clip.files).length

theorem firstInput_succ {layers : List Layer} {n : Nat} {l : Layer} (h : layers[n]? = some l) :
    firstInput layers (n + 1) = firstInput layers n + l.clip.files.length := by
  obtain ⟨hn, rfl⟩ := List.getElem?_eq_some_iff.mp h
  rw [firstInput, firstInput, List.take_succ_eq_append_getElem hn, List.flatMap_append,
    List.length_append, List.flatMap_singleton, Nat.add_assoc]

end Composition

namespace Layer

/-- The source of sound of a layer, if its sound is switched on. -/
def sound (l : Layer) (first : Int) : Except Fault (List AudioSource) :=
  if l.audioEnabled.isTruthy then do
    let delay ← delaySeconds (← l.startOffset)
    .ok [⟨Pad.input (first + l.clip.soundPlace) .audio, l.volume, delay, !l.clip.isKnownSilent⟩]
  else .ok []

theorem clean_sound (l : Layer) (first : Int) : Clean (l.sound first) :=
  .ite (.bind l.clean_startOffset fun _ => .bind (clean_delaySeconds _) fun _ => clean_ok _)
    (clean_ok _)

/-- The name under which a layer looks for its sound is in its own table. -/
theorem audioSource_wired (l : Layer) (first : Int) (label : String) (args : List String) :
    l.audioSource (l.clip.wired first label args) = l.sound first := by
  obtain ⟨file, hkey⟩ := l.clip.audioKey_source label
  have hdistinct : ((Foreground.numbered first (l.clip.sources label)).map Prod.fst).Nodup := by
    rw [Foreground.numbered_names]
    exact l.clip.sources_nodup label
  have hstream := InputTable.stream_of_mem hdistinct (Foreground.mem_numbered first hkey) .audio
  unfold audioSource sound
  rw [l.clip.mayHaveAudio_eq]
  split
  · change ((Foreground.numbered first (l.clip.sources label)).stream (l.clip.audioKey label)
      .audio >>= _) = _
    rw [hstream]
    rfl
  · rfl

end Layer

end Compositor
