import Compositor.Proofs.Command.Inputs

/-!
# The arguments of a command

A command is read as its inputs, the background first, and then the options of the
output: the graph, the streams of picture and sound, and options that select nothing.
-/
namespace Compositor

open Setting (texts ofPair reserved)

/-! ## The background -/

namespace Background

/-- An input that shows one color for ever, on a canvas. -/
def colorGroup (color : Json) (frame : Frame) : InputGroup :=
  ⟨[ofPair ("-f", "lavfi")], .str ("color=c=" ++ color.text ++ ":size=" ++ frame.width.text ++
    "x" ++ frame.height.text ++ ":rate=" ++ frame.fps.text)⟩

/-- The group of a background. Only a video may be trimmed, and may be read with the
decoder for alpha if it was found to need it. -/
def Scoped (b : Background) (frame : Frame) (manifest : Option ManifestId)
    (group : InputGroup) : Prop :=
  match b.kind with
  | .color => group = colorGroup (.ofOption .str b.color) frame
  | .empty => group = colorGroup transparent frame
  | .image => ∃ source, (manifest = none → source = b.source) ∧
      group = ⟨[ofPair ("-loop", "1")], sourceArgument source⟩
  | .video => ∃ decoder trim, Trim.pairs b.trim = .ok trim ∧
      Decoding ((b.info.map StreamInfo.needsVp9Decoder).getD false = true) decoder ∧
      group = ⟨(decoder ++ trim).map ofPair, sourceArgument b.source⟩

theorem yields_imageSource (b : Background) (manifest : Option ManifestId) :
    (b.imageSource manifest).Yields fun source => manifest = none → source = b.source := by
  have hstaged : ∀ source id, (stagedImage source id).Yields fun _ => True := by
    intro source id
    refine .bind (.ofExcept (Locator.clean_sourceType source)) fun _ _ => .ite ?_ (.pure trivial)
    exact Download.yields_toFile _ (fun _ => Manifest.yields_path _ _ _) _ _
  unfold imageSource
  match b.source, manifest with
  | some source, some id => exact .bind (hstaged source id) fun _ _ => .pure nofun
  | some _, none | none, _ => exact .pure fun _ => rfl

theorem yields_decoderArgs (b : Background) (context : ContextId) :
    (b.decoderArgs context).Yields
      (DecodingArgs ((b.info.map StreamInfo.needsVp9Decoder).getD false = true)) := by
  unfold decoderArgs
  split
  · rename_i hneeds
    refine .bind (Context.yields_hasDecoder _ _) fun keeps _ => .ite ?_ (.pure (decodingArgs_nil _))
    exact .bind (Act.yields_log _ _) fun _ _ => .pure (decodingArgs_alpha hneeds)
  · exact .pure (decodingArgs_nil _)

theorem yields_inputArgs (b : Background) (frame : Frame) (context : ContextId)
    (manifest : Option ManifestId) :
    (b.inputArgs frame.width frame.height frame.fps context manifest).Yields fun args =>
      ∃ group, b.Scoped frame manifest group ∧ args = group.elements := by
  unfold inputArgs Scoped
  cases b.kind with
  | color => exact .pure ⟨_, rfl, rfl⟩
  | empty => exact .pure ⟨_, rfl, rfl⟩
  | image =>
    exact .bind (b.yields_imageSource manifest) fun source hs => .pure ⟨_, ⟨_, hs, rfl⟩, rfl⟩
  | video =>
    refine .bind (b.yields_decoderArgs context) ?_
    rintro _ ⟨decoder, hdecoder, rfl⟩
    refine .bind (.ofExcept (Trim.clean_args _)) fun trim htrim => .pure ?_
    obtain ⟨pairs, hpairs, rfl⟩ := Trim.args_eq_ok htrim
    refine ⟨_, ⟨decoder, pairs, hpairs, hdecoder, rfl⟩, ?_⟩
    rw [Setting.group_elements, Setting.texts_append, Argument.ofTexts_append, List.append_assoc]
    rfl

end Background

/-! ## All inputs -/

theorem spelled_pairs (pairs : List (String × String))
    (h : ∀ p ∈ pairs, p.1 ∉ ["-y", "-an", "-i"]) : ∀ s ∈ pairs.map ofPair, s.Spelled := by
  intro s hs
  obtain ⟨p, hp, rfl⟩ := List.mem_map.mp hs
  exact Setting.spelled_ofPair (h p hp)

theorem spelled_input {may : Prop} {decoder pairs : List (String × String)}
    {trim : Option (Trim Json)} (hd : Decoding may decoder) (ht : Trim.pairs trim = .ok pairs) :
    ∀ s ∈ (decoder ++ pairs).map ofPair, s.Spelled := by
  refine spelled_pairs _ fun p hp => ?_
  rcases List.mem_append.mp hp with hp | hp
  · rw [hd.names p hp]
    decide
  · rcases Trim.pairs_names ht p hp with he | he <;> rw [he] <;> decide

theorem Layer.Scoped.spelled {l : Layer} {groups : List InputGroup} (h : l.Scoped groups) :
    ∀ g ∈ groups, ∀ s ∈ g.settings, s.Spelled := by
  obtain ⟨decoder, trim, htrim, hd, rfl⟩ := h
  obtain ⟨rest, hfiles⟩ := l.clip.files_eq_cons
  rw [hfiles, Foreground.groups]
  intro g hg
  rcases List.mem_cons.mp hg with rfl | hg
  · exact spelled_input hd htrim
  · obtain ⟨file, -, rfl⟩ := List.mem_map.mp hg
    exact spelled_input (.inl rfl : Decoding False []) htrim

/-- The groups of a layer are those of its files. -/
theorem Layer.Scoped.sources {l : Layer} {groups : List InputGroup}
    (h : l.Scoped groups) : groups.map InputGroup.source = l.clip.files.map Json.str := by
  obtain ⟨decoder, trim, -, -, rfl⟩ := h
  obtain ⟨rest, hfiles⟩ := l.clip.files_eq_cons
  rw [hfiles, Foreground.groups, List.map_cons, List.map_map]
  rfl

theorem sources_of_scoped {layers : List Layer} {groups : List (List InputGroup)}
    (h : List.Forall₂ Layer.Scoped layers groups) : groups.flatten.map InputGroup.source =
      (layers.flatMap fun l => l.clip.files).map Json.str := by
  induction h with
  | nil => rfl
  | cons hscoped _ ih =>
    rw [List.flatten_cons, List.map_append, List.flatMap_cons, List.map_append, hscoped.sources,
      ih]

theorem Background.Scoped.spelled {b : Background} {frame : Frame} {manifest : Option ManifestId}
    {group : InputGroup} (h : b.Scoped frame manifest group) : ∀ s ∈ group.settings, s.Spelled := by
  have hcolor : ∀ color, ∀ s ∈ (colorGroup color frame).settings, s.Spelled := fun color =>
    spelled_pairs [("-f", "lavfi")] (by decide)
  unfold Background.Scoped at h
  split at h
  · exact h ▸ hcolor _
  · exact h ▸ hcolor _
  · obtain ⟨source, -, rfl⟩ := h
    exact spelled_pairs [("-loop", "1")] (by decide)
  · obtain ⟨decoder, trim, htrim, hd, rfl⟩ := h
    exact spelled_input hd htrim

theorem exists_of_forall₂ {α β : Type} {r : α → β → Prop} {l : List α} {m : List β}
    (h : List.Forall₂ r l m) {b : β} (hb : b ∈ m) : ∃ a ∈ l, r a b := by
  induction h with
  | nil => cases hb
  | cons hab _ ih =>
    rcases List.mem_cons.mp hb with rfl | hb
    · exact ⟨_, List.mem_cons_self, hab⟩
    · obtain ⟨a, ha, hr⟩ := ih hb
      exact ⟨a, List.mem_cons_of_mem _ ha, hr⟩

namespace Composition

/-- The group of the background of a composition; without one the canvas is transparent. -/
def BackgroundGroup (c : Composition) (frame : Frame) (manifest : Option ManifestId)
    (group : InputGroup) : Prop :=
  match c.background with
  | some b => b.Scoped frame manifest group
  | none => group = Background.colorGroup Background.transparent frame

/-- The groups of all inputs. The first one is preceded by the flag of the whole command. -/
def inputGroups (background : InputGroup) (layers : List (List InputGroup)) : List InputGroup :=
  ⟨⟨"-y", none⟩ :: background.settings, background.source⟩ :: layers.flatten

/-- The beginning of a command: the tool, and the inputs of background and layers. -/
structure Opened (c : Composition) (manifest : Option ManifestId) (tool : Argument)
    (backdrop : InputGroup) (groups : List (List InputGroup)) (o : Opening) : Prop where
  frame : c.frame = .ok o.frame
  background : c.BackgroundGroup o.frame manifest backdrop
  layers : List.Forall₂ Layer.Scoped c.layers groups
  args : o.args = tool :: (inputGroups backdrop groups).flatMap InputGroup.elements
  inputs : o.stage.inputs = layerTable (fun n => firstInput c.layers n) c.layers.zipIdx
  audio : layerSounds Layer.sound (fun n => firstInput c.layers n) c.layers.zipIdx =
    .ok o.stage.audio

variable {c : Composition} {manifest : Option ManifestId} {tool : Argument} {o : Opening}
variable {backdrop : InputGroup} {groups : List (List InputGroup)}

theorem BackgroundGroup.spelled {frame : Frame} {group : InputGroup}
    (h : c.BackgroundGroup frame manifest group) :
    ∀ s ∈ group.settings, s.Spelled := by
  unfold BackgroundGroup at h
  split at h
  · exact h.spelled
  · exact h ▸ spelled_pairs [("-f", "lavfi")] (by decide)

theorem Opened.spelled (h : c.Opened manifest tool backdrop groups o) :
    ∀ g ∈ inputGroups backdrop groups, ∀ s ∈ g.settings, s.Spelled := by
  intro g hg
  rcases List.mem_cons.mp hg with rfl | hg
  · exact List.forall_mem_cons.mpr ⟨⟨rfl, by decide⟩, h.background.spelled⟩
  · obtain ⟨group, hgroup, hg⟩ := List.mem_flatten.mp hg
    obtain ⟨l, -, hscoped⟩ := exists_of_forall₂ h.layers hgroup
    exact hscoped.spelled g hg

theorem Opened.sources (h : c.Opened manifest tool backdrop groups o) :
    (inputGroups backdrop groups).map InputGroup.source =
      backdrop.source :: (c.layers.flatMap fun l => l.clip.files).map Json.str := by
  rw [inputGroups, List.map_cons, sources_of_scoped h.layers]

/-- Counting the inputs leads to the files of each layer. -/
theorem Opened.source_at (h : c.Opened manifest tool backdrop groups o) {n : Nat} {l : Layer}
    (hl : c.layers[n]? = some l) {j : Nat} {file : String} (hj : l.clip.files[j]? = some file) :
    ((inputGroups backdrop groups)[firstInput c.layers n + j]?).map InputGroup.source =
      some (.str file) := by
  obtain ⟨hn, rfl⟩ := List.getElem?_eq_some_iff.mp hl
  have hj' := (List.getElem?_eq_some_iff.mp hj).1
  -- the files of the layers before, of this one, and of those behind it
  have hfiles : c.layers.flatMap (fun l => l.clip.files) =
      (c.layers.take n).flatMap (fun l => l.clip.files) ++ (c.layers[n].clip.files ++
        (c.layers.drop (n + 1)).flatMap fun l => l.clip.files) := by
    conv_lhs => rw [← List.take_append_drop n c.layers, List.drop_eq_getElem_cons hn,
      List.flatMap_append, List.flatMap_cons]
  rw [← List.getElem?_map, h.sources, firstInput, Nat.add_assoc, Nat.add_comm 1,
    List.getElem?_cons_succ, List.getElem?_map, hfiles,
    List.getElem?_append_right (Nat.le_add_right _ _), Nat.add_sub_cancel_left,
    List.getElem?_append_left hj', hj]
  rfl

theorem yields_backgroundArgs (c : Composition) (frame : Frame) (manifest : Option ManifestId) :
    (c.backgroundArgs frame manifest).Yields fun args =>
      ∃ group, c.BackgroundGroup frame manifest group ∧ args = group.elements := by
  unfold backgroundArgs BackgroundGroup
  cases c.background with
  | some b => exact b.yields_inputArgs frame c.context manifest
  | none => exact .pure ⟨_, rfl, rfl⟩

theorem yields_stage (c : Composition)
    {sound : Layer → InputWiring → Except Fault (List AudioSource)}
    {plain : Layer → Int → Except Fault (List AudioSource)}
    (hsound : ∀ l first label args, sound l (l.clip.wired first label args) = plain l first)
    (hclean : ∀ l first, Clean (plain l first)) :
    (wireLayers c.context sound 0 1 c.layers).Yields
      (Staged plain (fun n => firstInput c.layers n) c.layers.zipIdx) := by
  refine yields_wireLayers c.context hsound hclean (fun n => firstInput c.layers n) ?_
  intro k l hl
  rw [Nat.zero_add, firstInput_succ hl, Int.natCast_add]

theorem yields_opening (c : Composition) (manifest : Option ManifestId) :
    (c.opening manifest).Yields fun o =>
      ∃ tool backdrop groups, c.Opened manifest tool backdrop groups o := by
  refine .bind (.ofExcept c.clean_frame) fun frame hframe => ?_
  refine .bind (Context.yields_ofId _) fun tools _ => ?_
  refine .bind (c.yields_backgroundArgs frame manifest) ?_
  rintro _ ⟨group, hgroup, rfl⟩
  refine .bind (c.yields_stage Layer.audioSource_wired Layer.clean_sound) ?_
  rintro stage ⟨⟨groups, hgroups, hargs⟩, hinputs, haudio⟩
  rw [List.zipIdx_map_fst] at hgroups
  refine .pure ⟨tools.ffmpeg, group, groups, hframe, hgroup, hgroups, ?_, hinputs, haudio⟩
  rw [inputGroups, List.flatMap_cons, hargs]
  rfl

end Composition

end Compositor
