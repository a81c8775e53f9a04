import Compositor.Proofs.Address.Slashes
import Compositor.Proofs.Export.Tidiness
import Compositor.Proofs.World.Following

/-!
# Foreseeing the command of an export

The command that an export runs can be had without the export: it is the one that is built
without a manifest in any world that agrees on the context. Only the source of a remote
image is another one, because the export reads its copy.
-/
namespace Compositor

/-! ## Copies are not their sources -/

theorem Manifest.path_spaced {id : ManifestId} {before ending : String}
    (hbefore : Path.IsPlain before) (hending : Path.IsPlain ending) {w : World} {p : String}
    (h : (path id ending before w).1 = .ok p) : Path.IsSpaced p := by
  obtain ⟨m, w₁, -, h⟩ := Act.bind_ok h
  obtain ⟨p', w₂, hfile, h⟩ := Act.bind_ok h
  obtain ⟨u, w₃, -, h⟩ := Act.bind_ok h
  cases h
  exact Act.freshFile_spaced hbefore hending (Prod.ext_iff.mp hfile).1

/-- What is fetched has an address, and an address is no path of a stored file. -/
theorem Download.fetch_address {url : String} {timeout : Json} {w : World} {response : Response}
    (h : (fetch url timeout w).1 = .ok response) : ¬ Path.IsSpaced url := by
  obtain ⟨target, htarget, -⟩ := (fetch_aside url timeout w).2 response h
  exact Address.Target.prepare_slashes htarget

namespace Background

variable {id : ManifestId}

/-- The copy of a remote image has a name of its own. -/
theorem stagedImage_apart {source path : String} {w : World}
    (hurl : Locator.sourceType source = .ok .url)
    (h : (stagedImage source id w).1 = .ok path) : path ≠ source := by
  obtain ⟨type, htype, h⟩ := Act.ofExcept_bind_ok h
  obtain rfl : SourceType.url = type := Except.ok.inj (hurl.symm.trans htype)
  obtain ⟨u, w₁, -, h⟩ := Act.bind_ok h
  obtain ⟨response, w₂, hfetch, h⟩ := Act.bind_ok h
  obtain ⟨ext, hext, h⟩ := Act.ofExcept_bind_ok h
  obtain ⟨p, w₃, hpath, h⟩ := Act.bind_ok h
  obtain ⟨u', w₄, -, h⟩ := Act.bind_ok h
  cases h
  obtain ⟨ending, rfl, hending⟩ :=
    Download.extension_plain (fun _ _ => MediaType.extension?_plain)
      (by unfold Path.IsPlain; decide) hext
  have hspaced : Path.IsSpaced path :=
    Manifest.path_spaced (by unfold Path.IsPlain; decide) hending (Prod.ext_iff.mp hpath).1
  rintro rfl
  exact Download.fetch_address (Prod.ext_iff.mp hfetch).1 hspaced

/-- An image that is not remote is its own copy. -/
theorem stagedImage_same {source path : String} {w : World}
    (hurl : Locator.sourceType source ≠ .ok .url)
    (h : (stagedImage source id w).1 = .ok path) : path = source := by
  obtain ⟨type, htype, h⟩ := Act.ofExcept_bind_ok h
  rw [if_neg fun heq => hurl (htype.trans (congrArg Except.ok (eq_of_beq heq)))] at h
  cases h
  rfl

/-! ## The input of the background -/

/-- The second arguments are the first ones, but they name a remote image itself instead of
its copy. -/
inductive Unstaged (remote : String → Prop) : List Argument → List Argument → Prop
  | same (h : ∀ source, ¬ remote source) (args : List Argument) : Unstaged remote args args
  | staged {source path : String} (h : remote source) (hne : path ≠ source) :
    Unstaged remote (copyArgs path) (copyArgs source)

variable {context : ContextId}

theorem leads_decoderArgs (b : Background) :
    (b.decoderArgs context).Leads (b.decoderArgs context) context fun a a' => a' = a := by
  refine .ite (.bind_same .keepsVp9Alpha fun keeps => ?_) (.pure rfl)
  exact .ite (.bind (.log _ _) fun _ _ _ => .pure rfl) (.pure rfl)

theorem leads_imageArgs {b : Background} (hkind : b.kind = .image) :
    (b.imageSource (some id) >>= fun source =>
      (pure ["-loop", "1", "-i", sourceArgument source] : Act (List Argument))).Leads
      (pure (["-loop", "1", "-i", sourceArgument b.source] : List Argument)) context
      (Unstaged b.ShowsRemote) := by
  refine .alone (.bind (b.keeps_imageSource World.tools_hidesTransfers _) fun _ => .pure _)
    fun w args h => ?_
  obtain ⟨answer, w₁, hanswer, h⟩ := Act.bind_ok h
  cases h
  unfold imageSource at hanswer
  cases hsource : b.source with
  | none =>
    rw [hsource] at hanswer
    cases hanswer
    exact .same (fun source h => by simp [ShowsRemote, hsource] at h) _
  | some source =>
    rw [hsource] at hanswer
    obtain ⟨path, w₂, hpath, h⟩ := Act.bind_ok (Prod.ext_iff.mp hanswer).1
    cases h
    by_cases hurl : Locator.sourceType source = .ok .url
    · exact .staged ⟨hkind, hsource, hurl⟩ (stagedImage_apart hurl (Prod.ext_iff.mp hpath).1)
    · rw [stagedImage_same hurl (Prod.ext_iff.mp hpath).1]
      refine .same (fun source' ⟨_, hsource', hurl'⟩ => hurl ?_) _
      rwa [Option.some.inj (hsource.symm.trans hsource')]

/-- The same input comes out without a manifest. -/
theorem leads_inputArgs (b : Background) (width height fps : Json) :
    (b.inputArgs width height fps context (some id)).Leads
      (b.inputArgs width height fps context none) context
      (Unstaged b.ShowsRemote) := by
  unfold inputArgs
  cases hkind : b.kind with
  | image =>
    dsimp only
    rw [b.imageSource_none]
    exact leads_imageArgs hkind
  | color | empty =>
    exact .pure (.same (fun source h => by simp [ShowsRemote, hkind] at h) _)
  | video =>
    have hplain : ∀ source, ¬ b.ShowsRemote source := fun source h => by
      simp [ShowsRemote, hkind] at h
    exact .bind_same b.leads_decoderArgs fun _ => .bind_same (.ofExcept _) fun _ =>
      .pure (.same hplain _)

end Background

theorem Foreground.leads_wiring (f : Foreground) (first : Int) (label : String)
    (trim : List String) {context : ContextId} :
    (f.wiring first label context trim).Leads (f.wiring first label context trim) context
      fun a a' => a' = a := by
  have halpha : (alphaDecoderArgs f.path context).Leads (alphaDecoderArgs f.path context) context
      fun a a' => a' = a :=
    .bind_same .keepsVp9Alpha fun _ =>
      .ite (.bind (.log _ _) fun _ _ _ => .pure rfl) (.pure rfl)
  have hdecoder : (f.decoderArgs context).Leads (f.decoderArgs context) context
      fun a a' => a' = a :=
    .bind_same (.ofExcept _) fun _ => .ite halpha (.pure rfl)
  exact .bind_same hdecoder fun _ => .pure rfl

/-! ## The whole command -/

namespace Composition

variable {id : ManifestId}

/-- The second command is the first one, but it names a remote image itself instead of its
copy. -/
def Foresees (c : Composition) (args args' : List Argument) : Prop :=
  ∃ tool input input' rest, Background.Unstaged c.ShowsRemote input input' ∧
    args = tool :: .str "-y" :: (input ++ rest) ∧ args' = tool :: .str "-y" :: (input' ++ rest)

theorem Foresees.append {c : Composition} {args args' : List Argument}
    (h : c.Foresees args args') (more : List Argument) :
    c.Foresees (args ++ more) (args' ++ more) := by
  obtain ⟨tool, input, input', rest, hinput, rfl, rfl⟩ := h
  exact ⟨tool, input, input', rest ++ more, hinput, by simp, by simp⟩

theorem leads_wireLayers (context : ContextId)
    (sound : Layer → InputWiring → Except Fault (List AudioSource)) (layers : List Layer)
    (i : Nat) (next : Int) :
    (wireLayers context sound i next layers).Leads (wireLayers context sound i next layers)
      context fun a a' => a' = a := by
  induction layers generalizing i next with
  | nil => exact .pure rfl
  | cons l layers ih =>
    exact .bind_same (.ofExcept _) fun _ => .bind_same (Foreground.leads_wiring l.clip _ _ _)
      fun _ => .bind_same (.ofExcept _) fun _ => .bind_same (ih _ _) fun _ => .pure rfl

theorem leads_backgroundArgs (c : Composition) (frame : Frame) :
    (c.backgroundArgs frame (some id)).Leads (c.backgroundArgs frame none) c.context
      (Background.Unstaged c.ShowsRemote) := by
  unfold backgroundArgs
  cases hb : c.background with
  | none => exact .pure (.same (fun source ⟨b, hb', _⟩ => by simp [hb] at hb') _)
  | some b =>
    have hremote : c.ShowsRemote = b.ShowsRemote := by
      funext source
      simp [ShowsRemote, hb]
    rw [hremote]
    exact b.leads_inputArgs _ _ _

theorem leads_opening (c : Composition) :
    (c.opening (some id)).Leads (c.opening none) c.context fun o o' =>
      o'.frame = o.frame ∧ o'.stage = o.stage ∧ c.Foresees o.args o'.args := by
  refine .bind_same (.ofExcept _) fun frame => .bind_same .ofId fun tools => ?_
  refine .bind (c.leads_backgroundArgs frame) fun input input' hinput => ?_
  refine .bind_same (leads_wireLayers _ _ _ _ _) fun stage => .pure ⟨rfl, rfl, ?_⟩
  exact ⟨_, input, input', _, hinput, rfl, rfl⟩

theorem leads_lengthArgs (c : Composition) (context : ContextId) :
    c.lengthArgs.Leads c.lengthArgs context fun a a' => a' = a := by
  refine .bind_same (.ofExcept _) fun rule => ?_
  obtain ⟨d, rule⟩ := rule
  cases d with
  | none => exact .pure rfl
  | some d =>
    exact .ite (.bind_same (.ofExcept _) fun _ => .bind (.log _ _) fun _ _ _ => .pure rfl)
      (.pure rfl)

theorem leads_command (c : Composition) (outPath : Argument) (encoder : EncoderProfile)
    (format : Json) :
    (c.command outPath encoder format (some id)).Leads (c.command outPath encoder format none)
      c.context c.Foresees := by
  refine .bind c.leads_opening fun o o' ⟨hframe, hstage, hargs⟩ => ?_
  rw [hframe, hstage]
  refine .bind_same (.ofExcept _) fun outputs => .bind_same (c.leads_lengthArgs _) fun length =>
    .bind_same (.ofExcept _) fun container => .pure ?_
  exact (hargs.append _).append _

theorem ShowsRemote.source_unique {c : Composition} {source source' : String}
    (h : c.ShowsRemote source) (h' : c.ShowsRemote source') : source = source' := by
  obtain ⟨b, hb, -, hsource, -⟩ := h
  obtain ⟨b', hb', -, hsource', -⟩ := h'
  obtain rfl : b = b' := Option.some.inj (hb.symm.trans hb')
  exact Option.some.inj (hsource.symm.trans hsource')

/-- What is prepared with a manifest comes out without one as well. -/
theorem foresees_prepare {c : Composition} {outPath : Argument} {encoder : EncoderProfile}
    {w v : World} {directory : String} {command : List String}
    (h : c.prepare outPath encoder id (w.withManifest directory) = (.ok command, v)) {w' : World}
    (hw' : World.Agrees c.context w w') :
    ∃ argv, (c.command outPath encoder .null none w').1 = .ok argv ∧
      c.Foresees (Argument.ofTexts command) argv := by
  obtain ⟨arguments, w₁, hrun, hcommand⟩ := Act.bind_ok (Prod.ext_iff.mp h).1
  have hall := Argument.command_ok (Act.ofExcept_ok (Prod.ext hcommand rfl))
  have hagrees : World.Agrees c.context (w.withManifest directory) w' := hw'.of_tools rfl rfl
  obtain ⟨argv, hargv, hforesees, -⟩ :=
    c.leads_command outPath encoder .null _ w' hagrees arguments (by rw [hrun])
  exact ⟨argv, hargv, hall ▸ hforesees⟩

/-- Whenever an export starts the tool, its command can be foreseen in every world that agrees
with the one of the export. Without a remote image it is the same in all elements. With one
it is the same but for the source of the first input, where the export names the file that
it has stored. -/
theorem exports_foreseen (launch : Launch) (c : Composition) (outPath : Argument)
    (encoder : EncoderProfile) (progress verbose : Bool) (w : World) :
    ∃ news, (toFileBy launch c outPath encoder progress verbose w).2.events = w.events ++ news ∧
      ∀ start ∈ Event.starts news, ∃ command v, c.Prepared outPath encoder w command v ∧
        start = .spawn launch command .devnull (outputTarget verbose) (outputTarget verbose)
          (v.present command) ∧
        ∀ w', World.Agrees c.context w w' →
          ∃ argv, (c.command outPath encoder .null none w').1 = .ok argv ∧
            ((∀ source, ¬ c.ShowsRemote source) → argv = Argument.ofTexts command) ∧
            ∀ source, c.ShowsRemote source → ∃ tool path rest response,
              command = tool :: "-y" :: "-loop" :: "1" :: "-i" :: path :: rest ∧
              argv = Argument.ofTexts (tool :: "-y" :: "-loop" :: "1" :: "-i" :: source :: rest) ∧
              path ≠ source ∧ w.Answers source response ∧
              w.files.exists_ path = false ∧ v.files.read path = .ok response.body := by
  obtain ⟨run, hrun, hcourse⟩ := c.exports outPath encoder progress verbose w
  simp only [hrun]
  cases hcourse with
  | homeless => exact ⟨[], (List.append_nil _).symm, nofun⟩
  | unprepared home prepared quiet like =>
    obtain ⟨news, hevents, hnews⟩ := quiet.events
    refine ⟨news, hevents, ?_⟩
    rw [Event.starts_quiet hnews]
    exact nofun
  | @started context command v files manifests home prepared quiet like copied =>
    obtain ⟨news, hevents, hnews⟩ := quiet.events
    refine ⟨news ++ (starting v launch command progress verbose ++
      ending v progress (toolResult command verbose v.nextProcess)),
      by simp only [hevents, List.append_assoc], fun start hstart => ?_⟩
    rw [Event.starts_append, Event.starts_quiet hnews, List.nil_append, starts_run,
      List.mem_singleton] at hstart
    refine ⟨command, v, ⟨context, home, prepared⟩, hstart, fun w' hw' => ?_⟩
    obtain ⟨argv, hargv, tool, input, input', rest, hinput, hargs, rfl⟩ :=
      foresees_prepare prepared hw'
    refine ⟨_, hargv, fun hnone => ?_, fun source hremote => ?_⟩
    · cases hinput with
      | same => exact hargs.symm
      | staged h => exact absurd h (hnone _)
    · obtain ⟨tool', path, rest', ⟨response, hanswers, -, hstored⟩, rfl⟩ := copied.command hremote
      cases hinput with
      | same hnone => exact absurd hremote (hnone source)
      | staged h hne =>
        obtain rfl := h.source_unique hremote
        simp only [Argument.ofTexts, List.map_cons, Background.copyArgs, List.cons_append,
          List.nil_append, List.cons.injEq, Json.str.injEq, true_and] at hargs
        obtain ⟨rfl, rfl, rfl⟩ := hargs
        exact ⟨tool', _, rest', response, rfl, rfl, hne, hanswers, hstored.files.absent,
          hstored.files.read⟩

end Composition

end Compositor
