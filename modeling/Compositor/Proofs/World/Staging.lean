import Compositor.Background
import Compositor.Proofs.Address.Slashes
import Compositor.Proofs.World.Consulting
import Compositor.Proofs.World.Naming
import Compositor.Proofs.World.Trees

/-!
# Staging a file

A remote image is stored in a fresh file before a command can name it. Whatever goes wrong
on the way, the file is either not there or is listed in the manifest of the export, and
releasing the manifest brings the files back to what they were.
-/
namespace Compositor

variable {α β : Type}

/-! ## What stays as it is -/

/-- The start of a process, and what the caller of an export is told. -/
def Event.isExport : Event → Bool
  | .spawn .. | .progress .. => true
  | _ => false

namespace World

/-- No process was started, and the caller was told nothing. -/
structure Quiet (w w' : World) : Prop where
  processes : w'.processes = w.processes
  events : ∃ news, w'.events = w.events ++ news ∧ ∀ e ∈ news, e.isExport = false

/-- Files and manifests are as before. -/
structure Aside (w w' : World) : Prop extends Quiet w w' where
  files : w'.files = w.files
  manifests : w'.manifests = w.manifests

/-- A file was stored at a fresh path, which the manifest lists. -/
structure Stored (id : ManifestId) (path : String) (c : Content) (w w' : World) : Prop
    extends Quiet w w' where
  files : w.files.Holding path c w'.files
  manifests : w'.manifests =
    w.manifests.modify id.index fun m => { m with paths := m.paths ++ [path] }

/-- At most one file was stored. -/
def Pending (id : ManifestId) (w w' : World) : Prop :=
  Aside w w' ∨ ∃ path c, Stored id path c w w'

variable {id : ManifestId} {path : String} {c : Content} {w w' w'' : World}

theorem Quiet.refl (w : World) : Quiet w w := ⟨rfl, [], (List.append_nil _).symm, nofun⟩

theorem Quiet.trans (h : Quiet w w') (h' : Quiet w' w'') : Quiet w w'' := by
  obtain ⟨news, hevents, hnews⟩ := h.events
  obtain ⟨news', hevents', hnews'⟩ := h'.events
  refine ⟨h'.processes.trans h.processes, news ++ news', ?_, ?_⟩
  · rw [hevents', hevents, List.append_assoc]
  · intro e he
    exact (List.mem_append.mp he).elim (hnews e) (hnews' e)

theorem Aside.refl (w : World) : Aside w w := ⟨.refl w, rfl, rfl⟩

theorem Aside.trans (h : Aside w w') (h' : Aside w' w'') : Aside w w'' :=
  ⟨h.toQuiet.trans h'.toQuiet, h'.files.trans h.files, h'.manifests.trans h.manifests⟩

theorem Stored.aside (h : Stored id path c w w') (h' : Aside w' w'') : Stored id path c w w'' :=
  ⟨h.toQuiet.trans h'.toQuiet, h'.files ▸ h.files, h'.manifests.trans h.manifests⟩

theorem Aside.stored (h : Aside w w') (h' : Stored id path c w' w'') : Stored id path c w w'' :=
  ⟨h.toQuiet.trans h'.toQuiet, h.files ▸ h'.files, h.manifests ▸ h'.manifests⟩

theorem Aside.pending (h : Aside w w') (h' : Pending id w' w'') : Pending id w w'' :=
  h'.imp h.trans fun ⟨path, c, hstored⟩ => ⟨path, c, h.stored hstored⟩

theorem Pending.aside (h : Pending id w w') (h' : Aside w' w'') : Pending id w w'' :=
  h.imp (·.trans h') fun ⟨path, c, hstored⟩ => ⟨path, c, hstored.aside h'⟩

/-- Asking for decoders leaves files and manifests as they are. -/
theorem Consulted.aside {context : ContextId} {may : Prop} (h : Consulted context may w w') :
    Aside w w' := by
  obtain ⟨news, hevents, hnews⟩ := h.events
  refine ⟨⟨h.processes, news, hevents, fun e he => ?_⟩, h.files, h.manifests⟩
  cases hmessage : e.isMessage with
  | true => cases e <;> first | rfl | cases hmessage
  | false =>
    have hdeed : e ∈ Event.deeds news := List.mem_filter.mpr ⟨he, by simp [hmessage]⟩
    rcases hnews with ⟨-, hnone⟩ | ⟨-, -, -, tool, -, hone⟩
    · rw [hnone] at hdeed
      cases hdeed
    · rw [hone, List.mem_singleton] at hdeed
      rw [hdeed]
      rfl

end World

theorem Act.log_aside (level : LogLevel) (text : String) (w : World) :
    World.Aside w (Act.log level text w).2 :=
  ((Act.Consults.log level text : (Act.log level text).Consults ⟨0⟩ False False) w).1.aside

/-! ## Actions that stage -/

/-- The action stores at most one file, also when it fails, and the manifest lists it. The
relation `post` holds of the answer and of the worlds before and behind the action. -/
def Act.Stages (x : Act α) (id : ManifestId) (post : α → World → World → Prop) : Prop :=
  ∀ w m, w.manifests[id.index]? = some m →
    World.Pending id w (x w).2 ∧ ∀ a, (x w).1 = .ok a → post a w (x w).2

namespace Act.Stages

variable {x : Act α} {id : ManifestId} {needs : Prop} {post : α → World → World → Prop}
  {f : α → Act β} {post' : β → World → World → Prop}

theorem of_aside (hx : ∀ w, World.Aside w (x w).2)
    (hpost : ∀ a w, (x w).1 = .ok a → post a w (x w).2) : x.Stages id post :=
  fun w _ _ => ⟨.inl (hx w), fun a => hpost a w⟩

theorem of_consults {context : ContextId} (hx : x.Consults context True needs)
    (hpost : ∀ a w w', post a w w') : x.Stages id post :=
  .of_aside (fun w => (hx w).1.aside) fun a w _ => hpost a w _

theorem weaken {post' : α → World → World → Prop} (hx : x.Stages id post)
    (h : ∀ a w w', post a w w' → post' a w w') : x.Stages id post' :=
  fun w m hm => (hx w m hm).imp_right fun hok a ha => h a w _ (hok a ha)

/-- What follows goes on in the world in which a file may be stored already. -/
theorem bind (hx : x.Stages id post)
    (hf : ∀ a w w', World.Pending id w w' → post a w w' →
      World.Pending id w (f a w').2 ∧ ∀ b, (f a w').1 = .ok b → post' b w (f a w').2) :
    (x >>= f).Stages id post' := by
  intro w m hm
  obtain ⟨hpending, hok⟩ := hx w m hm
  rw [bind_apply]
  match hrun : x w with
  | (.error e, w') =>
    rw [hrun] at hpending
    exact ⟨hpending, nofun⟩
  | (.ok a, w') =>
    rw [hrun] at hpending hok
    exact hf a w w' hpending (hok a rfl)

/-- An action that asks for decoders at most may follow the staging. -/
theorem before (context : ContextId) (hx : x.Stages id post)
    (hf : ∀ a, (f a).Consults context True needs)
    (hpost : ∀ a b w w' w'', post a w w' → World.Aside w' w'' → (f a w').1 = .ok b →
      post' b w w'') : (x >>= f).Stages id post' := by
  refine hx.bind fun a w w' hpending hw => ?_
  have haside := (hf a w').1.aside
  exact ⟨hpending.aside haside, fun b hb => hpost a b w w' _ hw haside hb⟩

/-- An action that stores nothing comes before the staging. -/
theorem after {next : α → β → World → World → Prop} (hx : ∀ w, World.Aside w (x w).2)
    (hf : ∀ a, (f a).Stages id (next a))
    (hpost : ∀ a b w w' w'', x w = (.ok a, w') → World.Aside w w' → next a b w' w'' →
      post' b w w'') : (x >>= f).Stages id post' := by
  intro w m hm
  have haside := hx w
  rw [bind_apply]
  match hrun : x w with
  | (.error e, w') =>
    rw [hrun] at haside
    exact ⟨.inl haside, nofun⟩
  | (.ok a, w') =>
    rw [hrun] at haside
    obtain ⟨hpending, hok⟩ := hf a w' m (haside.manifests ▸ hm)
    exact ⟨haside.pending hpending, fun b hb => hpost a b w w' _ hrun haside (hok b hb)⟩

theorem ofExcept_bind {r : Except Fault α} (hf : ∀ a, r = .ok a → (f a).Stages id post') :
    (ofExcept r >>= f).Stages id post' := by
  cases r with
  | ok a => exact hf a rfl
  | error e => exact fun w m hm => ⟨.inl (.refl w), nofun⟩

theorem ofId_bind {context : ContextId} {f : Context → Act β}
    (hf : ∀ c, (f c).Stages id post') : (Context.ofId context >>= f).Stages id post' := by
  intro w m hm
  rw [bind_apply]
  cases hc : w.contexts[context.index]? with
  | none =>
    rw [Context.ofId_missing hc]
    exact ⟨.inl (.refl w), nofun⟩
  | some c =>
    rw [Context.ofId_apply hc]
    exact hf c w m hm

end Act.Stages

/-! ## Fetching -/

namespace World

/-- The response to the next request for an address, when all redirects have been followed. -/
def Answers (w : World) (url : String) (response : Response) : Prop :=
  ∃ target, Address.Target.prepare url [] = .ok target ∧
    (w.courseOf ⟨"GET", target, [], .none⟩).outcome = .ok response

/-- The next answer for an address is the response to its request, if it sends nobody on. -/
theorem answers_of_reply {w : World} {url target : String} {reply : HttpReply} {left : Replies}
    {response : Response} (htarget : Address.Target.prepare url [] = .ok target)
    (htake : takeReply ("GET " ++ target) w.exchanges = some (reply, left))
    (houtcome : reply.outcome = .ok response) (hstays : response.onward = .stays) :
    w.Answers url response := by
  refine ⟨target, htarget, ?_⟩
  have hkey : Sending.key ⟨"GET", target, [], .none⟩ = "GET " ++ target := rfl
  have hturn : reply.turn = .done (.ok response) := by
    rw [HttpReply.turn, houtcome]
    dsimp only
    rw [hstays]
  rw [courseOf, settle, hkey, htake]
  dsimp only
  rw [hturn]

end World

theorem Act.send_aside (r : Request) (w : World) : World.Aside w (send r w).2 ∧
    ∀ response place, (send r w).1 = .ok (.ok (response, place)) →
      ∃ target, Address.Target.prepare r.url r.fields = .ok target ∧
        (w.courseOf ⟨r.method, target, r.headers, r.body⟩).outcome = .ok response := by
  rcases send_cases r w with ⟨e, hsend⟩ | ⟨target, htarget, hsend⟩
  · rw [hsend]
    exact ⟨.refl w, nofun⟩
  · rw [hsend]
    refine ⟨⟨⟨rfl, _, rfl, fun e he => ?_⟩, rfl, rfl⟩, fun response place h => ?_⟩
    · have htransfer := Sending.transfers_of_mem_record he
      cases e with
      | request | hop => rfl
      | _ => cases htransfer
    · exact ⟨target, htarget, Ending.outcome_of_answer h⟩

theorem Download.fetch_aside (url : String) (timeout : Json) (w : World) :
    World.Aside w (fetch url timeout w).2 ∧
      ∀ response, (fetch url timeout w).1 = .ok response → w.Answers url response := by
  obtain ⟨haside, hanswer⟩ := Act.send_aside ⟨"GET", url, [], [], .none, timeout⟩ w
  unfold fetch
  rw [Act.bind_apply]
  match hsend : Act.send ⟨"GET", url, [], [], .none, timeout⟩ w with
  | (.error e, w') =>
    rw [hsend] at haside
    exact ⟨haside, nofun⟩
  | (.ok (.error e), w') =>
    rw [hsend] at haside
    exact ⟨haside, nofun⟩
  | (.ok (.ok (response, place)), w') =>
    rw [hsend] at haside hanswer
    dsimp only
    cases response.checkStatus place with
    | error e => exact ⟨haside, nofun⟩
    | ok u =>
      refine ⟨haside, fun response' h => ?_⟩
      cases h
      exact hanswer response place rfl

/-! ## Fresh files -/

/-- Names are tried until one can be used; only that one changes the files. -/
theorem Act.claim_apply (make : FileTree → String → Except SystemError FileTree)
    (pathFor : String → Except Fault String) (tries : Nat) (w : World) :
    (∃ e names, claim make pathFor tries w = (.error e, { w with names })) ∨
      ∃ path names files, claim make pathFor tries w = (.ok path, { w with names, files }) ∧
        make w.files path = .ok files ∧
        ∃ number : Nat, pathFor ("n" ++ toString number) = .ok path := by
  induction tries generalizing w with
  | zero => exact .inl ⟨_, w.names, rfl⟩
  | succ tries ih =>
    unfold claim
    have hname : freshName w = (.ok ("n" ++ toString w.names), { w with names := w.names + 1 }) :=
      rfl
    rw [bind_apply, hname]
    dsimp only
    rw [bind_apply]
    cases hpath : pathFor ("n" ++ toString w.names) with
    | error e => exact .inl ⟨e, w.names + 1, rfl⟩
    | ok path =>
      dsimp only [ofExcept]
      rw [pure_apply]
      dsimp only
      rw [get_bind]
      dsimp only
      cases hmake : make w.files path with
      | ok files => exact .inr ⟨path, w.names + 1, files, rfl, hmake, w.names, hpath⟩
      | error e =>
        cases e with
        | exists_ text => exact ih { w with names := w.names + 1 }
        | _ => exact .inl ⟨_, w.names + 1, rfl⟩

/-- The name of a fresh file stands between two texts. -/
theorem Act.freshFile_path {directory before ending : String} {w : World} {path : String}
    (h : (freshFile directory before ending w).1 = .ok path) : ∃ number : Nat,
    path = Path.joinFrom w.platform.roots (Path.normal directory)
      (before ++ ("n" ++ toString number) ++ ending) := by
  rw [freshFile, getThe_bind] at h
  obtain ⟨tries, w₁, -, h⟩ := bind_ok h
  rcases claim_apply FileTree.create _ tries w₁ with
    ⟨e, names, hrun⟩ | ⟨path', names, files, hrun, -, number, hpath⟩
  · rw [hrun] at h
    cases h
  · rw [hrun] at h
    cases h
    cases hpath
    exact ⟨number, rfl⟩

theorem Act.freshFile_spaced {directory before ending : String} (hbefore : Path.IsPlain before)
    (hending : Path.IsPlain ending) {w : World} {path : String}
    (h : (freshFile directory before ending w).1 = .ok path) : Path.IsSpaced path := by
  obtain ⟨number, rfl⟩ := freshFile_path h
  have hn : Path.IsPlain "n" := by unfold Path.IsPlain; decide
  exact Path.spaced_joinFrom (Path.spaced_normal directory)
    ((hbefore.append (hn.append (Path.plain_toString number))).append hending)

/-- A fresh file is new. -/
theorem Act.freshFile_apply (directory : String) (before after : Json) (w : World) :
    (∃ e names, freshFile directory before after w = (.error e, { w with names })) ∨
      ∃ path names files,
        freshFile directory before after w = (.ok path, { w with names, files }) ∧
        w.files.create path = .ok files := by
  rw [freshFile, getThe_bind, tries]
  have htries : (do return (← get).files.entries.length + 1 : Act Nat) w =
      (.ok (w.files.entries.length + 1), w) := rfl
  rw [bind_apply, htries]
  exact (claim_apply FileTree.create _ _ w).imp_right
    fun ⟨path, names, files, hclaim, hmake, _⟩ => ⟨path, names, files, hclaim, hmake⟩

/-- The path of a manifest is the place of a new file, which the manifest lists. -/
theorem Manifest.path_apply {id : ManifestId} {w : World} {m : Manifest}
    (hm : w.manifests[id.index]? = some m) (suffix start : Json) :
    (∃ e names, path id suffix start w = (.error e, { w with names })) ∨
      ∃ p names files, path id suffix start w = (.ok p, { w with
          names, files
          manifests := w.manifests.modify id.index fun m => { m with paths := m.paths ++ [p] } }) ∧
        w.files.create p = .ok files := by
  rw [path, Act.bind_apply, ofId_apply hm]
  dsimp only
  rw [Act.bind_apply]
  rcases Act.freshFile_apply m.directory start suffix w with
    ⟨e, names, hrun⟩ | ⟨p, names, files, hrun, hcreate⟩
  · rw [hrun]
    exact .inl ⟨e, names, rfl⟩
  · rw [hrun]
    exact .inr ⟨p, names, files, rfl, hcreate⟩

theorem Manifest.stages_path (id : ManifestId) (suffix start : Json) :
    (path id suffix start).Stages id fun p => World.Stored id p (.bytes []) := by
  intro w m hm
  rcases path_apply hm suffix start with ⟨e, names, hrun⟩ | ⟨p, names, files, hrun, hcreate⟩
  · rw [hrun]
    exact ⟨.inl ⟨⟨rfl, [], (List.append_nil _).symm, nofun⟩, rfl, rfl⟩, nofun⟩
  · rw [hrun]
    have hstored : World.Stored id p (.bytes []) w { w with
        names, files
        manifests := w.manifests.modify id.index fun m => { m with paths := m.paths ++ [p] } } :=
      ⟨⟨rfl, [], (List.append_nil _).symm, nofun⟩, FileTree.create_holding hcreate, rfl⟩
    exact ⟨.inr ⟨_, _, hstored⟩, fun p hp => Except.ok.inj hp ▸ hstored⟩

/-! ## Storing -/

/-- The body of a response is stored in the file as far as it arrives. -/
theorem Download.store_stored (url : String) (response : Response) {id : ManifestId}
    {path : String} {c : Content} {w w' : World} (h : World.Stored id path c w w') :
    World.Stored id path response.body w (store url path response w').2 ∧
      ((store url path response w').1 = .ok () → response.cut = none) := by
  obtain ⟨files, hwrite, hfiles⟩ := h.files.write response.body
  have hwritten : World.Stored id path response.body w { w' with files } :=
    ⟨⟨h.processes, h.events⟩, hfiles, h.manifests⟩
  rw [store, Act.getThe_bind, hwrite]
  dsimp only
  rw [Act.bind_apply, Act.modify_apply]
  dsimp only
  unfold Response.whole
  cases response.cut with
  | some failure => exact ⟨hwritten, nofun⟩
  | none => exact ⟨hwritten.aside (Act.log_aside _ _ _), fun _ => rfl⟩

/-- An image was copied whole into a fresh file of the manifest. -/
def World.Copied (id : ManifestId) (source path : String) (w w' : World) : Prop :=
  ∃ response, w.Answers source response ∧ response.cut = none ∧
    Stored id path response.body w w'

theorem World.Copied.aside {id : ManifestId} {source path : String} {w w' w'' : World}
    (h : Copied id source path w w') (h' : Aside w' w'') : Copied id source path w w'' :=
  h.imp fun _ ⟨hanswers, hwhole, hstored⟩ => ⟨hanswers, hwhole, hstored.aside h'⟩

/-- An image is downloaded into a fresh file of the manifest. -/
theorem Download.stages_toFile (id : ManifestId) (url : String) :
    (toFile url (fun ext => Manifest.path id ext "downloaded_image_") ".png" (.int 30)).Stages id
      fun path => World.Copied id url path := by
  have hstore (response : Response) (ext : Json) :
      (Manifest.path id ext "downloaded_image_" >>= fun path =>
        store url path response >>= fun _ => pure path).Stages id
        fun path w w' => response.cut = none ∧ World.Stored id path response.body w w' := by
    refine .bind (Manifest.stages_path id ext _) fun path w w' _ hfresh => ?_
    obtain ⟨hstored, hwhole⟩ := store_stored url response hfresh
    rw [Act.bind_apply]
    match hrun : store url path response w' with
    | (.error e, v) =>
      rw [hrun] at hstored
      exact ⟨.inr ⟨path, response.body, hstored⟩, nofun⟩
    | (.ok u, v) =>
      rw [hrun] at hstored hwhole
      refine ⟨.inr ⟨path, response.body, hstored⟩, fun p hp => ?_⟩
      cases hp
      exact ⟨hwhole rfl, hstored⟩
  have hfetch : (fetch url (.int 30) >>= fun response =>
      Act.ofExcept (extension MediaType.extension? (response.header? "Content-Type") url ".png") >>=
        fun ext => Manifest.path id ext "downloaded_image_" >>= fun path =>
          store url path response >>= fun _ => pure path).Stages id
        fun path => World.Copied id url path := by
    refine .after (fun w => (fetch_aside url _ w).1)
      (fun response => .ofExcept_bind fun ext _ => hstore response ext)
      fun response path w w' w'' hrun haside ⟨hwhole, hstored⟩ => ?_
    have hanswers := (fetch_aside url (.int 30) w).2 response (by rw [hrun])
    exact ⟨response, hanswers, hwhole, haside.stored hstored⟩
  refine .after (fun w => Act.log_aside _ _ w) (fun _ => hfetch)
    fun u path w w' w'' hrun haside ⟨response, hanswers, hwhole, hstored⟩ => ?_
  rw [Act.debug, Act.log_apply] at hrun
  cases hrun
  exact ⟨response, hanswers, hwhole, haside.stored hstored⟩

/-! ## Releasing -/

theorem FileTree.Like.refl (t : FileTree) : Like t t := ⟨fun _ _ => rfl, fun _ _ _ => rfl⟩

namespace Manifest

theorem deleteFile_apply {t t' : FileTree} {path : String} {c : Content}
    (h : t.Holding path c t') : ∃ files, t.Like files ∧
      ∀ w : World, w.files = t' → deleteFile path w = (.ok (), { w with files }) := by
  obtain ⟨files, hremove, hlike⟩ := h.remove
  have hexists : t'.exists_ path = true := by
    rw [FileTree.exists_, h.entry]
    rfl
  refine ⟨files, hlike, fun w hw => ?_⟩
  rw [deleteFile, Act.getThe_bind, hw, if_pos hexists, hremove]
  rfl

/-- Releasing a manifest removes the file that was stored, if there is one. It never fails,
and it looks at the files and the manifests only. -/
theorem release_apply {id : ManifestId} {directory : String} {w v : World}
    (hm : w.manifests[id.index]? = some ⟨directory, []⟩) (h : World.Pending id w v) :
    ∃ files manifests, w.files.Like files ∧
      ∀ v' : World, v'.files = v.files → v'.manifests = v.manifests →
        release id v' = (.ok (), { v' with files, manifests }) := by
  rcases h with haside | ⟨path, c, hstored⟩
  · have hv : v.manifests[id.index]? = some ⟨directory, []⟩ := haside.manifests ▸ hm
    refine ⟨v.files, v.manifests.modify id.index fun m => { m with paths := [] },
      haside.files ▸ .refl _, fun v' hfiles hmanifests => ?_⟩
    rw [← hmanifests] at hv ⊢
    rw [← hfiles, release, Act.bind_apply, ofId_apply hv]
    rfl
  · have hv : v.manifests[id.index]? = some ⟨directory, [path]⟩ := by
      rw [hstored.manifests, List.getElem?_modify_eq, hm]
      rfl
    obtain ⟨files, hlike, hdelete⟩ := deleteFile_apply hstored.files
    refine ⟨files, v.manifests.modify id.index fun m => { m with paths := [] }, hlike,
      fun v' hfiles hmanifests => ?_⟩
    rw [← hmanifests] at hv ⊢
    rw [release, Act.bind_apply, ofId_apply hv]
    dsimp only
    rw [List.forIn_cons, Act.bind_apply, Act.bind_apply, Act.bind_apply, hdelete v' hfiles]
    rfl

end Manifest

end Compositor
