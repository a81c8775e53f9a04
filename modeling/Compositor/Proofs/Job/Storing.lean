import Compositor.Proofs.Address.Normal
import Compositor.Proofs.Job.Importing
import Compositor.Proofs.World.Claiming
import Compositor.Proofs.World.Supporting
import Mathlib.Data.Nat.Digits.Defs

/-!
# Storing a result

What a server delivers for the address of a result is stored as it is, in a fresh file of the
context. The name of the file ends in the extension of the address or in `.mp4`, and
the clip is opened as the format of that extension. No result is refused for its extension.
-/
namespace Compositor

/-! ## Delivering -/

namespace World

/-- The answer of a server is a whole response whose status is no error. -/
structure Delivers (w : World) (url : String) (response : Response) : Prop where
  answers : w.Answers url response
  fine : ¬ (400 ≤ response.status ∧ response.status < 600)
  whole : response.cut = none

/-- Neither the files nor the contexts nor the temporary names have changed. -/
structure Steady (w w' : World) : Prop where
  files : w'.files = w.files
  contexts : w'.contexts = w.contexts
  names : w'.names = w.names

end World

namespace Download

/-- What is delivered is fetched. -/
theorem fetch_delivered {w : World} {url : String} {response : Response}
    (h : w.Delivers url response) (timeout : Json) :
    ∃ w', fetch url timeout w = (.ok response, w') ∧ w.Steady w' := by
  obtain ⟨target, htarget, houtcome⟩ := h.answers
  have hchecked (place : String) : response.checkStatus place = .ok () := by
    rw [Response.checkStatus, if_neg]
    simpa using h.fine
  let r : Request := ⟨"GET", url, [], [], .none, timeout⟩
  let s : Sending := ⟨"GET", target, [], .none⟩
  have hanswer : (w.courseOf s).answer = .ok (.ok (response, (w.courseOf s).place)) := by
    rw [Ending.answer, houtcome]
  refine ⟨w.sent s timeout, ?_, rfl, rfl, rfl⟩
  rw [fetch, Act.bind_apply, Act.send_apply (r := r) htarget rfl, hanswer]
  dsimp only
  rw [hchecked]
  rfl

/-- Any download from an address in normal form is given an extension. -/
theorem extension_of_located {a : WebAddress} (h : a.Located) (guess : String → Option String)
    (contentType : Option String) (default : Json) :
    ∃ ext, extension guess contentType a.text default = .ok ext := by
  obtain ⟨parts, hparts⟩ := h.parts
  unfold extension
  cases contentType.bind (typeExtension? guess) with
  | some ext => exact ⟨_, rfl⟩
  | none =>
    dsimp only
    rw [pathExtension?, hparts]
    exact ⟨_, rfl⟩

/-- The whole body of a response is stored in a file that is there already. -/
theorem store_holding {files : FileTree} {path url : String} {content : Content}
    {response : Response} {w : World} (h : files.Holding path content w.files)
    (hwhole : response.cut = none) :
    ∃ w', store url path response w = (.ok (), w') ∧
      files.Holding path response.body w'.files := by
  obtain ⟨written, hwrite, hholding⟩ := h.write response.body
  rw [store, Act.getThe_bind, hwrite]
  dsimp only
  rw [Act.bind_apply, Act.modify_apply]
  dsimp only
  rw [Response.whole, hwhole]
  dsimp only [Act.info]
  rw [Act.log_apply]
  exact ⟨_, rfl, hholding⟩

end Download

/-! ## The file of a result -/

namespace Address

/-- A text without tabs and line ends. -/
def IsClean (s : String) : Prop := ∀ c ∈ s.toList, c ≠ '\t' ∧ c ≠ '\n' ∧ c ≠ '\r'

instance : DecidablePred IsClean := fun s => List.decidableBAll _ s.toList

theorem IsClean.cleaned {s : String} {c : Char} {rest : List Char} (h : IsClean s)
    (hs : s.toList = c :: rest) (hc : isMargin c = false) : cleaned s = s.toList := by
  rw [cleaned_of_head hs hc, ← hs]
  exact List.filter_eq_self.mpr fun c hc => by
    obtain ⟨h1, h2, h3⟩ := h c hc
    simp [h1, h2, h3]

theorem IsClean.append {s t : String} (hs : IsClean s) (ht : IsClean t) : IsClean (s ++ t) := by
  rw [IsClean, String.toList_append]
  exact List.forall_mem_append.mpr ⟨hs, ht⟩

/-- A path is as clean in its normal form. -/
theorem IsClean.normal {path : String} (h : IsClean path) : IsClean (Path.normal path) := by
  have hslash : IsClean "/" := by decide
  unfold Path.normal
  refine .append ?_ ?_
  · split
    · exact hslash
    · exact fun _ hc => nomatch hc
  · unfold IsClean
    rw [String.toList_intercalate]
    refine forall_mem_intercalate hslash fun part hpart c hc => ?_
    obtain ⟨name, hname, rfl⟩ := List.mem_map.mp hpart
    have hmem := (Path.mem_of_mem_foldl [] (Path.components path) hname).resolve_left
      List.not_mem_nil
    obtain ⟨piece, hpiece, rfl⟩ := List.mem_map.mp (List.mem_filter.mp hmem).1
    rw [String.toList_ofList] at hc
    exact h c (Path.mem_of_mem_splitOn hpiece hc)

end Address

/-- A clean absolute path without two slashes in a row has an extension. -/
theorem Locator.extension_ok {path : String} {rest : List Char}
    (hpath : path.toList = '/' :: rest) (hspaced : Path.IsSpaced path)
    (hclean : Address.IsClean path) : ∃ ext, extension path = .ok ext := by
  have hscheme : Address.splitScheme ('/' :: rest) = ([], '/' :: rest) :=
    Address.splitScheme_of_head (by decide) (by decide)
  have hlocation : Address.splitLocation ('/' :: rest) = ([], '/' :: rest) := by
    unfold Address.splitLocation
    split
    · rename_i after heq
      have hslashes : path.toList = [] ++ '/' :: '/' :: after := hpath.trans heq
      exact absurd hspaced (Path.not_spaced hslashes)
    · rfl
  have hparts : ∃ parts, Address.parts path = .ok parts := by
    rw [Address.parts, hclean.cleaned hpath (by decide), hpath, hscheme]
    dsimp only
    rw [hlocation]
    exact ⟨_, rfl⟩
  obtain ⟨parts, hparts⟩ := hparts
  exact ⟨_, by rw [extension, hparts]; rfl⟩

namespace Removal

/-- A character of the name of a stored result. -/
def isStoredChar (c : Char) : Bool := c.isAlphanum || c == '_' || c == '.'

/-- The name of the file of a result. -/
def storedName (number : Nat) (ext : String) : String :=
  "processed_" ++ ("n" ++ toString number) ++ ext

theorem storedName_chars {number : Nat} {ext : String} (hext : ext ∈ resultExtensions) :
    ∀ c ∈ (storedName number ext).toList, isStoredChar c = true := by
  have hall : ∀ ext ∈ resultExtensions, ext.toList.all isStoredChar = true := by decide
  have hdigits : ∀ c ∈ (toString number).toList, isStoredChar c = true := fun c hc => by
    have hdigit := Nat.isDigit_of_mem_toDigits (by decide) (by decide) (Nat.toList_repr ▸ hc)
    simp [isStoredChar, Char.isAlphanum, hdigit]
  unfold storedName
  simp only [String.toList_append, List.forall_mem_append]
  exact ⟨⟨List.all_eq_true.mp (by decide), List.all_eq_true.mp (by decide), hdigits⟩,
    List.all_eq_true.mp (hall ext hext)⟩

theorem storedName_lacks {number : Nat} {ext : String} (hext : ext ∈ resultExtensions) {c : Char}
    (hc : isStoredChar c = false) : c ∉ (storedName number ext).toList := fun hmem => by
  rw [storedName_chars hext c hmem] at hc
  cases hc

theorem storedName_head (number : Nat) (ext : String) :
    (storedName number ext).toList.head? = some 'p' := stored_head number ext

theorem storedName_relative (number : Nat) (ext : String) :
    storedName number ext ≠ "" ∧ storedName number ext ≠ "." ∧
      Path.isAbsolute (storedName number ext) = false :=
  Path.relative_of_head (storedName_head number ext) (by decide) (by decide)

/-- A file can have the name unless its number is very large. -/
theorem storedName_isName {number : Nat} {ext : String} (hext : ext ∈ resultExtensions)
    (hnumber : number < 10 ^ 40) : Path.IsName (storedName number ext) := by
  obtain ⟨hne, hdot, -⟩ := storedName_relative number ext
  have hshort : (storedName number ext).toList.length ≤ 56 := by
    have hdigits : (toString number).toList.length ≤ 40 := by
      rw [String.length_toList]
      exact Nat.repr_length number 40 (by decide) hnumber
    have hlength : ∀ ext ∈ resultExtensions, ext.toList.length ≤ 5 := by decide
    have := hlength ext hext
    have hstart : "processed_".toList.length = 10 := by decide
    have hn : "n".toList.length = 1 := by decide
    simp only [storedName, String.toList_append, List.length_append, hstart, hn]
    omega
  refine ⟨⟨storedName_lacks hext (by decide), hne, hdot, storedName_lacks hext (by decide)⟩,
    ?_, ?_⟩
  · intro hup
    have hhead := storedName_head number ext
    rw [hup] at hhead
    cases hhead
  · have := Text.size_le (storedName number ext)
    have hlongest : FileTree.longestName = 255 := rfl
    omega

end Removal

/-- The directory of a context can take another file: it is a plain absolute path to a directory
that is there, and the names of its files are not too long. -/
structure Context.IsReady (c : Context) (w : World) : Prop where
  absolute : Path.isAbsolute (Path.normal c.directory) = true
  clean : Address.IsClean c.directory
  there : w.files.isDirectory (Path.normal c.directory) = true
  room : w.names + w.files.entries.length < 10 ^ 40

namespace Context.IsReady

variable {c : Context} {w w' : World}

theorem steady (h : c.IsReady w) (hsteady : w.Steady w') : c.IsReady w' where
  absolute := h.absolute
  clean := h.clean
  there := by rw [hsteady.files, h.there]
  room := by rw [hsteady.files, hsteady.names]; exact h.room

/-- The path of a stored result has the extension under which it is stored. -/
theorem extension (h : c.IsReady w) {ext : String} (hext : ext ∈ Removal.resultExtensions)
    (number : Nat) :
    Locator.extension (Path.join (Path.normal c.directory) (Removal.storedName number ext)) =
      .ok ext := by
  obtain ⟨-, -, hrelative⟩ := Removal.storedName_relative number ext
  have hplain : Path.IsPlain (Removal.storedName number ext) :=
    Removal.storedName_lacks hext (by decide)
  have hclean : Address.IsClean (Removal.storedName number ext) := fun c hc => by
    refine ⟨?_, ?_, ?_⟩ <;> rintro rfl <;> exact Removal.storedName_lacks hext (by decide) hc
  have hslash : Address.IsClean "/" := by decide
  have hjoined : Address.IsClean
      (Path.join (Path.normal c.directory) (Removal.storedName number ext)) := by
    rw [Path.join, if_neg (Bool.eq_false_iff.mp hrelative), Path.below]
    split
    · exact h.clean.normal.append hclean
    · exact (h.clean.normal.append hslash).append hclean
  obtain ⟨rest, hfirst⟩ := Path.head_of_isAbsolute h.absolute
  obtain ⟨rest', hpath⟩ := Path.head_join hfirst hrelative
  obtain ⟨found, hfound⟩ := Locator.extension_ok hpath
    (Path.spaced_join (Path.spaced_normal _) hplain) hjoined
  obtain ⟨hextension, hlower⟩ := Removal.isExtension_of_mem ext hext
  rw [hfound, Removal.stored_extension h.absolute hextension hlower hfound]

/-- A fresh file for a result can be made. -/
theorem tempPath (h : c.IsReady w) {id : ContextId} (hc : w.contexts[id.index]? = some c)
    {ext : String} (hext : ext ∈ Removal.resultExtensions) :
    ∃ number path w', Context.tempPath id ext "processed_" w = (.ok path, w') ∧
      path = Path.join (Path.normal c.directory) (Removal.storedName number ext) ∧
      w.files.Holding path (.bytes []) w'.files := by
  have hentry : w.files.entry (Path.normal c.directory) = .ok .directory := by
    have hthere := h.there
    unfold FileTree.isDirectory at hthere
    split at hthere
    · assumption
    · cases hthere
  obtain ⟨root, hplace, hdir⟩ := FileTree.entry_eq_directory hentry
  have hstart : "processed_".toList = 'p' :: "rocessed_".toList := by decide
  obtain ⟨path, names, files, hrun, hcreate⟩ :=
    Act.freshFile_ok hstart (by decide) hplace hdir fun k hk =>
      ⟨Removal.storedName_isName hext (by have := h.room; omega),
        (Removal.storedName_relative k ext).2.2⟩
  obtain ⟨number, hpath⟩ := Act.freshFile_path (congrArg Prod.fst hrun)
  refine ⟨number, path, { w with names, files }, ?_, hpath.trans ?_,
    FileTree.create_holding hcreate⟩
  · rw [Context.tempPath, Act.bind_apply, Context.ofId_apply hc]
    exact hrun
  · exact Path.joinFrom_of_head (Removal.storedName_head number ext) (by decide)

end Context.IsReady

/-! ## Importing a result -/

theorem Checked.within_valid {α : Type} {place : Place} {a : Checked α} {b : α}
    (h : a.within place = .valid b) : a = .valid b := by
  cases a with
  | valid x => exact h
  | invalid issues => cases h

/-- A field that may be missing has been read if it is there. -/
theorem Record.maybe_some {α : Type} {fields : Fields} {name : String} {read : Reader α} {a : α}
    (h : maybe fields name read = .valid (some a)) : ∃ v, read v = .valid a := by
  unfold maybe optional at h
  split at h
  · have h := Checked.within_valid h
    unfold nullable at h
    split at h
    · cases h
    · rename_i v hv _
      obtain ⟨x, hx, hsome⟩ := Checked.map_valid h
      cases hsome
      exact ⟨_, hx⟩
  · cases h

/-- A path whose extension is that of a format is opened in this format. -/
theorem Foreground.ofLocator_apply {path ext : String} {format : ForegroundFormat}
    (hext : Locator.extension path = .ok ext)
    (hformat : ForegroundFormat.ofExtension? ext = some format) (id : ContextId) (w : World) :
    ofLocator path (some id) w = ofFormat format path id w := by
  have hvalue : Locator.extensionOfValue (.str path) = .ok ext := hext
  rw [ofLocator, Context.orDefault, Act.bind_apply, Act.pure_apply]
  dsimp only
  rw [hvalue, Act.bind_apply, Act.ofExcept, Act.pure_apply]
  dsimp only
  rw [hformat]

namespace Removal

variable {id : ContextId} {c : Context} {w : World} {status : JobStatus}
  {address : WebAddress}

/-- The result of a valid record has an address in normal form. -/
theorem located_of_read {fields : Record.Fields} (hstatus : JobStatus.read fields = .valid status)
    (haddress : status.video = some address) : address.Located := by
  obtain ⟨_, _, hbackground, -, rfl⟩ := Checked.ap_valid hstatus
  obtain ⟨_, _, hmessage, -, rfl⟩ := Checked.ap_valid hbackground
  obtain ⟨_, _, hmask, -, rfl⟩ := Checked.ap_valid hmessage
  obtain ⟨_, _, hresult, -, rfl⟩ := Checked.ap_valid hmask
  obtain ⟨_, video, hthumbnail, hvideo, rfl⟩ := Checked.ap_valid hresult
  obtain ⟨_, _, hlength, -, rfl⟩ := Checked.ap_valid hthumbnail
  obtain ⟨_, _, hcreated, -, rfl⟩ := Checked.ap_valid hlength
  obtain ⟨_, _, hfile, -, rfl⟩ := Checked.ap_valid hcreated
  obtain ⟨_, _, hstate, -, rfl⟩ := Checked.ap_valid hfile
  obtain ⟨_, _, hid, -, rfl⟩ := Checked.ap_valid hstate
  obtain ⟨_, -, rfl⟩ := Checked.map_valid hid
  obtain rfl : video = some address := haddress
  obtain ⟨v, hv⟩ := Record.maybe_some hvideo
  unfold WebAddress.read at hv
  split at hv
  · split at hv
    · cases hv
      exact WebAddress.located_parse ‹_›
    · cases hv
  · cases hv

/-- Every extension of a result is that of a format. -/
theorem format_of_mem {ext : String} (hext : ext ∈ resultExtensions) :
    ∃ format, ForegroundFormat.ofExtension? ext = some format := by
  have hall : ∀ ext ∈ resultExtensions, (ForegroundFormat.ofExtension? ext).isSome = true := by
    decide
  exact Option.isSome_iff_exists.mp (hall ext hext)

/-- What is delivered for a result is stored under the extension of the address or as `.mp4`, and
opened as the format of this extension. -/
theorem importResult_delivered {response : Response} (haddress : status.video = some address)
    (hlocated : address.Located) (hc : w.contexts[id.index]? = some c) (hready : c.IsReady w)
    (hdelivers : w.Delivers address.text response) :
    ∃ ext stored number path format w', Locator.extension address.text = .ok ext ∧
      stored = (if resultExtensions.contains ext then ext else ".mp4") ∧
      path = Path.join (Path.normal c.directory) (storedName number stored) ∧
      w.files.Holding path response.body w'.files ∧
      Locator.extension path = .ok stored ∧
      ForegroundFormat.ofExtension? stored = some format ∧
      importResult status id w = Foreground.ofFormat format path id w' := by
  obtain ⟨ext, hext⟩ : ∃ ext, Locator.extension address.text = .ok ext := by
    obtain ⟨parts, hparts⟩ := hlocated.parts
    exact ⟨_, by rw [Locator.extension, hparts]; rfl⟩
  have hresult : resultExtension address.text =
      .ok (if resultExtensions.contains ext then ext else ".mp4") := by
    rw [resultExtension, hext]
    rfl
  generalize hstored : (if resultExtensions.contains ext then ext else ".mp4") = stored at hresult
  have hmem := resultExtension_mem hresult
  -- a note is taken, and the response is fetched
  obtain ⟨w₁, hdebug, hnoted⟩ : ∃ w₁,
      Act.debug ("Downloading " ++ address.text) w = (.ok (), w₁) ∧ w.Steady w₁ ∧
        w₁.Delivers address.text response := by
    refine ⟨_, Act.log_apply _ _ _, ⟨rfl, rfl, rfl⟩, hdelivers.answers, hdelivers.fine,
      hdelivers.whole⟩
  obtain ⟨hsteady₁, hdelivers₁⟩ := hnoted
  obtain ⟨w₂, hfetch, hsteady₂⟩ := Download.fetch_delivered hdelivers₁ (.int 300)
  -- a fresh file is made in the world that is left, and the body is stored in it
  obtain ⟨chosen, hchosen⟩ := Download.extension_of_located hlocated
    MediaType.extension? (response.header? "Content-Type") ".bin"
  have hc₂ : w₂.contexts[id.index]? = some c := by
    rw [hsteady₂.contexts, hsteady₁.contexts, hc]
  obtain ⟨number, path, w₃, htemp, hpath, hfresh⟩ :=
    ((hready.steady hsteady₁).steady hsteady₂).tempPath hc₂ hmem
  obtain ⟨w₄, hstore, hholding⟩ : ∃ w₄, Download.store address.text path response w₃ =
      (.ok (), w₄) ∧ w₂.files.Holding path response.body w₄.files :=
    Download.store_holding hfresh hdelivers.whole
  have htoFile : Download.toFile address.text
      (fun _ => Context.tempPath id stored "processed_") ".bin" (.int 300) MediaType.extension? w =
        (.ok path, w₄) := by
    rw [Download.toFile, Act.bind_apply, hdebug]
    dsimp only
    rw [Act.bind_apply, hfetch]
    dsimp only
    rw [hchosen, Act.bind_apply, Act.ofExcept, Act.pure_apply]
    dsimp only
    rw [Act.bind_apply, htemp]
    dsimp only
    rw [Act.bind_apply, hstore]
    rfl
  have hfound := hready.extension hmem number
  rw [← hpath] at hfound
  obtain ⟨format, hformat⟩ := format_of_mem hmem
  refine ⟨ext, stored, number, path, format, w₄, hext, hstored.symm, hpath, ?_, hfound, hformat, ?_⟩
  · rw [hsteady₂.files, hsteady₁.files] at hholding
    exact hholding
  · rw [importResult, haddress]
    dsimp only
    rw [hresult, Act.bind_apply, Act.ofExcept, Act.pure_apply]
    dsimp only
    rw [Act.bind_apply, htoFile]
    exact Foreground.ofLocator_apply hfound hformat id w₄

theorem contexts_hidesTransfers : World.HidesTransfers World.contexts :=
  ⟨⟨fun _ _ => rfl, fun _ _ => rfl, fun _ _ _ => rfl⟩, fun _ _ _ _ _ => rfl, fun _ _ => rfl⟩

/-- The path at which a result is stored lies in the directory of its context. -/
theorem toFile_at {url stored path : String} {w w' : World}
    (h : Download.toFile url (fun _ => Context.tempPath id stored "processed_") ".bin"
      (.int 300) MediaType.extension? w = (.ok path, w')) :
    ∃ c, w.contexts[id.index]? = some c ∧ ∃ number,
      path = Path.join (Path.normal c.directory) (storedName number stored) := by
  have hpath (w : World) : (Context.tempPath id stored "processed_" w).2.contexts = w.contexts :=
    Act.Keeps.tempPath World.contexts_hidesTools.toHidesFiles id stored "processed_" w
  have hdownload :=
    Act.Keeps.download contexts_hidesTransfers url (fun _ => hpath) ".bin" (.int 300) w
  obtain ⟨_, w₁, w₂, htemp, hafter⟩ := Download.toFile_path h
  have htaken := hpath w₁
  rw [htemp] at htaken
  rw [h] at hdownload
  obtain ⟨c, hc, hpath⟩ := tempPath_at htemp
  refine ⟨c, ?_, hpath⟩
  rw [← hdownload]
  dsimp only
  rw [hafter, htaken, hc]

/-- A result is not refused for its extension, whether or not it can be fetched and stored. -/
theorem importResult_supported (status : JobStatus) (hc : w.contexts[id.index]? = some c)
    (habsolute : Path.isAbsolute (Path.normal c.directory) = true) :
    Supported (importResult status id w).1 := by
  unfold importResult
  cases status.video with
  | none => exact .error rfl
  | some address =>
    dsimp only
    cases hresult : resultExtension address.text with
    | error e =>
      have hsupported : Supported (resultExtension address.text) :=
        .bind (.extension _) fun _ => .ok _
      exact .error (hsupported e hresult)
    | ok stored =>
      intro e h
      rw [Act.ofExcept, Act.bind_apply, Act.pure_apply] at h
      rcases Act.bind_error h with hfailed | ⟨path, w₁, htoFile, hopen⟩
      · exact Act.Supports.toFile _ (fun _ => .tempPath _ _ _) _ _ w e hfailed
      · obtain ⟨c', hc', number, hpath⟩ := toFile_at htoFile
        obtain rfl : c' = c := Option.some.inj (hc'.symm.trans hc)
        have hmem := resultExtension_mem hresult
        cases hext : Locator.extension path with
        | error e' =>
          -- a path without parts has no extension to be refused for
          rw [Foreground.ofLocator, Act.bind_apply, Context.orDefault, Act.pure_apply] at hopen
          have hvalue : Locator.extensionOfValue (.str path) = .error e' := hext
          dsimp only at hopen
          rw [hvalue] at hopen
          cases hopen
          exact Supported.extension path e hext
        | ok found =>
          obtain ⟨hextension, hlower⟩ := isExtension_of_mem stored hmem
          have hfound := hext
          rw [hpath] at hfound
          obtain rfl := stored_extension habsolute hextension hlower hfound
          obtain ⟨format, hformat⟩ := format_of_mem hmem
          rw [Foreground.ofLocator_apply hext hformat] at hopen
          exact Act.Supports.ofFormat format path id w₁ e hopen

/-- No result is refused for its extension. What a server delivers for a result is stored as it
is in a fresh file of the context, whose extension is that of the address or `.mp4`, and
the clip is opened as the format of this extension. -/
theorem importResult_opens_stored {fields : Record.Fields}
    (hstatus : JobStatus.read fields = .valid status) (haddress : status.video = some address)
    (hc : w.contexts[id.index]? = some c)
    (habsolute : Path.isAbsolute (Path.normal c.directory) = true) :
    (∀ e, (importResult status id w).1 = .error e → e.isUnsupported = false) ∧
      ∀ response, w.Delivers address.text response → c.IsReady w →
        ∃ ext stored number path format w', Locator.extension address.text = .ok ext ∧
          stored = (if resultExtensions.contains ext then ext else ".mp4") ∧
          path = Path.join (Path.normal c.directory) (storedName number stored) ∧
          w.files.Holding path response.body w'.files ∧
          Locator.extension path = .ok stored ∧
          ForegroundFormat.ofExtension? stored = some format ∧
          importResult status id w = Foreground.ofFormat format path id w' :=
  ⟨importResult_supported status hc habsolute, fun _ hdelivers hready =>
    importResult_delivered haddress (located_of_read hstatus haddress) hc hready hdelivers⟩

/-- A record of a job with a result. Neither the query of its address nor the media type of the
response names the extension of the path, which is in upper case. -/
def shoutedFields : Record.Fields :=
  [("id", "j"), ("status", "completed"), ("filename", ""), ("created_at", ""),
    ("processed_video_url", "https://[::1]/r.WEBM?name=r.zip")]

def shoutedAddress : WebAddress :=
  ⟨"https", "", "[::1]", none, "/r.WEBM", some "name=r.zip", none⟩

def shoutedResponse : Response :=
  { status := 200, reason := "OK", headers := [("Content-Type", "video/mp4")]
    body := .bytes [82, 73, 70, 70] }

def shouted : World :=
  { World.initial with
    contexts := [⟨"ffmpeg", "ffprobe", "/tmp", []⟩]
    exchanges := [("GET https://[::1]/r.WEBM?name=r.zip", [⟨0, .ok shoutedResponse⟩])] }

theorem shouted_delivers : shouted.Delivers shoutedAddress.text shoutedResponse where
  answers := by
    have htarget : (Address.Target.prepare shoutedAddress.text []).toOption =
        some "https://[::1]/r.WEBM?name=r.zip" := by decide +kernel
    exact World.answers_of_reply (ok_of_toOption htarget) rfl rfl rfl
  fine := by decide
  whole := rfl

/-- The result is stored and opened as the extension of its path says. -/
theorem importResult_opens_shouted : ∃ status, JobStatus.read shoutedFields = .valid status ∧
    status.video = some shoutedAddress ∧
    (∀ e, (importResult status ⟨0⟩ shouted).1 = .error e → e.isUnsupported = false) ∧
    ∃ number path w', path = Path.join (Path.normal "/tmp") (storedName number ".webm") ∧
      shouted.files.Holding path (.bytes [82, 73, 70, 70]) w'.files ∧
      Locator.extension path = .ok ".webm" ∧
      importResult status ⟨0⟩ shouted = Foreground.ofFormat .webm path ⟨0⟩ w' := by
  have hread : ((JobStatus.read shoutedFields).toExcept.toOption.bind JobStatus.video) =
      some shoutedAddress := by decide +kernel
  obtain ⟨status, hstatus, hvideo⟩ := Option.bind_eq_some_iff.mp hread
  have hstatus := Checked.toExcept_ok (ok_of_toOption hstatus)
  have hready : Context.IsReady ⟨"ffmpeg", "ffprobe", "/tmp", []⟩ shouted :=
    ⟨by decide +kernel, by decide, by decide +kernel, by decide⟩
  have hcontext : shouted.contexts[(⟨0⟩ : ContextId).index]? =
      some ⟨"ffmpeg", "ffprobe", "/tmp", []⟩ := rfl
  obtain ⟨hsupported, hstored⟩ :=
    importResult_opens_stored hstatus hvideo hcontext hready.absolute
  obtain ⟨ext, stored, number, path, format, w', hext, rfl, hpath, hholding, hfound, hformat,
    hrun⟩ := hstored shoutedResponse shouted_delivers hready
  have hwebm : Locator.extension shoutedAddress.text = .ok ".webm" :=
    ok_of_toOption (by decide +kernel)
  cases hext.symm.trans hwebm
  cases hformat
  exact ⟨status, hstatus, hvideo, hsupported, number, path, w', hpath, hholding, hfound, hrun⟩

end Removal

end Compositor
