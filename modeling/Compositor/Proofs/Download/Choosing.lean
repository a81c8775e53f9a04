import Compositor.Proofs.Address.Lettering
import Compositor.Proofs.Job.Storing

/-!
# Choosing the extension of a download

The extension under which a download is stored is one that its media type stands for, else that
of its address in lower case, else a default one. Extensions that say nothing about the content
are passed over in whatever letter case, but for one case: those of an address that are not in
lower case are lowered too late, so they are taken.
-/
namespace Compositor

/-- Every extension of a media type is in lower case. -/
theorem MediaType.table_lower : ∀ e ∈ table, Text.lower e.1 = e.1 := by decide +kernel

theorem MediaType.extension?_lower {type ext : String} (h : extension? type = some ext) :
    Text.lower ext = ext := by
  obtain ⟨e, he, rfl⟩ := Option.map_eq_some_iff.mp h
  exact table_lower e (List.mem_of_find?_eq_some he)

namespace Download

open Address (writtenExtension Recased)

/-! ## Extensions that say nothing -/

/-- An extension that says nothing about the content, in whatever letter case. -/
def IsVague (ext : String) : Prop :=
  ∃ generic ∈ genericExtensions, ext.toList.map Char.toLower = generic.toList

instance : DecidablePred IsVague := fun ext =>
  inferInstanceAs (Decidable (∃ generic ∈ genericExtensions,
    ext.toList.map Char.toLower = generic.toList))

theorem mem_of_isGeneric {ext : String} (h : isGeneric ext = true) : ext ∈ genericExtensions :=
  List.contains_iff_mem.mp h

theorem genericExtensions_strict : ∀ generic ∈ genericExtensions,
    (∀ c ∈ generic.toList, Text.IsStrict c) ∧ generic.toList.getLast? ≠ some 'i' :=
  Text.strict_of_all (by decide +kernel)

theorem genericExtensions_lower : ∀ generic ∈ genericExtensions, Text.lower generic = generic := by
  decide +kernel

theorem isVague_iff {ext : String} : IsVague ext ↔ isGeneric (Text.lower ext) = true := by
  have hword {generic : String} (h : generic ∈ genericExtensions) :=
    Text.lower_eq_iff (s := ext) (genericExtensions_strict generic h).1
      (genericExtensions_strict generic h).2
  constructor
  · rintro ⟨generic, hmem, hext⟩
    rw [(hword hmem).mpr hext]
    exact List.contains_iff_mem.mpr hmem
  · exact fun h => ⟨_, mem_of_isGeneric h, (hword (mem_of_isGeneric h)).mp rfl⟩

/-- A lowered extension says as much about the content as the one that was lowered. -/
theorem isVague_lower {ext : String} : IsVague (Text.lower ext) ↔ IsVague ext := by
  have hsmall : (Text.lower ext).toList.map Char.toLower = (Text.lower ext).toList := by
    refine (List.map_congr_left fun c hc => ?_).trans (List.map_id _)
    rw [Text.toList_lower] at hc
    exact Text.toLower_of_mem_lowerFrom hc
  refine Iff.trans ?_ isVague_iff.symm
  constructor
  · rintro ⟨generic, hmem, hext⟩
    rw [hsmall, String.toList_inj] at hext
    exact List.contains_iff_mem.mpr (hext ▸ hmem)
  · exact fun h => ⟨_, mem_of_isGeneric h, hsmall⟩

/-- What does not count is in lower case. -/
theorem isGeneric_iff {ext : String} :
    isGeneric ext = true ↔ IsVague ext ∧ Text.lower ext = ext := by
  constructor
  · intro h
    have hlower := genericExtensions_lower ext (mem_of_isGeneric h)
    exact ⟨isVague_iff.mpr (hlower.symm ▸ h), hlower⟩
  · rintro ⟨hvague, hlower⟩
    exact hlower ▸ isVague_iff.mp hvague

/-! ## The choice -/

/-- The extension that the media type of a response stands for. An empty header names no type. -/
def Guessed (guess : String → Option String) (contentType : Option String) (ext : String) : Prop :=
  ∃ header, contentType = some header ∧ header ≠ "" ∧ guess (mediaType header) = some ext

/-- The media type says nothing about the content. -/
def Silent (guess : String → Option String) (contentType : Option String) : Prop :=
  ∀ ext, Guessed guess contentType ext → IsVague ext

/-- The extension that is chosen for a response. -/
inductive Chosen (guess : String → Option String) (contentType : Option String) (url : String)
    (default : Json) : Json → Prop
  | guessed {ext : String} (h : Guessed guess contentType ext) (hclear : ¬ IsVague ext) :
      Chosen guess contentType url default (.str ext)
  | written {ext : String} (hsilent : Silent guess contentType)
      (h : writtenExtension url = .ok ext) (hclear : ¬ IsVague (Text.lower ext)) :
      Chosen guess contentType url default (.str (Text.lower ext))
  /-- An extension that says nothing is not passed over if it is not in lower case. -/
  | capital {ext : String} (hsilent : Silent guess contentType)
      (h : writtenExtension url = .ok ext) (hvague : IsVague (Text.lower ext))
      (hcapital : Text.lower ext ≠ ext) :
      Chosen guess contentType url default (.str (Text.lower ext))
  | default {ext : String} (hsilent : Silent guess contentType)
      (h : writtenExtension url = .ok ext) (hvague : IsVague (Text.lower ext))
      (hsmall : Text.lower ext = ext) :
      Chosen guess contentType url default default

variable {guess : String → Option String} {contentType : Option String} {url : String}
  {default : Json}

theorem pathExtension?_eq (url : String) :
    pathExtension? url = (writtenExtension url).map fun ext =>
      if isGeneric ext then none else some (Text.lower ext) := by
  unfold pathExtension? writtenExtension
  cases Address.parts url <;> rfl

section

variable (hguess : ∀ type ext, guess type = some ext → Text.lower ext = ext)

include hguess

/-- The guess of a media type counts unless it says nothing. -/
theorem typeExtension?_eq_some_iff {header ext : String} :
    typeExtension? guess header = some ext ↔
      (header ≠ "" ∧ guess (mediaType header) = some ext) ∧ ¬ IsVague ext := by
  unfold typeExtension?
  by_cases hempty : header = ""
  · simp [hempty]
  · rw [if_neg (by simpa using hempty), Option.filter_eq_some_iff, Bool.not_eq_true',
      and_iff_right hempty]
    refine and_congr_right fun hfound => ?_
    rw [← Bool.not_eq_true, isGeneric_iff, and_iff_left (hguess _ _ hfound)]

theorem bind_typeExtension?_eq_some_iff {ext : String} :
    contentType.bind (typeExtension? guess) = some ext ↔
      Guessed guess contentType ext ∧ ¬ IsVague ext := by
  simp only [Option.bind_eq_some_iff, typeExtension?_eq_some_iff hguess, Guessed, ← and_assoc,
    exists_and_right]

/-- No guess counts if the media type says nothing. -/
theorem bind_typeExtension?_eq_none_iff :
    contentType.bind (typeExtension? guess) = none ↔ Silent guess contentType := by
  rw [Option.eq_none_iff_forall_ne_some]
  refine forall_congr' fun ext => ?_
  rw [ne_eq, bind_typeExtension?_eq_some_iff hguess, not_and, not_not]

/-- The extension for a response whose media type says nothing. -/
theorem extension_of_silent (hsilent : Silent guess contentType) (url : String) (default : Json) :
    extension guess contentType url default =
      (writtenExtension url).map fun ext => if isGeneric ext then default else Text.lower ext := by
  rw [extension, (bind_typeExtension?_eq_none_iff hguess).mpr hsilent]
  dsimp only
  rw [pathExtension?_eq]
  cases writtenExtension url with
  | error e => rfl
  | ok ext =>
    refine congrArg Except.ok ?_
    dsimp only
    split <;> rfl

theorem chosen_of_extension {found : Json}
    (h : extension guess contentType url default = .ok found) :
    Chosen guess contentType url default found := by
  cases hbind : contentType.bind (typeExtension? guess) with
  | some ext =>
    obtain ⟨hguessed, hclear⟩ := (bind_typeExtension?_eq_some_iff hguess).mp hbind
    rw [extension, hbind] at h
    cases h
    exact .guessed hguessed hclear
  | none =>
    have hsilent := (bind_typeExtension?_eq_none_iff hguess).mp hbind
    rw [extension_of_silent hguess hsilent] at h
    cases hwritten : writtenExtension url with
    | error e =>
      rw [hwritten] at h
      cases h
    | ok ext =>
      rw [hwritten] at h
      obtain rfl := Except.ok.inj h
      dsimp only
      split
      · rename_i hgeneric
        obtain ⟨hvague, hsmall⟩ := isGeneric_iff.mp hgeneric
        exact .default hsilent hwritten (isVague_lower.mpr hvague) hsmall
      · rename_i hgeneric
        -- it may still say nothing: what is looked up is the extension before it is lowered
        by_cases hvague : IsVague (Text.lower ext)
        · refine .capital hsilent hwritten hvague fun hsmall => hgeneric ?_
          exact isGeneric_iff.mpr ⟨isVague_lower.mp hvague, hsmall⟩
        · exact .written hsilent hwritten hvague

theorem Chosen.extension_eq {found : Json} (h : Chosen guess contentType url default found) :
    extension guess contentType url default = .ok found := by
  cases h with
  | guessed h hclear =>
    rw [extension, (bind_typeExtension?_eq_some_iff hguess).mpr ⟨h, hclear⟩]
  | written hsilent h hclear =>
    rw [extension_of_silent hguess hsilent, h]
    refine congrArg Except.ok (if_neg fun hgeneric => hclear ?_)
    exact isVague_lower.mpr (isGeneric_iff.mp hgeneric).1
  | capital hsilent h hvague hcapital =>
    rw [extension_of_silent hguess hsilent, h]
    exact congrArg Except.ok (if_neg fun hgeneric => hcapital (isGeneric_iff.mp hgeneric).2)
  | default hsilent h hvague hsmall =>
    rw [extension_of_silent hguess hsilent, h]
    exact congrArg Except.ok (if_pos (isGeneric_iff.mpr ⟨isVague_lower.mp hvague, hsmall⟩))

/-- The extension under which a download is stored is the one that is chosen. -/
theorem extension_eq_ok_iff {found : Json} :
    extension guess contentType url default = .ok found ↔
      Chosen guess contentType url default found :=
  ⟨chosen_of_extension hguess, fun h => h.extension_eq hguess⟩

/-- Nothing is chosen for an address that cannot be read, if the media type says nothing. -/
theorem extension_eq_error_iff {e : Fault} :
    extension guess contentType url default = .error e ↔
      Silent guess contentType ∧ Address.parts url = .error e := by
  cases hbind : contentType.bind (typeExtension? guess) with
  | some ext =>
    have hspeaks : ¬ Silent guess contentType := fun hsilent => by
      rw [(bind_typeExtension?_eq_none_iff hguess).mpr hsilent] at hbind
      cases hbind
    rw [extension, hbind]
    exact iff_of_false nofun fun h => hspeaks h.1
  | none =>
    have hsilent := (bind_typeExtension?_eq_none_iff hguess).mp hbind
    rw [extension_of_silent hguess hsilent, and_iff_right hsilent, writtenExtension]
    cases Address.parts url with
    | error e' => simp [Except.map]
    | ok parts => simp [Except.map]

end

/-! ## Other addresses -/

/-- Only the extension of an address counts. -/
theorem Chosen.of_written {u v : String} {found : Json}
    (hsame : writtenExtension v = writtenExtension u)
    (h : Chosen guess contentType u default found) :
    Chosen guess contentType v default found := by
  cases h with
  | guessed h hclear => exact .guessed h hclear
  | written hsilent h hclear => exact .written hsilent (hsame.trans h) hclear
  | capital hsilent h hvague hcapital => exact .capital hsilent (hsame.trans h) hvague hcapital
  | default hsilent h hvague hsmall => exact .default hsilent (hsame.trans h) hvague hsmall

/-- A query does not change what is chosen. -/
theorem chosen_query {query : String} {found : Json} :
    Chosen guess contentType (url ++ "?" ++ query) default found ↔
      Chosen guess contentType url default found := by
  have hsame : writtenExtension (url ++ "?" ++ query) = writtenExtension url := by
    rw [String.append_assoc]
    exact Address.writtenExtension_append url (by simp [Address.IsTail])
  exact ⟨.of_written hsame.symm, .of_written hsame⟩

/-- An extension in other letter case is chosen as well, unless it says nothing. -/
theorem Chosen.of_lower {u v ext ext' : String} {found : Json} (hu : writtenExtension u = .ok ext)
    (hv : writtenExtension v = .ok ext') (hsame : Text.lower ext' = Text.lower ext)
    (hclear : ¬ Silent guess contentType ∨ ¬ IsVague (Text.lower ext))
    (h : Chosen guess contentType u default found) : Chosen guess contentType v default found := by
  cases h with
  | guessed h hclear => exact .guessed h hclear
  | written hsilent h hclear =>
    obtain rfl := Except.ok.inj (hu.symm.trans h)
    rw [← hsame] at hclear ⊢
    exact .written hsilent hv hclear
  | capital hsilent h hvague hcapital =>
    obtain rfl := Except.ok.inj (hu.symm.trans h)
    exact absurd hvague (hclear.resolve_left (not_not.mpr hsilent))
  | default hsilent h hvague hsmall =>
    obtain rfl := Except.ok.inj (hu.symm.trans h)
    exact absurd hvague (hclear.resolve_left (not_not.mpr hsilent))

/-- The letter case of an extension does not change what is chosen, unless it says nothing. -/
theorem chosen_recased {u v target : String} {found : Json} (h : Recased u v)
    (htarget : Address.Target.prepare u [] = .ok target)
    (hclear : ¬ Silent guess contentType ∨ ∀ ext, writtenExtension u = .ok ext → ¬ IsVague ext) :
    Chosen guess contentType v default found ↔ Chosen guess contentType u default found := by
  obtain ⟨ext, ext', hu, hv, hsame⟩ := h.written htarget
  have hclear : ¬ Silent guess contentType ∨ ¬ IsVague (Text.lower ext) :=
    hclear.imp_right fun hall => isVague_lower.not.mpr (hall ext hu)
  exact ⟨.of_lower hv hu hsame.symm (hsame ▸ hclear), .of_lower hu hv hsame hclear⟩

/-! ## Running -/

/-- The request of a download. -/
def ask (url : String) (timeout : Json) : Act Response := do
  Act.debug ("Downloading " ++ url)
  fetch url timeout

/-- What is done with a response for an extension. -/
def keep (url : String) (makePath : Json → Act String) (response : Response) (ext : Json) :
    Act String := do
  let path ← makePath ext
  store url path response
  return path

variable {w w' : World} {timeout : Json}

theorem toFile_eq (makePath : Json → Act String) :
    toFile url makePath default timeout guess = (do
      let response ← ask url timeout
      let ext ← Act.ofExcept (extension guess (response.header? "Content-Type") url default)
      keep url makePath response ext) := by
  rw [ask, bind_assoc]
  rfl

theorem toFile_unanswered {e : Fault} (h : ask url timeout w = (.error e, w'))
    (makePath : Json → Act String) :
    toFile url makePath default timeout guess w = (.error e, w') := by
  rw [toFile_eq, Act.bind_apply, h]

theorem toFile_answered {response : Response} (h : ask url timeout w = (.ok response, w'))
    (guess : String → Option String) (default : Json) (makePath : Json → Act String) :
    toFile url makePath default timeout guess w =
      match extension guess (response.header? "Content-Type") url default with
      | .ok ext => keep url makePath response ext w'
      | .error e => (.error e, w') := by
  rw [toFile_eq, Act.bind_apply, h]
  dsimp only
  rw [Act.bind_apply]
  cases extension guess (response.header? "Content-Type") url default <;> rfl

/-- Only an address to which a request is sent is answered. -/
theorem prepare_of_answered {response : Response} (h : ask url timeout w = (.ok response, w')) :
    ∃ target, Address.Target.prepare url [] = .ok target := by
  obtain ⟨_, w₁, -, hfetch⟩ := Act.bind_eq_ok h
  obtain ⟨target, htarget, -⟩ := (fetch_aside url timeout w₁).2 response (by rw [hfetch])
  exact ⟨target, htarget⟩

/-- What is delivered for an address is the answer to its request. -/
theorem ask_delivered {response : Response} (h : w.Delivers url response) (timeout : Json) :
    ∃ w', ask url timeout w = (.ok response, w') := by
  obtain ⟨w₁, hdebug, hdelivers⟩ : ∃ w₁, Act.debug ("Downloading " ++ url) w = (.ok (), w₁) ∧
      w₁.Delivers url response :=
    ⟨_, Act.log_apply _ _ _, h.answers, h.fine, h.whole⟩
  obtain ⟨w₂, hfetch, -⟩ := fetch_delivered hdelivers timeout
  exact ⟨w₂, by rw [ask, Act.bind_apply, hdebug]; exact hfetch⟩

/-- A download is stored under the one extension that is chosen for its response; there is none
only if the address cannot be read. A query does not change the choice. The letter case of the
extension in the address does not either, unless that extension and the media type both say
nothing, and every extension can be written in every other letter case. -/
theorem toFile_chooses (hguess : ∀ type ext, guess type = some ext → Text.lower ext = ext)
    (url : String) (default timeout : Json) :
    (∀ w e w', ask url timeout w = (.error e, w') →
      ∀ makePath, toFile url makePath default timeout guess w = (.error e, w')) ∧
    (∀ w response w', ask url timeout w = (.ok response, w') →
      let header := response.header? "Content-Type"
      ((∃ ext, (∀ found, Chosen guess header url default found ↔ found = ext) ∧
          ∀ makePath, toFile url makePath default timeout guess w =
            keep url makePath response ext w') ∨
        (∃ e, Silent guess header ∧ Address.parts url = .error e ∧
          ∀ makePath, toFile url makePath default timeout guess w = (.error e, w'))) ∧
      (∀ contentType v, Recased url v →
        (¬ Silent guess contentType ∨ ∀ ext, writtenExtension url = .ok ext → ¬ IsVague ext) →
        ∀ found, Chosen guess contentType v default found ↔
          Chosen guess contentType url default found) ∧
      (∀ ext text, writtenExtension url = .ok ext → ext ≠ "" →
        Text.lower (Address.counted text) = Text.lower ext →
        ∃ v, Recased url v ∧ writtenExtension v = .ok (Address.counted text))) ∧
    ∀ contentType query found, Chosen guess contentType (url ++ "?" ++ query) default found ↔
      Chosen guess contentType url default found := by
  refine ⟨fun w e w' h => toFile_unanswered h, fun w response w' h => ?_, fun _ _ _ => chosen_query⟩
  obtain ⟨target, htarget⟩ := prepare_of_answered h
  refine ⟨?_, fun contentType v hv hclear found => chosen_recased hv htarget hclear,
    fun ext text hext hne hsame => Address.exists_recased hext hne htarget hsame⟩
  have hrun := toFile_answered h guess default
  cases hextension : extension guess (response.header? "Content-Type") url default with
  | ok ext =>
    rw [hextension] at hrun
    refine .inl ⟨ext, fun found => ?_, hrun⟩
    rw [← extension_eq_ok_iff hguess, hextension, Except.ok.injEq, eq_comm]
  | error e =>
    rw [hextension] at hrun
    obtain ⟨hsilent, hparts⟩ := (extension_eq_error_iff hguess).mp hextension
    exact .inr ⟨e, hsilent, hparts, hrun⟩

/-- The media type says nothing, and the extension of the path is in mixed case. -/
theorem toFile_chooses_mixed :
    let url := "https://[::1]/Cover.Png;v=2?of=a.bin"
    let shouted := "https://[::1]/Cover.PNG;v=2?of=a.bin"
    let response : Response :=
      { status := 200, reason := "OK", headers := [("Content-Type", "application/octet-stream")]
        body := .bytes [137, 80] }
    let w : World := { World.initial with exchanges := [("GET " ++ url, [⟨0, .ok response⟩])] }
    (∀ type ext, MediaType.extension? type = some ext → Text.lower ext = ext) ∧
    Recased url shouted ∧
    ∃ w', ask url (.int 300) w = (.ok response, w') ∧
      (∀ makePath, toFile url makePath ".bin" (.int 300) MediaType.extension? w =
        keep url makePath response ".png" w') ∧
      Chosen MediaType.extension? "application/octet-stream" shouted ".bin" ".png" := by
  intro url shouted response w
  have hguess : ∀ type ext, MediaType.extension? type = some ext → Text.lower ext = ext :=
    fun _ _ => MediaType.extension?_lower
  have hrecased : Recased url shouted := by
    refine @Recased.intro "https://[::1]/Cover" ".Png" ".PNG" ";v=2?of=a.bin" ?_
      (Text.lower_eq_of_recased (by decide +kernel))
    refine ⟨by decide +kernel, "/Cover".toList, ⟨⟨"Png".toList, ?_, ?_, ?_⟩, 'C', ?_⟩, ?_, ?_⟩
    all_goals decide +kernel
  have htarget : (Address.Target.prepare url []).toOption = some url := by decide +kernel
  have hdelivers : w.Delivers url response :=
    { answers := World.answers_of_reply (ok_of_toOption htarget) rfl rfl rfl
      fine := by decide
      whole := rfl }
  have hsilent : Silent MediaType.extension? "application/octet-stream" := by
    rintro ext ⟨header, hheader, -, hext⟩
    cases hheader
    have hoctets : MediaType.extension? (mediaType "application/octet-stream") = some ".bin" := by
      decide +kernel
    obtain rfl := Option.some.inj (hoctets.symm.trans hext)
    decide +kernel
  have hwritten : writtenExtension url = .ok ".Png" := ok_of_toOption (by decide +kernel)
  have hsmall : Text.lower ".Png" = ".png" := by decide +kernel
  have hurl : Chosen MediaType.extension? "application/octet-stream" url ".bin" ".png" :=
    hsmall ▸ .written hsilent hwritten (by decide +kernel)
  obtain ⟨w', hasked⟩ := ask_delivered hdelivers (.int 300)
  obtain ⟨-, hanswered, -⟩ := toFile_chooses hguess url ".bin" (.int 300)
  obtain ⟨hstored, hcase, -⟩ := hanswered w response w' hasked
  have hshouted := (hcase "application/octet-stream" shouted hrecased (.inr fun ext hext => by
    obtain rfl := Except.ok.inj (hwritten.symm.trans hext)
    decide +kernel) ".png").mpr hurl
  refine ⟨hguess, hrecased, w', hasked, ?_, hshouted⟩
  rcases hstored with ⟨ext, hunique, hrun⟩ | ⟨e, -, hparts, -⟩
  · obtain rfl := (hunique _).mp hurl
    exact hrun
  · rw [writtenExtension, hparts] at hwritten
    cases hwritten

/-- An extension that says nothing is passed over in lower case and taken in upper case. -/
theorem toFile_takes_capital :
    let response : Response :=
      { status := 200, reason := "OK", headers := [], body := .bytes [137, 80] }
    let world (url : String) : World :=
      { World.initial with exchanges := [("GET " ++ url, [⟨0, .ok response⟩])] }
    let stored (url : String) (ext : Json) : Prop := ∃ w', ∀ makePath,
      toFile url makePath ".png" (.int 300) MediaType.extension? (world url) =
        keep url makePath response ext w'
    stored "https://[::1]/a.bin" ".png" ∧ stored "https://[::1]/a.BIN" ".bin" ∧
      IsVague ".bin" := by
  intro response world stored
  have hsilent : Silent MediaType.extension? none := by
    rintro ext ⟨header, hheader, -⟩
    cases hheader
  have hstored {url : String} {ext : Json} (htarget : Address.Target.prepare url [] = .ok url)
      (hchosen : Chosen MediaType.extension? none url ".png" ext) : stored url ext := by
    have hreply : World.takeReply ("GET " ++ url) (world url).exchanges =
        some (⟨0, .ok response⟩, [("GET " ++ url, [])]) := by
      simp [world, World.takeReply]
    have hdelivers : (world url).Delivers url response :=
      { answers := World.answers_of_reply htarget hreply rfl rfl
        fine := by decide
        whole := rfl }
    obtain ⟨w', hasked⟩ := ask_delivered hdelivers (.int 300)
    have hnone : response.header? "Content-Type" = none := rfl
    have hext := (extension_eq_ok_iff fun _ _ => MediaType.extension?_lower).mpr hchosen
    exact ⟨w', fun makePath => by rw [toFile_answered hasked, hnone, hext]⟩
  have hvague : IsVague ".bin" := by decide +kernel
  have hcapital : Text.lower ".BIN" = ".bin" := by decide +kernel
  have hsmall : Text.lower ".bin" = ".bin" := by decide +kernel
  refine ⟨hstored (ok_of_toOption (by decide +kernel)) ?_,
    hstored (ok_of_toOption (by decide +kernel)) ?_, hvague⟩
  · exact .default hsilent (ok_of_toOption (by decide +kernel)) (hsmall.symm ▸ hvague) hsmall
  · exact hcapital ▸ .capital hsilent (ok_of_toOption (by decide +kernel)) (hcapital.symm ▸ hvague)
      (by decide +kernel)

end Download

end Compositor
