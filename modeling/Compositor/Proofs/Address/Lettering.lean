import Compositor.Proofs.Address.Extensions
import Compositor.Proofs.Address.Queries
import Compositor.Proofs.Address.Slashes
import Compositor.Proofs.Text.Words

/-!
# The extension in an address

The path of an address has an extension, which stands somewhere in the text of the address. A
query or a fragment behind the address does not change it, whatever the address is. If it is
written in other letter case, the path has the extension as it is written then: no other part of
the address moves.
-/
namespace Compositor

/-! ## Parameters -/

namespace Path

theorem lastName_append_nil {front back : List Char} (hback : back ≠ []) (h : lastName back = []) :
    lastName (front ++ back) = [] := by
  rw [lastName, List.reverse_eq_nil_iff] at h ⊢
  rw [List.reverse_append]
  cases hreverse : back.reverse with
  | nil => exact absurd (List.reverse_eq_nil_iff.mp hreverse) hback
  | cons c rest =>
    rw [hreverse] at h
    cases hc : c != '/' with
    | true => simp [hc] at h
    | false => simp [hc]

end Path

namespace Address

open Compositor.Path (lastName Extends)

variable {cs stem ext ext' after : List Char}

/-- Parameters are cut off behind the last slash. -/
theorem withoutParams_append {directory name : List Char} (hdirectory : lastName directory = [])
    (hname : '/' ∉ name) :
    withoutParams (directory ++ name) = directory ++ name.takeWhile (· != ';') := by
  have hlast : ((directory ++ name).reverse.takeWhile (· != '/')).reverse = name := by
    have happend := Path.lastName_append hname directory
    rwa [hdirectory, List.nil_append] at happend
  unfold withoutParams
  dsimp only
  rw [hlast, List.length_append, Nat.add_sub_cancel, List.take_left]

theorem withoutParams_prefix (cs : List Char) : withoutParams cs <+: cs := by
  obtain ⟨directory, hcs, hdirectory⟩ := Path.exists_lastName cs
  have hprefix : withoutParams (directory ++ lastName cs) <+: directory ++ lastName cs := by
    rw [withoutParams_append hdirectory (Path.slash_not_mem_lastName cs)]
    exact (List.prefix_append_right_inj _).mpr (List.takeWhile_prefix _)
  rwa [← hcs] at hprefix

theorem takeWhile_eq_front {p : Char → Bool} {front back : List Char}
    (h : (front ++ back).takeWhile p = front) : (∀ c ∈ front, p c) ∧ back.takeWhile p = [] := by
  have hfront : ∀ c ∈ front, p c := fun c hc => List.mem_takeWhile_imp (h ▸ hc)
  rw [List.takeWhile_append_of_pos hfront] at h
  exact ⟨hfront, List.append_right_eq_self.mp h⟩

/-- No slash follows where parameters are cut off: the text up to it would be kept. -/
theorem plain_of_withoutParams {front back : List Char}
    (h : withoutParams (front ++ back) = front) : '/' ∉ back := by
  obtain ⟨directory, hback, hdirectory⟩ := Path.exists_lastName back
  have hlast := Path.slash_not_mem_lastName back
  by_cases hnil : directory = []
  · rwa [hback, hnil, List.nil_append]
  · rw [hback, ← List.append_assoc,
      withoutParams_append (Path.lastName_append_nil hnil hdirectory) hlast] at h
    have hlength := congrArg List.length h
    have hpositive := List.length_pos_iff.mpr hnil
    simp only [List.length_append] at hlength
    omega

/-- If parameters are cut off right behind an extension, then behind another one in its place. -/
theorem withoutParams_replace (hext : Extends stem ext) (hext' : Extends stem ext')
    (hmark : ';' ∈ ext' → ';' ∈ ext) (h : withoutParams (stem ++ ext ++ after) = stem ++ ext) :
    withoutParams (stem ++ ext' ++ after) = stem ++ ext' := by
  have hplain := plain_of_withoutParams h
  obtain ⟨directory, hstem, hdirectory⟩ := Path.exists_lastName stem
  have hslash := Path.slash_not_mem_lastName stem
  generalize lastName stem = name at hstem hslash
  subst hstem
  have hcut {e : List Char} (he : '/' ∉ e) : withoutParams (directory ++ name ++ e ++ after) =
      directory ++ (name ++ e ++ after).takeWhile (· != ';') := by
    have hname : '/' ∉ name ++ e ++ after := by
      simpa using ⟨hslash, he, hplain⟩
    rw [← withoutParams_append hdirectory hname]
    simp
  rw [hcut hext.plain, List.append_assoc directory, List.append_cancel_left_eq] at h
  obtain ⟨hfine, hrest⟩ := takeWhile_eq_front h
  have hfine' : ∀ c ∈ name ++ ext', (c != ';') = true := by
    intro c hc
    rcases List.mem_append.mp hc with hc | hc
    · exact hfine c (List.mem_append_left _ hc)
    · have hnone : ';' ∉ ext := fun hmem => by simpa using hfine ';' (List.mem_append_right _ hmem)
      simpa using fun heq : c = ';' => hnone (hmark (heq ▸ hc))
  rw [hcut hext'.plain, List.takeWhile_append_of_pos hfine', hrest, List.append_nil,
    List.append_assoc]

/-! ## Paths -/

/-- The path of an address in the text behind its location. -/
def pathIn (hasParams : Bool) (cs : List Char) : List Char :=
  let bare := (splitMark '?' (splitMark '#' cs).1).1
  if hasParams then withoutParams bare else bare

/-- A query or a fragment starts at the first mark of either kind. -/
theorem splitMark_eq (cs : List Char) : (splitMark '?' (splitMark '#' cs).1).1 =
    (cutAt (fun c => c == '?' || c == '#') cs).1 := by
  have hmarks : (fun c : Char => decide ((!(c == '?')) = true ∧ (!(c == '#')) = true)) =
      fun c => !(c == '?' || c == '#') := by
    funext c
    rw [Bool.decide_and, Bool.decide_coe, Bool.decide_coe, Bool.not_or]
  change (cs.takeWhile fun c => !(c == '#')).takeWhile (fun c => !(c == '?')) = _
  rw [List.takeWhile_takeWhile, hmarks]
  rfl

theorem pathIn_eq (hasParams : Bool) (cs : List Char) : pathIn hasParams cs =
    if hasParams then withoutParams (cutAt (fun c => c == '?' || c == '#') cs).1
    else (cutAt (fun c => c == '?' || c == '#') cs).1 := by
  unfold pathIn
  rw [splitMark_eq]

theorem pathIn_prefix_cutAt (hasParams : Bool) (cs : List Char) :
    pathIn hasParams cs <+: (cutAt (fun c => c == '?' || c == '#') cs).1 := by
  rw [pathIn_eq]
  split
  · exact withoutParams_prefix _
  · exact List.prefix_rfl

/-- What a query or a fragment contains is no part of the path. -/
theorem pathIn_append {tail : List Char} (h : IsTail tail) (hasParams : Bool) (cs : List Char) :
    pathIn hasParams (cs ++ tail) = pathIn hasParams cs := by
  have hstop : ∀ c ∈ tail.head?, (c == '?' || c == '#') = true := fun c hc => by
    rcases h c hc with rfl | rfl <;> rfl
  rw [pathIn_eq, pathIn_eq, cutAt_append hstop]

/-- Another extension in the place of one stays at the end of the path, if it brings no marks. -/
theorem pathIn_replace {hasParams : Bool} (hext : Extends stem ext) (hext' : Extends stem ext')
    (hmarks : ∀ c ∈ ['?', '#', ';'], c ∈ ext' → c ∈ ext)
    (h : pathIn hasParams (stem ++ ext ++ after) = stem ++ ext) :
    pathIn hasParams (stem ++ ext' ++ after) = stem ++ ext' := by
  let plain (c : Char) : Bool := !(c == '?' || c == '#')
  have hpath (cs : List Char) : pathIn hasParams cs =
      if hasParams then withoutParams (cs.takeWhile plain) else cs.takeWhile plain :=
    pathIn_eq hasParams cs
  have hstart : stem ++ ext <+: (stem ++ ext ++ after).takeWhile plain := by
    have hpath := pathIn_prefix_cutAt hasParams (stem ++ ext ++ after)
    rwa [h] at hpath
  have hplain : ∀ c ∈ stem ++ ext, plain c = true := fun c hc =>
    List.mem_takeWhile_imp (hstart.subset hc)
  have hplain' : ∀ c ∈ stem ++ ext', plain c = true := by
    intro c hc
    rcases List.mem_append.mp hc with hc | hc
    · exact hplain c (List.mem_append_left _ hc)
    · by_contra hmark
      have hmem : c = '?' ∨ c = '#' := by
        simpa [plain, or_iff_not_imp_left] using hmark
      have hold : c ∈ ext := hmarks c (by simp [or_assoc.symm, hmem]) hc
      exact hmark (hplain c (List.mem_append_right _ hold))
  rw [hpath] at h ⊢
  rw [List.takeWhile_append_of_pos hplain] at h
  rw [List.takeWhile_append_of_pos hplain']
  split at h
  · rw [if_pos ‹_›]
    exact withoutParams_replace hext hext' (hmarks ';' (by simp)) h
  · rw [if_neg ‹_›, List.append_right_eq_self.mp h, List.append_nil]

/-! ## What is in front of the path -/

/-- A text is cut at the same place when something else follows behind the cut. -/
theorem cutAt_replace {stop : Char → Bool} {front rest : List Char} (hstem : stem ≠ [])
    (h : (cutAt stop (front ++ rest)).2 = stem ++ rest) (rest' : List Char) :
    cutAt stop (front ++ rest') = ((cutAt stop (front ++ rest)).1, stem ++ rest') := by
  induction front with
  | nil =>
    -- the cut lies in front of what is replaced, since it leaves more than that
    have hlength : (stem ++ rest).length ≤ rest.length := h ▸ List.length_dropWhile_le _ rest
    have hpositive := List.length_pos_iff.mpr hstem
    rw [List.length_append] at hlength
    omega
  | cons c front ih =>
    cases hc : stop c with
    | true =>
      have hwhole : c :: front ++ rest = stem ++ rest := by simpa [cutAt, hc] using h
      obtain rfl := List.append_cancel_right hwhole
      simp [cutAt, hc]
    | false =>
      have hrest : (cutAt stop (front ++ rest)).2 = stem ++ rest := by simpa [cutAt, hc] using h
      have hpair := Prod.mk.inj (ih hrest)
      simpa [cutAt, hc] using hpair

/-- What replaces the end of the text behind a location leaves the location alone. -/
theorem splitLocation_replace {front rest rest' : List Char} (hstem : stem ≠ [])
    (hhead : rest.head? ≠ some '/') (hhead' : rest'.head? ≠ some '/')
    (h : (splitLocation (front ++ rest)).2 = stem ++ rest) :
    splitLocation (front ++ rest') = ((splitLocation (front ++ rest)).1, stem ++ rest') := by
  by_cases hlocated : ∃ inner, front = '/' :: '/' :: inner
  · obtain ⟨inner, rfl⟩ := hlocated
    exact cutAt_replace hstem h rest'
  · rw [splitLocation_of_head hhead hlocated] at h ⊢
    rw [splitLocation_of_head hhead' hlocated, List.append_cancel_right h]

/-! ## The path of an address -/

/-- Whether the scheme of an address has parameters behind its paths. -/
def hasParams (s : String) : Bool :=
  schemesWithParams.contains (String.ofList (splitScheme (cleaned s)).1)

/-- Whether an address can be read: its location is fine. -/
def isReadable (s : String) : Bool := isLocation (splitLocation (splitScheme (cleaned s)).2).1

theorem path_eq (s : String) : (parts s).map Parts.path =
    if isReadable s then .ok (String.ofList (pathIn (hasParams s) (behindLocation s)))
    else .error .wrongValue := by
  rw [parts_eq, isReadable, pathIn, hasParams]
  cases isLocation (splitLocation (splitScheme (cleaned s)).2).1 <;> rfl

/-- A query or a fragment does not change the path of an address. -/
theorem path_append (u : String) {tail : String} (h : IsTail tail.toList) :
    (parts (u ++ tail)).map Parts.path = (parts u).map Parts.path := by
  have hkept : IsTail (kept tail.toList) := h.filter ⟨rfl, rfl⟩
  have hscheme := splitScheme_tail hkept (cleaned u)
  rw [← cleaned_append (.inr h.not_margin)] at hscheme
  have hlocation := splitLocation_append (splitScheme (cleaned u)).2 hkept
  have hparams : hasParams (u ++ tail) = hasParams u := by rw [hasParams, hscheme, hasParams]
  have hreadable : isReadable (u ++ tail) = isReadable u := by
    rw [isReadable, hscheme, hlocation, isReadable]
  have hbehind : behindLocation (u ++ tail) = behindLocation u ++ kept tail.toList := by
    rw [behindLocation, hscheme, hlocation, behindLocation]
  rw [path_eq, path_eq, hparams, hreadable, hbehind, pathIn_append hkept]

/-! ## The extension of an address -/

/-- The extension of the path of an address, as it is written. -/
def writtenExtension (s : String) : Except Fault String :=
  (parts s).map fun p => (Path.splitExtension p.path).2

theorem writtenExtension_eq (s : String) : writtenExtension s =
    ((parts s).map Parts.path).map fun path => (Path.splitExtension path).2 := by
  rw [writtenExtension]
  cases parts s <;> rfl

/-- A query or a fragment does not change the extension of an address. -/
theorem writtenExtension_append (u : String) {tail : String} (h : IsTail tail.toList) :
    writtenExtension (u ++ tail) = writtenExtension u := by
  rw [writtenExtension_eq, path_append u h, ← writtenExtension_eq]

/-- A text as it counts inside of an address. -/
def counted (s : String) : String := String.ofList (kept s.toList)

/-- The place of the extension of an address in its text, between what is before it and what is
after it: the path goes as far as the extension, in the text behind the location. -/
structure ExtensionAt (before written after : String) : Prop where
  readable : isReadable (before ++ written ++ after) = true
  placed : ∃ stem, Extends stem (kept written.toList) ∧
    behindLocation (before ++ written ++ after) = stem ++ kept written.toList ++ kept after.toList ∧
    pathIn (hasParams (before ++ written ++ after))
        (stem ++ kept written.toList ++ kept after.toList) =
      stem ++ kept written.toList

theorem ExtensionAt.written_eq {before written after : String}
    (h : ExtensionAt before written after) :
    writtenExtension (before ++ written ++ after) = .ok (counted written) := by
  obtain ⟨stem, hextends, hbehind, hpath⟩ := h.placed
  rw [writtenExtension_eq, path_eq, h.readable, hbehind, hpath]
  exact congrArg Except.ok (congrArg Prod.snd (Path.splitExtension_append hextends))

/-- Parts of what counts of an address are what is kept of parts of its text. -/
theorem exists_kept {u : String} {front middle back : List Char}
    (h : cleaned u = front ++ (middle ++ back)) :
    ∃ before text after : String, u = before ++ text ++ after ∧ kept text.toList = middle ∧
      kept after.toList = back := by
  obtain ⟨before, rest, hu, -, hrest⟩ := List.filter_eq_append_iff.mp h
  obtain ⟨text, after, rfl, htext, hafter⟩ := List.filter_eq_append_iff.mp hrest
  refine ⟨String.ofList (u.toList.takeWhile isMargin ++ before), String.ofList text,
    String.ofList after, ?_, ?_, ?_⟩
  · refine String.toList_inj.mp ((List.takeWhile_append_dropWhile (p := isMargin)).symm.trans ?_)
    rw [hu]
    simp
  · rw [String.toList_ofList, kept, htext]
  · rw [String.toList_ofList, kept, hafter]

/-- The extension of an address has a place in its text. -/
theorem exists_extensionAt {u ext : String} (h : writtenExtension u = .ok ext) (hne : ext ≠ "") :
    ∃ before written after, u = before ++ written ++ after ∧ counted written = ext ∧
      ExtensionAt before written after := by
  rw [writtenExtension_eq, path_eq] at h
  split at h
  · rename_i hreadable
    have hsplit := Except.ok.inj h
    dsimp only at hsplit
    rcases Path.splitExtension_cases (String.ofList (pathIn (hasParams u) (behindLocation u))) with
      ⟨stem, ext', hextends, hpath, hfound⟩ | hfound
    · rw [hfound] at hsplit
      rw [String.toList_ofList] at hpath
      obtain ⟨back, hbehind⟩ := (pathIn_prefix_cutAt (hasParams u) (behindLocation u)).trans
        (List.takeWhile_prefix _)
      obtain ⟨front, hfront⟩ := behindLocation_suffix u
      rw [hpath] at hbehind
      have hcleaned : cleaned u = front ++ stem ++ (ext' ++ back) := by
        rw [← hfront, ← hbehind]
        simp
      obtain ⟨before, written, after, hu, rfl, rfl⟩ := exists_kept hcleaned
      refine ⟨before, written, after, hu, hsplit, ?_⟩
      rw [← hbehind] at hpath
      rw [hu] at hreadable hpath hbehind
      exact ⟨hreadable, stem, hextends, hbehind.symm, hpath⟩
    · rw [hfound] at hsplit
      exact absurd hsplit.symm hne
  · cases h

/-- A text that is lowered like an extension is one as well. -/
theorem extends_of_lower (hsame : Text.lowerFrom [] ext' = Text.lowerFrom [] ext)
    (h : Extends stem ext) : Extends stem ext' := by
  obtain ⟨rest, rfl, hdot, hslash⟩ := h.dotted
  have hsmall : ∀ c ∈ ['.'], Text.IsStrict c := by simp [Text.IsStrict]
  have hstart : ['.'] <+: Text.lowerFrom [] ext' := by
    rw [hsame, Text.prefix_lowerFrom_iff hsmall (by decide)]
    exact ⟨rest.map Char.toLower, rfl⟩
  rw [Text.prefix_lowerFrom_iff hsmall (by decide)] at hstart
  cases ext' with
  | nil => exact absurd (List.prefix_nil.mp hstart) (List.cons_ne_nil _ _)
  | cons c rest' =>
    obtain rfl : c = '.' :=
      (Text.toLower_eq_iff (.inl (by decide))).mp (List.cons_prefix_cons.mp hstart).1.symm
    -- the dot is lowered to itself, so the rest of one text is lowered like that of the other
    have hrest : Text.lowerFrom ['.'] rest' = Text.lowerFrom ['.'] rest := (List.cons.inj hsame).2
    refine ⟨⟨rest', rfl, ?_, ?_⟩, h.named⟩
    · exact (Text.mem_iff_of_lowerFrom (by decide) hrest).not.mpr hdot
    · exact (Text.mem_iff_of_lowerFrom (by decide) hrest).not.mpr hslash

/-- What is in front of the path stays as it is if another extension takes the place of one. -/
theorem behindLocation_replace {before written written' after : String}
    (hscheme : ':' ∈ before.toList) (hext : Extends stem (kept written.toList))
    (hext' : Extends stem (kept written'.toList))
    (h : behindLocation (before ++ written ++ after) =
      stem ++ kept written.toList ++ kept after.toList) :
    behindLocation (before ++ written' ++ after) =
        stem ++ kept written'.toList ++ kept after.toList ∧
      isReadable (before ++ written' ++ after) = isReadable (before ++ written ++ after) ∧
      hasParams (before ++ written' ++ after) = hasParams (before ++ written ++ after) := by
  -- the scheme ends in the text that stays, so nothing behind it has a part in it
  have hcounted : ':' ∈ before.toList.dropWhile isMargin := by
    rw [← List.takeWhile_append_dropWhile (p := isMargin) (l := before.toList)] at hscheme
    refine (List.mem_append.mp hscheme).resolve_left fun hmargin => ?_
    exact absurd (List.mem_takeWhile_imp hmargin) (by decide)
  have hcolon : ':' ∈ cleaned before := List.mem_filter.mpr ⟨hcounted, rfl⟩
  have hsplit (text : String) : splitScheme (cleaned (before ++ text ++ after)) =
      ((splitScheme (cleaned before)).1,
        (splitScheme (cleaned before)).2 ++ (kept text.toList ++ kept after.toList)) := by
    rw [String.append_assoc, cleaned_append (.inl (List.ne_nil_of_mem hcounted)),
      String.toList_append, kept_append, splitScheme_append_of_mem hcolon]
  rw [behindLocation, hsplit, List.append_assoc] at h
  have hlocation := splitLocation_replace hext.ne_nil (hext.head?_ne (kept after.toList))
    (hext'.head?_ne (kept after.toList)) h
  refine ⟨?_, ?_, ?_⟩
  · rw [behindLocation, hsplit, hlocation, List.append_assoc]
  · rw [isReadable, isReadable, hsplit, hsplit, hlocation]
  · rw [hasParams, hasParams, hsplit, hsplit]

/-- An extension in other letter case has the place of the one that it replaces, if the scheme ends
before it. -/
theorem ExtensionAt.replace {before written written' after : String}
    (h : ExtensionAt before written after) (hscheme : ':' ∈ before.toList)
    (hsame : Text.lower (counted written') = Text.lower (counted written)) :
    ExtensionAt before written' after := by
  obtain ⟨stem, hextends, hbehind, hpath⟩ := h.placed
  have hlowered :
      Text.lowerFrom [] (kept written'.toList) = Text.lowerFrom [] (kept written.toList) := by
    have htext := congrArg String.toList hsame
    rwa [Text.toList_lower, Text.toList_lower, counted, counted, String.toList_ofList,
      String.toList_ofList] at htext
  have hextends' := extends_of_lower hlowered hextends
  have hlow : ∀ c ∈ ['?', '#', ';'], 0 < c.toNat ∧ c.toNat < 65 := by simp
  have hmarks : ∀ c ∈ ['?', '#', ';'], c ∈ kept written'.toList → c ∈ kept written.toList :=
    fun c hc => (Text.mem_iff_of_lowerFrom (hlow c hc) hlowered).mp
  obtain ⟨hbehind', hreadable, hparams⟩ := behindLocation_replace hscheme hextends hextends' hbehind
  refine ⟨hreadable.trans h.readable, stem, hextends', hbehind', ?_⟩
  rw [hparams]
  exact pathIn_replace hextends hextends' hmarks hpath

/-- The scheme of an address to which a request is sent ends before its extension. -/
theorem ExtensionAt.colon {before written after target : String} {fields : List (String × String)}
    (h : ExtensionAt before written after)
    (htarget : Target.prepare (before ++ written ++ after) fields = .ok target) :
    ':' ∈ before.toList := by
  obtain ⟨stem, hextends, -, -⟩ := h.placed
  obtain ⟨rest, hrest, -, -⟩ := hextends.dotted
  obtain ⟨blank, text, hwritten, hblank, -, -⟩ := List.filter_eq_cons_iff.mp hrest
  obtain ⟨front, tail, hurl, hfront⟩ := Target.prepare_colon htarget
  have hsplit : (before.toList ++ blank) ++ '.' :: (text ++ after.toList) =
      front ++ ':' :: tail := by
    rw [← hurl, String.toList_append, String.toList_append, hwritten]
    simp
  -- the colon comes before the dot of the extension
  have hcolon : ':' ∈ before.toList ++ blank := by
    rcases List.append_eq_append_iff.mp hsplit with
      ⟨between, hbetween, hdot⟩ | ⟨between, hbetween, hdot⟩
    · cases between with
      | nil => cases hdot
      | cons c between =>
        obtain rfl := (List.cons.inj hdot).1
        exact absurd (by simp [hbetween]) hfront
    · cases between with
      | nil => cases hdot
      | cons c between =>
        obtain rfl := (List.cons.inj hdot).1
        simp [hbetween]
  exact (List.mem_append.mp hcolon).resolve_right fun hmem => hblank ':' hmem rfl

/-! ## Other letter case -/

/-- The second address has a text of the same lower case in the place of the extension of the
first one. -/
inductive Recased : String → String → Prop
  | intro {before written written' after : String} (h : ExtensionAt before written after)
      (hsame : Text.lower (counted written') = Text.lower (counted written)) :
      Recased (before ++ written ++ after) (before ++ written' ++ after)

variable {u v target : String} {fields : List (String × String)}

/-- In other letter case an extension is still that of the address, as it is written then. -/
theorem Recased.written (h : Recased u v) (htarget : Target.prepare u fields = .ok target) :
    ∃ ext ext', writtenExtension u = .ok ext ∧ writtenExtension v = .ok ext' ∧
      Text.lower ext' = Text.lower ext := by
  cases h with
  | intro h hsame =>
    exact ⟨_, _, h.written_eq, (h.replace (h.colon htarget) hsame).written_eq, hsame⟩

/-- Every extension can be written in every other letter case. -/
theorem exists_recased {written written' : String} (h : writtenExtension u = .ok written)
    (hne : written ≠ "") (htarget : Target.prepare u fields = .ok target)
    (hsame : Text.lower (counted written') = Text.lower written) :
    ∃ v, Recased u v ∧ writtenExtension v = .ok (counted written') := by
  obtain ⟨before, text, after, rfl, rfl, hplace⟩ := exists_extensionAt h hne
  exact ⟨_, .intro hplace hsame, (hplace.replace (hplace.colon htarget) hsame).written_eq⟩

end Address

end Compositor
