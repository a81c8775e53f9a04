import Compositor.Foreground
import Compositor.Proofs.Stream.Probing
import Mathlib.Data.List.TakeWhile

/-!
# Queries and fragments

What follows the first question mark or number sign of a locator with a scheme is no part of its
path, whatever it contains. So it changes neither the type of a source nor its extension, and the
format that is chosen by the extension stays the same.
-/
namespace Compositor

namespace Address

variable {cs rest tail : List Char}

/-- The rest of an address from its query or its fragment on. -/
def IsTail (tail : List Char) : Prop := ∀ c ∈ tail.head?, c = '?' ∨ c = '#'

/-- Text without a query and a fragment. -/
def IsBare (cs : List Char) : Prop := ∀ c ∈ cs, c ≠ '?' ∧ c ≠ '#'

theorem IsTail.filter {keep : Char → Bool} (hkeep : keep '?' = true ∧ keep '#' = true)
    (h : IsTail tail) : IsTail (tail.filter keep) := by
  cases tail with
  | nil => exact h
  | cons c tail =>
    have hc : keep c = true := by
      rcases h c rfl with rfl | rfl
      · exact hkeep.1
      · exact hkeep.2
    rwa [List.filter_cons_of_pos hc]

/-- What is behind the first colon has no part in the scheme. -/
theorem splitScheme_append_of_mem (h : ':' ∈ cs) (tail : List Char) :
    splitScheme (cs ++ tail) = ((splitScheme cs).1, (splitScheme cs).2 ++ tail) := by
  have hcolon : (cs.takeWhile (· != ':')).length ≠ cs.length := by
    intro hlength
    have hall := (List.takeWhile_prefix (· != ':')).eq_of_length hlength
    simpa using List.takeWhile_eq_self_iff.mp hall ':' h
  have htake : (cs ++ tail).takeWhile (· != ':') = cs.takeWhile (· != ':') := by
    rw [List.takeWhile_append, if_neg hcolon]
  have hdrop : (cs ++ tail).drop (cs.takeWhile (· != ':')).length =
      cs.drop (cs.takeWhile (· != ':')).length ++ tail :=
    List.drop_append_of_le_length (List.takeWhile_prefix _).length_le
  have hrest : cs.drop (cs.takeWhile (· != ':')).length ≠ [] := by
    intro hnil
    have hle := List.drop_eq_nil_iff.mp hnil
    exact hcolon (le_antisymm (List.takeWhile_prefix _).length_le hle)
  unfold splitScheme
  dsimp only
  rw [htake, hdrop]
  generalize cs.drop (cs.takeWhile (· != ':')).length = after at hrest
  generalize cs.takeWhile (· != ':') = before
  cases before with
  | nil => rfl
  | cons first before =>
    cases after with
    | nil => exact absurd rfl hrest
    | cons colon rest =>
      dsimp only [List.cons_append]
      split <;> rfl

/-- A scheme ends in a colon and has the characters of one. -/
theorem splitScheme_found (h : (splitScheme cs).1 ≠ []) :
    ':' ∈ cs ∧ ∀ c ∈ cs.takeWhile (· != ':'), isSchemeChar c = true := by
  unfold splitScheme at h
  dsimp only at h
  split at h
  · rename_i hbefore hrest
    split at h
    · rename_i hform
      refine ⟨?_, fun c hc => ?_⟩
      · by_contra hnone
        have hall : cs.takeWhile (· != ':') = cs := List.takeWhile_eq_self_iff.mpr fun c hc => by
          simpa using fun heq : c = ':' => hnone (heq ▸ hc)
        rw [hall, List.drop_length] at hrest
        cases hrest
      · rw [Bool.and_eq_true, List.all_eq_true] at hform
        exact hform.2 c hc
    · exact absurd rfl h
  · exact absurd rfl h

theorem splitScheme_nil (h : (splitScheme cs).1 = []) : splitScheme cs = ([], cs) := by
  unfold splitScheme at h ⊢
  dsimp only at h ⊢
  split at h
  · rename_i hbefore _
    split at h
    · rw [hbefore] at h
      cases h
    · rw [if_neg ‹_›]
  · rfl

/-- A query or a fragment has no part in the scheme, even of an address without one. -/
theorem splitScheme_tail {tail : List Char} (h : IsTail tail) (cs : List Char) :
    splitScheme (cs ++ tail) = ((splitScheme cs).1, (splitScheme cs).2 ++ tail) := by
  by_cases hcolon : ':' ∈ cs
  · exact splitScheme_append_of_mem hcolon tail
  · have hfront : ∀ c ∈ cs, (c != ':') = true := fun c hc => by
      simpa using fun heq : c = ':' => hcolon (heq ▸ hc)
    have hnone : (splitScheme cs).1 = [] := by
      by_contra hfound
      exact hcolon (splitScheme_found hfound).1
    have hnone' : (splitScheme (cs ++ tail)).1 = [] := by
      by_contra hfound
      obtain ⟨hmem, hscheme⟩ := splitScheme_found hfound
      rw [List.takeWhile_append_of_pos hfront] at hscheme
      cases tail with
      | nil => exact hcolon (by simpa using hmem)
      | cons mark rest =>
        have hmark : mark ∈ cs ++ (mark :: rest).takeWhile (· != ':') := by
          rcases h mark rfl with rfl | rfl <;> simp
        have hform := hscheme mark hmark
        rcases h mark rfl with rfl | rfl <;> exact absurd hform (by decide)
    rw [splitScheme_nil hnone, splitScheme_nil hnone']

/-- A text that is cut somewhere is cut there too when more follows, and a text that is not cut
is cut in front of what stops it. -/
theorem cutAt_append {stop : Char → Bool} (h : ∀ c ∈ tail.head?, stop c = true) :
    cutAt stop (cs ++ tail) = ((cutAt stop cs).1, (cutAt stop cs).2 ++ tail) := by
  induction cs with
  | nil =>
    cases tail with
    | nil => rfl
    | cons c tail => simp [cutAt, h c rfl]
  | cons c cs ih =>
    have hpair := Prod.mk.inj ih
    cases hc : stop c with
    | true => simp [cutAt, hc]
    | false => simpa [cutAt, hc] using hpair

theorem splitLocation_of_ne (h : ∀ rest, cs ≠ '/' :: '/' :: rest) :
    splitLocation cs = ([], cs) := by
  unfold splitLocation
  split
  · exact absurd rfl (h _)
  · rfl

/-- Two slashes in front of a location do not come from what follows them. -/
theorem splitLocation_of_head (hhead : tail.head? ≠ some '/')
    (h : ¬ ∃ rest, cs = '/' :: '/' :: rest) : splitLocation (cs ++ tail) = ([], cs ++ tail) := by
  refine splitLocation_of_ne fun rest heq => ?_
  match cs with
  | [] => exact hhead (congrArg List.head? heq)
  | [c] => exact hhead (congrArg List.head? (List.cons.inj heq).2)
  | c :: d :: cs =>
    cases heq
    exact h ⟨cs, rfl⟩

theorem splitLocation_append (cs : List Char) (h : IsTail tail) :
    splitLocation (cs ++ tail) = ((splitLocation cs).1, (splitLocation cs).2 ++ tail) := by
  have hhead : tail.head? ≠ some '/' := fun hslash => absurd (h '/' hslash) (by decide)
  by_cases hlocated : ∃ rest, cs = '/' :: '/' :: rest
  · obtain ⟨rest, rfl⟩ := hlocated
    exact cutAt_append fun c hc => by rcases h c hc with rfl | rfl <;> rfl
  · rw [splitLocation_of_head hhead hlocated, splitLocation_of_ne (not_exists.mp hlocated)]

/-- The path of an address ends where its query or its fragment starts. -/
theorem splitMark_tail (hbare : IsBare cs) (h : IsTail tail) :
    (splitMark '?' (splitMark '#' (cs ++ tail)).1).1 = cs := by
  have hquery : ∀ c ∈ cs, (!(c == '?')) = true := fun c hc => by simpa using (hbare c hc).1
  have hfragment : ∀ c ∈ cs, (!(c == '#')) = true := fun c hc => by simpa using (hbare c hc).2
  have hstop : (tail.takeWhile fun c => !(c == '#')).takeWhile (fun c => !(c == '?')) = [] := by
    cases tail with
    | nil => rfl
    | cons c tail => rcases h c rfl with rfl | rfl <;> simp
  change ((cs ++ tail).takeWhile fun c => !(c == '#')).takeWhile (fun c => !(c == '?')) = cs
  rw [List.takeWhile_append_of_pos hfragment, List.takeWhile_append_of_pos hquery, hstop,
    List.append_nil]

theorem splitScheme_suffix (cs : List Char) : (splitScheme cs).2 <:+ cs := by
  unfold splitScheme
  dsimp only
  split
  · rename_i hrest
    split
    · exact (List.suffix_cons _ _).trans (hrest ▸ List.drop_suffix _ _)
    · exact List.suffix_rfl
  · exact List.suffix_rfl

theorem splitLocation_suffix (cs : List Char) : (splitLocation cs).2 <:+ cs := by
  unfold splitLocation
  split
  · rename_i rest
    exact (List.dropWhile_suffix _).trans (List.suffix_append ['/', '/'] rest)
  · exact List.suffix_rfl

theorem IsBare.filter (h : IsBare cs) (keep : Char → Bool) : IsBare (cs.filter keep) :=
  fun c hc => h c (List.mem_filter.mp hc).1

theorem IsBare.suffix (h : IsBare cs) (hrest : rest <:+ cs) : IsBare rest :=
  fun c hc => h c (hrest.subset hc)

theorem IsTail.not_margin (h : IsTail tail) : tail.dropWhile isMargin = tail := by
  cases tail with
  | nil => rfl
  | cons c tail =>
    refine List.dropWhile_cons_of_neg ?_
    rcases h c rfl with rfl | rfl <;> decide

/-- A text adds what is kept of it to an address in which something counts, and so does a text
that starts with something that counts. -/
theorem cleaned_append {s t : String}
    (h : s.toList.dropWhile isMargin ≠ [] ∨ t.toList.dropWhile isMargin = t.toList) :
    cleaned (s ++ t) = cleaned s ++ kept t.toList := by
  rw [cleaned, cleaned, String.toList_append, List.dropWhile_append]
  by_cases hs : s.toList.dropWhile isMargin = []
  · rw [hs, h.resolve_left (not_not.mpr hs)]
    rfl
  · rw [if_neg (by simpa using hs), kept_append]

/-- The text of an address behind its location. -/
def behindLocation (s : String) : List Char :=
  (splitLocation (splitScheme (cleaned s)).2).2

theorem behindLocation_suffix (s : String) : behindLocation s <:+ cleaned s :=
  (splitLocation_suffix _).trans (splitScheme_suffix _)

/-- The address up to its query. -/
theorem parts_eq (s : String) : parts s =
    if !isLocation (splitLocation (splitScheme (cleaned s)).2).1 then .error .wrongValue
    else
      let scheme := String.ofList (splitScheme (cleaned s)).1
      let front := splitMark '#' (behindLocation s)
      let path := splitMark '?' front.1
      .ok ⟨scheme, String.ofList (splitLocation (splitScheme (cleaned s)).2).1,
        String.ofList (if schemesWithParams.contains scheme then withoutParams path.1 else path.1),
        String.ofList path.2, String.ofList front.2⟩ := rfl

/-- Two addresses with the same parts up to the query. -/
structure Parts.SamePlace (p q : Parts) : Prop where
  scheme : q.scheme = p.scheme
  location : q.location = p.location
  path : q.path = p.path

/-- A query or a fragment leaves the other parts of an address alone. -/
theorem parts_append {u v : String} {p : Parts} (hbare : IsBare u.toList) (htail : IsTail tail)
    (hv : v.toList = u.toList ++ tail) (hp : parts u = .ok p) :
    ∃ q, parts v = .ok q ∧ p.SamePlace q := by
  obtain ⟨added, hadded, hcleaned⟩ : ∃ added, IsTail added ∧ cleaned v = cleaned u ++ added := by
    refine ⟨kept tail, htail.filter (by decide), ?_⟩
    have hv : v = u ++ String.ofList tail := String.toList_inj.mp (by simp [hv])
    have happend := cleaned_append (s := u) (t := String.ofList tail)
      (.inr (by rw [String.toList_ofList, htail.not_margin]))
    rwa [← hv, String.toList_ofList] at happend
  have hbehind : IsBare (behindLocation u) :=
    ((hbare.suffix (List.dropWhile_suffix _)).filter _).suffix (behindLocation_suffix u)
  rw [parts_eq] at hp
  split at hp
  · cases hp
  · rename_i hlocation
    obtain rfl := Except.ok.inj hp
    have hsplit := splitScheme_tail hadded (cleaned u)
    rw [← hcleaned] at hsplit
    have hcut := splitLocation_append (splitScheme (cleaned u)).2 hadded
    have hrest : behindLocation v = behindLocation u ++ added := by
      rw [behindLocation, hsplit, hcut]
      rfl
    have hpath := splitMark_tail hbehind (nofun : IsTail [])
    have hpath' := splitMark_tail hbehind hadded
    rw [List.append_nil] at hpath
    rw [← hrest] at hpath'
    rw [parts_eq, hsplit, hcut, if_neg hlocation]
    refine ⟨_, rfl, rfl, rfl, ?_⟩
    dsimp only
    rw [hpath, hpath']

end Address

open Address

namespace Locator

/-- A locator, and the same one with a query or a fragment or both behind it. -/
inductive Decorated (u : String) : String → Prop
  | bare : Decorated u u
  | query (q : String) : Decorated u (u ++ "?" ++ q)
  | fragment (f : String) : Decorated u (u ++ "#" ++ f)
  | both (q f : String) : Decorated u (u ++ "?" ++ q ++ "#" ++ f)

variable {u v : String} {type : SourceType}

theorem Decorated.tail (h : Decorated u v) :
    ∃ tail, IsTail tail ∧ v.toList = u.toList ++ tail := by
  cases h with
  | bare => exact ⟨[], nofun, (List.append_nil _).symm⟩
  | query q => exact ⟨'?' :: q.toList, by simp [IsTail], by simp⟩
  | fragment f => exact ⟨'#' :: f.toList, by simp [IsTail], by simp⟩
  | both q f => exact ⟨'?' :: (q.toList ++ '#' :: f.toList), by simp [IsTail], by simp⟩

/-- Decoration changes neither the type of a remote source nor its extension. -/
theorem decorated_eq (hbare : IsBare u.toList) (htype : sourceType u = .ok type)
    (hremote : type ≠ .file) (h : Decorated u v) :
    sourceType v = .ok type ∧ extension v = extension u := by
  obtain ⟨tail, htail, hv⟩ := h.tail
  obtain ⟨p, hp, hof⟩ := bind_eq_ok.mp htype
  cases hof
  obtain ⟨q, hq, hsame⟩ := parts_append hbare htail hv hp
  have hfile : (typeOfScheme p.scheme == .file) = false := beq_false_of_ne hremote
  constructor
  · rw [sourceType, hq]
    change Except.ok (typeOfScheme q.scheme) = _
    rw [hsame.scheme]
  · rw [extension, extension, hp, hq]
    change Except.ok (Text.lower (Path.suffix (if (typeOfScheme q.scheme == .file) = true then v
      else q.path))) = .ok (Text.lower (Path.suffix (if (typeOfScheme p.scheme == .file) = true
      then u else p.path)))
    rw [hsame.scheme, hsame.path, hfile]
    rfl

end Locator

namespace StreamInfo

variable {v ext : String} {info : StreamInfo}

/-- The decoder of a source on the web is guessed from its extension alone. -/
theorem placeholder_hint (htype : Locator.sourceType v = .ok .url)
    (hext : Locator.extension v = .ok ext) (h : placeholder v = .ok info) :
    info.needsVp9Decoder = (ext == ".webm") := by
  have hguess : guessVp9 v = .ok (ext == ".webm") := by
    rw [guessVp9, htype, hext]
    rfl
  rw [placeholder, htype, hguess] at h
  cases h
  rfl

end StreamInfo

namespace Foreground

open StreamInfo (probeCommand)

/-- What is behind the question mark or the number sign of a remote locator plays no part in how
a clip is made from it: the type, the extension and so the format are those of the bare locator,
and so is the decoder that is guessed when a source on the web cannot be probed. -/
theorem ofLocator_decorated {u : String} {type : SourceType} (hbare : IsBare u.toList)
    (htype : Locator.sourceType u = .ok type) (hremote : type ≠ .file) :
    ∃ ext, Locator.extension u = .ok ext ∧ ∀ v, Locator.Decorated u v →
      Locator.sourceType v = .ok type ∧ Locator.extension v = .ok ext ∧
      (∀ context, ofLocator (.str v) context = do
        let context ← Context.orDefault context
        match ForegroundFormat.ofExtension? ext with
        | some format => ofFormat format (.str v) context
        | none => Act.fail (.media (.unknownExtension v ext))) ∧
      (type = .url → ∀ (w : World) (id : ContextId) (c : Context),
        w.contexts[id.index]? = some c →
        let reply := w.answer (probeCommand c.ffprobe v) v
        reply.Legible w.platform.room → reply.video? w.platform.room = none →
        ∃ info, (StreamInfo.probe (.str v) id w).1 = .ok info ∧
          info.needsVp9Decoder = (ext == ".webm")) := by
  obtain ⟨p, hp, -⟩ := bind_eq_ok.mp htype
  obtain ⟨ext, hext⟩ : ∃ ext, Locator.extension u = .ok ext := by
    rw [Locator.extension, hp]
    exact ⟨_, rfl⟩
  refine ⟨ext, hext, fun v hv => ?_⟩
  obtain ⟨htype', hext'⟩ := Locator.decorated_eq hbare htype hremote hv
  rw [hext] at hext'
  refine ⟨htype', hext', fun context => ?_, ?_⟩
  · have hvalue : Locator.extensionOfValue (.str v) = .ok ext := hext'
    rw [ofLocator, hvalue]
    rfl
  · rintro rfl w id c hc reply hlegible hvideo
    obtain ⟨w', hprobe⟩ := StreamInfo.probe_eq hc htype'
    obtain ⟨info, hinfo⟩ := (StreamInfo.ofReply_ok_iff htype' reply w').mpr hlegible
    have hplaceholder := (StreamInfo.ofReply_info htype' hinfo).2 hvideo
    exact ⟨info, by rw [hprobe, hinfo], StreamInfo.placeholder_hint htype' hext' hplaceholder⟩

/-- A query that looks like the name of another file, behind a locator that a blank comes
before. -/
theorem ofLocator_decorated_query :
    let clip := " https://cdn.example.com/clip.webm"
    let decorated := " https://cdn.example.com/clip.webm?of=a/b.mov#at[0]:c.zip"
    let w : World := { World.initial with
      contexts := [⟨"ffmpeg", "ffprobe", "/tmp/one", []⟩]
      runs := [(decorated, [.timedOut ""])] }
    IsBare clip.toList ∧ Locator.sourceType clip = .ok .url ∧ SourceType.url ≠ .file ∧
    Locator.extension decorated = .ok ".webm" ∧
    ∃ info, (StreamInfo.probe decorated ⟨0⟩ w).1 = .ok info ∧ info.needsVp9Decoder = true := by
  intro clip decorated w
  have hplain : clip.toList.all (fun c => c != '?' && c != '#') = true := by decide +kernel
  have hbare : IsBare clip.toList := fun c hc => by simpa using List.all_eq_true.mp hplain c hc
  have htype : Locator.sourceType clip = .ok .url := ok_of_toOption (by decide +kernel)
  have hext : Locator.extension clip = .ok ".webm" := ok_of_toOption (by decide +kernel)
  have hc : w.contexts[(⟨0⟩ : ContextId).index]? = some ⟨"ffmpeg", "ffprobe", "/tmp/one", []⟩ := rfl
  have hanswer : w.answer (probeCommand "ffprobe" decorated) decorated = .timedOut "" := by
    have hnull : Act.hasNull (probeCommand "ffprobe" decorated) = false := by decide +kernel
    rw [World.answer, hnull]
    rfl
  have hreading (room : Nat) :
      (w.answer (probeCommand "ffprobe" decorated) decorated).reading? room = none := by
    rw [hanswer]
    rfl
  obtain ⟨ext, hbareExt, hall⟩ := ofLocator_decorated hbare htype (by decide)
  obtain rfl : ".webm" = ext := Except.ok.inj (hext.symm.trans hbareExt)
  obtain ⟨-, hdecorated, -, hprobe⟩ := hall decorated (.both "of=a/b.mov" "at[0]:c.zip")
  refine ⟨hbare, htype, by decide, hdecorated, hprobe rfl w ⟨0⟩ _ hc ?_ ?_⟩
  · rw [RunReply.Legible, hreading, hanswer]
    exact RunReply.noConfusion
  · rw [RunReply.video?, hreading]

end Foreground

end Compositor
