import Compositor.Address.Web
import Compositor.Locator
import Compositor.Proofs.Address.Groups
import Compositor.Proofs.Fault.Wiring

/-!
# Addresses in normal form

Any text has parts, unless its network location has one bracket only, no host in its brackets or
a disguised separator. An address in normal form never does: all that stands between its scheme
and its path is in ASCII and separates nothing, and what a host has in brackets are eight numbers.
So whatever asks for the parts of such an address gets them.
-/
namespace Compositor

open Address

namespace WebAddress

/-! ## Characters that separate nothing -/

/-- A character of a location that ends nothing and is no bracket. -/
def isInner (c : Char) : Bool := c.toNat < 0x80 && !"/?#[]\t\n\r".toList.contains c

/-- A text of such characters. -/
def IsInner (cs : List Char) : Prop := ∀ c ∈ cs, isInner c = true

instance : DecidablePred IsInner := fun cs => List.decidableBAll _ cs

theorem IsInner.append {a b : List Char} (ha : IsInner a) (hb : IsInner b) : IsInner (a ++ b) :=
  List.forall_mem_append.mpr ⟨ha, hb⟩

/-- What is true of all numbers of ASCII characters is true of the characters. -/
theorem of_ascii (p : Char → Prop) (h : ∀ n < 0x80, p (Char.ofNat n)) {c : Char}
    (hc : c.toNat < 0x80) : p c := by
  have hp := h c.toNat hc
  rwa [Char.ofNat_toNat] at hp

theorem inner_of_isDigit {c : Char} (h : c.isDigit = true) : isInner c = true := by
  have hc : c.toNat < 0x80 := by
    simp only [Char.isDigit, Bool.and_eq_true, decide_eq_true_iff] at h
    exact Nat.lt_of_le_of_lt h.2 (by decide)
  exact of_ascii (fun c => c.isDigit = true → isInner c = true) (by decide +kernel) hc h

theorem inner_hexUpper {n : Nat} (h : n < 16) : isInner (Text.hexUpper n) = true := by
  have hall : ∀ n < 16, isInner (Text.hexUpper n) = true := by decide
  exact hall n h

theorem inner_of_hexValue? {c : Char} (h : (Text.hexValue? c).isSome = true) :
    isInner c = true := by
  have hc : c.toNat < 0x80 := by
    have hbound {d : Char} (hcd : c ≤ d) (hd : d.toNat < 0x80) : c.toNat < 0x80 :=
      Nat.lt_of_le_of_lt hcd hd
    unfold Text.hexValue? at h
    simp only [Bool.and_eq_true, decide_eq_true_iff] at h
    split at h
    · exact hbound ‹_ ∧ _›.2 (by decide)
    · split at h
      · exact hbound ‹_ ∧ _›.2 (by decide)
      · split at h
        · exact hbound ‹_ ∧ _›.2 (by decide)
        · cases h
  exact of_ascii (fun c => (Text.hexValue? c).isSome = true → isInner c = true)
    (by decide +kernel) hc h

/-- What is encoded separates nothing. -/
theorem inner_encodeChar (c : Char) : IsInner (Text.Percent.encodeChar c) := by
  intro d hd
  obtain ⟨b, -, hd⟩ := List.mem_flatMap.mp hd
  have hb := b.toNat_lt
  rcases List.mem_cons.mp hd with rfl | hd
  · decide
  · rcases List.mem_cons.mp hd with rfl | hd
    · exact inner_hexUpper (by omega)
    · rw [List.mem_singleton.mp hd]
      exact inner_hexUpper (Nat.mod_lt _ (by omega))

theorem inner_of_keeps {c : Char} (h : keepsInCredentials c = true) : isInner c = true := by
  have hc : c.toNat < 0x80 := by
    have hvisible : isVisible c = true := by
      simp only [keepsInCredentials, keepsInPath, keepsInFragment, Bool.and_eq_true] at h
      exact h.1.1.1
    simp only [isVisible, Bool.and_eq_true, decide_eq_true_iff] at hvisible
    exact Nat.lt_trans hvisible.2 (by decide)
  exact of_ascii (fun c => keepsInCredentials c = true → isInner c = true) (by decide +kernel) hc h

theorem inner_encode (cs : List Char) : IsInner (encode keepsInCredentials cs).toList := by
  rw [encode, String.toList_ofList]
  intro d hd
  obtain ⟨c, -, hd⟩ := List.mem_flatMap.mp hd
  split at hd
  · rw [List.mem_singleton.mp hd]
    exact inner_of_keeps ‹_›
  · exact inner_encodeChar c d hd

theorem inner_credentialsText (cs : List Char) : IsInner (credentialsText cs).toList := by
  unfold credentialsText
  dsimp only
  split
  · decide
  · split
    · rw [String.toList_append]
      exact (inner_encode _).append (by decide)
    · rw [String.toList_append, String.toList_append, String.toList_append]
      exact (((inner_encode _).append (by decide)).append (inner_encode _)).append (by decide)

theorem inner_toString (n : Nat) : IsInner (toString n).toList := by
  intro c hc
  have hdigit := Nat.isDigit_of_mem_toDigits (by decide) (by decide) (Nat.toList_repr ▸ hc)
  exact inner_of_isDigit hdigit

/-! ## Hosts -/

/-- A host that separates nothing, or one for brackets in them. -/
inductive IsHostText : List Char → Prop
  | plain {cs : List Char} (h : IsInner cs) : IsHostText cs
  | bracketed {cs : List Char} (h : IsInner cs) (hhost : isBracketedHost cs = true) :
      IsHostText ('[' :: cs ++ [']'])

theorem inner_intercalate {mark : String} {parts : List String} (hmark : IsInner mark.toList)
    (hparts : ∀ part ∈ parts, IsInner part.toList) :
    IsInner (String.intercalate mark parts).toList := by
  rw [String.toList_intercalate]
  refine forall_mem_intercalate hmark fun cs hcs => ?_
  obtain ⟨part, hpart, rfl⟩ := List.mem_map.mp hcs
  exact hparts part hpart

theorem inner_eightText {groups : List Nat} (h : groups.length = 8) :
    IsInner (Host.eightText groups).toList := fun c hc => by
  rcases Host.eightText_chars h c hc with hhex | rfl
  · exact inner_of_hexValue? hhex
  · decide

theorem inner_fourText (n : Nat) : IsInner (Host.fourText n).toList :=
  inner_intercalate (by decide) (List.forall_mem_map.mpr fun n _ => inner_toString n)

/-- A name in ASCII without a character that no name may hold. -/
theorem inner_name {name : List Char} (hascii : IsAsciiText name)
    (hallowed : name.any Host.isForbidden = false) : IsInner name := by
  intro c hc
  have hc' : Host.isForbidden c = false := by simpa using List.any_eq_false.mp hallowed c hc
  exact of_ascii (fun c => Host.isForbidden c = false → isInner c = true) (by decide +kernel)
    (hascii c hc) hc'

theorem isHostText_normal? {cs : List Char} {host : String} (h : Host.normal? cs = some host) :
    IsHostText host.toList := by
  unfold Host.normal? at h
  split at h
  · split at h
    · obtain ⟨groups, hread, rfl⟩ := Option.map_eq_some_iff.mp h
      have hlength := Host.length_readEight? hread
      rw [String.toList_append, String.toList_append]
      exact .bracketed (inner_eightText hlength) (isBracketedHost_eightText hlength)
    · cases h
  · split at h
    · cases h
    · next name hname =>
      split at h
      · cases h
      · next hfine =>
        rw [Bool.or_eq_true, not_or] at hfine
        split at h
        · obtain ⟨n, -, rfl⟩ := Option.map_eq_some_iff.mp h
          exact .plain (inner_fourText n)
        · cases h
          rw [String.toList_ofList]
          exact .plain (inner_name (Label.webName?_ascii hname) (Bool.eq_false_iff.mpr hfine.2))

/-! ## Locations -/

/-- What separates nothing is no separator in disguise either. -/
theorem not_disguised_of_ascii {c : Char} (h : c.toNat < 0x80) : isDisguisedSeparator c = false :=
  of_ascii (isDisguisedSeparator · = false) (by decide +kernel) h

/-- The characters that are inner ones, by what they are not. -/
theorem inner_cases {c : Char} (h : isInner c = true) : c ≠ '/' ∧ c ≠ '?' ∧ c ≠ '#' ∧ c ≠ '[' ∧
    c ≠ ']' ∧ c ≠ '\t' ∧ c ≠ '\n' ∧ c ≠ '\r' ∧ c.toNat < 0x80 := by
  simp [isInner] at h
  tauto

/-- A character that ends no location, though it may be a bracket. -/
def isHeld (c : Char) : Bool := isInner c || c == '[' || c == ']'

theorem IsHostText.held {host : List Char} (h : IsHostText host) : ∀ c ∈ host, isHeld c = true := by
  have hinner {cs : List Char} (hcs : IsInner cs) : ∀ c ∈ cs, isHeld c = true := fun c hc => by
    simp [isHeld, hcs c hc]
  cases h with
  | plain h => exact hinner h
  | bracketed h _ =>
    exact List.forall_mem_append.mpr
      ⟨List.forall_mem_cons.mpr ⟨by decide, hinner h⟩, List.forall_mem_singleton.mpr (by decide)⟩

theorem held_cases {c : Char} (h : isHeld c = true) : c ≠ '/' ∧ c ≠ '?' ∧ c ≠ '#' ∧
    c ≠ '\t' ∧ c ≠ '\n' ∧ c ≠ '\r' ∧ isDisguisedSeparator c = false := by
  rcases Bool.or_eq_true_iff.mp h with h | h
  · rcases Bool.or_eq_true_iff.mp h with h | h
    · obtain ⟨h1, h2, h3, -, -, h4, h5, h6, hascii⟩ := inner_cases h
      exact ⟨h1, h2, h3, h4, h5, h6, not_disguised_of_ascii hascii⟩
    · rw [beq_iff_eq.mp h]
      decide
  · rw [beq_iff_eq.mp h]
    decide

theorem IsInner.no_bracket {cs : List Char} (h : IsInner cs) : '[' ∉ cs ∧ ']' ∉ cs :=
  ⟨fun hc => (inner_cases (h _ hc)).2.2.2.1 rfl, fun hc => (inner_cases (h _ hc)).2.2.2.2.1 rfl⟩

/-- What stands around brackets is not looked at. -/
theorem bracketed_eq {before cs after : List Char} (hbefore : '[' ∉ before) (hcs : ']' ∉ cs) :
    bracketed (before ++ ('[' :: cs ++ [']']) ++ after) = cs := by
  have hopen : ∀ c ∈ before, (!(c == '[')) = true := fun c hc => by
    simpa using fun heq : c = '[' => hbefore (heq ▸ hc)
  have hclose : ∀ c ∈ cs, (!(c == ']')) = true := fun c hc => by
    simpa using fun heq : c = ']' => hcs (heq ▸ hc)
  simp only [bracketed, splitMark, cutAt, List.append_assoc, List.cons_append,
    List.dropWhile_append_of_pos hopen]
  simp [List.takeWhile_append_of_pos hclose]

/-- A host with what stands around it is a location: its brackets come in pairs. -/
theorem isLocation_of_host {before host after : List Char} (hbefore : IsInner before)
    (hhost : IsHostText host) (hafter : IsInner after) :
    isLocation (before ++ host ++ after) = true := by
  have hheld : (before ++ host ++ after).any isDisguisedSeparator = false := by
    refine List.any_eq_false.mpr fun c hc => ?_
    have hc : isHeld c = true := by
      rcases List.mem_append.mp hc with hc | hc
      · rcases List.mem_append.mp hc with hc | hc
        · exact (IsHostText.plain hbefore).held c hc
        · exact hhost.held c hc
      · exact (IsHostText.plain hafter).held c hc
    rw [(held_cases hc).2.2.2.2.2.2]
    exact Bool.false_ne_true
  rw [isLocation, hheld, Bool.not_false, Bool.and_true]
  cases hhost with
  | plain h => simp [hbefore.no_bracket, hafter.no_bracket, h.no_bracket]
  | bracketed h hhost =>
    rw [bracketed_eq hbefore.no_bracket.1 h.no_bracket.2, hhost]
    simp

/-! ## The parts of an address -/

/-- An address whose location is a host between characters that separate nothing. -/
structure Located (a : WebAddress) : Prop where
  scheme : a.scheme = "http" ∨ a.scheme = "https"
  credentials : IsInner a.credentials.toList
  host : IsHostText a.host.toList
  path : ∃ rest, a.path.toList = '/' :: rest

theorem located_ofRest? {scheme : String} {cs : List Char} {a : WebAddress}
    (h : ofRest? scheme cs = some a) (hscheme : scheme = "http" ∨ scheme = "https") :
    a.Located := by
  unfold ofRest? at h
  dsimp only at h
  obtain ⟨host, hhost, h⟩ := Option.bind_eq_some_iff.mp h
  obtain ⟨tcpPort, -, h⟩ := Option.bind_eq_some_iff.mp h
  cases h
  refine ⟨hscheme, ?_, isHostText_normal? hhost, ?_⟩
  · dsimp only
    cases (splitCredentials _).1 with
    | none => exact nofun
    | some credentials => exact inner_credentialsText credentials
  · exact ⟨_, by rw [pathText, String.toList_append]; rfl⟩

theorem located_parse {s : String} {a : WebAddress} (h : parse s = .ok a) : a.Located := by
  unfold parse at h
  dsimp only at h
  split at h
  · cases h
  · split at h
    · cases h
    · split at h
      · split at h
        · cases h
        · next found =>
          split at h
          · next hscheme =>
            cases h
            rw [Bool.or_eq_true, beq_iff_eq, beq_iff_eq] at hscheme
            exact located_ofRest? found hscheme
          · cases h
      · split at h <;> split at h <;> cases h

/-- The text of an address: its scheme, its location and what starts at the first slash. -/
theorem Located.text {a : WebAddress} (h : a.Located) :
    ∃ after rest, IsInner after ∧ a.text.toList = a.scheme.toList ++ (':' :: '/' :: '/' ::
      (a.credentials.toList ++ a.host.toList ++ after ++ '/' :: rest)) := by
  obtain ⟨path, hpath⟩ := h.path
  refine ⟨((a.tcpPort.map fun p => ":" ++ toString p).getD "").toList, path ++
    ((a.query.map ("?" ++ ·)).getD "").toList ++ ((a.fragment.map ("#" ++ ·)).getD "").toList,
    ?_, ?_⟩
  · cases a.tcpPort with
    | none => exact nofun
    | some p =>
      rw [Option.map_some, Option.getD_some, String.toList_append]
      exact IsInner.append (by decide) (inner_toString p)
  · have hmark : "://".toList = [':', '/', '/'] := by decide
    simp only [WebAddress.text, String.toList_append, hpath, hmark, List.append_assoc,
      List.cons_append, List.nil_append]

theorem splitScheme_web {scheme rest : List Char}
    (h : scheme = "http".toList ∨ scheme = "https".toList) :
    splitScheme (scheme ++ ':' :: rest) = (scheme, rest) := by
  rcases h with rfl | rfl <;> rfl

theorem cutAt_held {loc rest : List Char} (h : ∀ c ∈ loc, isHeld c = true) :
    cutAt (fun c => c == '/' || c == '?' || c == '#') (loc ++ '/' :: rest) =
      (loc, '/' :: rest) := by
  have hgo : ∀ c ∈ loc, (!(c == '/' || c == '?' || c == '#')) = true := fun c hc => by
    obtain ⟨h1, h2, h3, -⟩ := held_cases (h c hc)
    simp [h1, h2, h3]
  rw [cutAt, List.takeWhile_append_of_pos hgo, List.dropWhile_append_of_pos hgo]
  simp

/-- An address in normal form has parts. -/
theorem Located.parts {a : WebAddress} (h : a.Located) :
    ∃ parts, Address.parts a.text = .ok parts := by
  obtain ⟨after, rest, hafter, htext⟩ := h.text
  have hloc : isLocation (a.credentials.toList ++ a.host.toList ++ after) = true :=
    isLocation_of_host h.credentials h.host hafter
  have hheld : ∀ c ∈ a.credentials.toList ++ a.host.toList ++ after, isHeld c = true :=
    List.forall_mem_append.mpr ⟨List.forall_mem_append.mpr
      ⟨(IsHostText.plain h.credentials).held, h.host.held⟩, (IsHostText.plain hafter).held⟩
  generalize a.credentials.toList ++ a.host.toList ++ after = loc at htext hloc hheld
  have hkept : kept loc = loc :=
    List.filter_eq_self.mpr fun c hc => by
      obtain ⟨-, -, -, h1, h2, h3, -⟩ := held_cases (hheld c hc)
      simp [h1, h2, h3]
  have hscheme : a.scheme.toList = "http".toList ∨ a.scheme.toList = "https".toList :=
    h.scheme.imp (congrArg String.toList) (congrArg String.toList)
  have hclean : Address.cleaned a.text = a.scheme.toList ++ (':' :: '/' :: '/' ::
      (loc ++ '/' :: kept rest)) := by
    have hfront : ∃ c more, a.scheme.toList = c :: more ∧ isMargin c = false ∧
        kept a.scheme.toList = a.scheme.toList := by
      rcases hscheme with h | h <;> rw [h] <;> exact ⟨_, _, rfl, by decide, by decide⟩
    obtain ⟨c, more, hcons, hc, hname⟩ := hfront
    rw [cleaned_of_head (by rw [htext, hcons, List.cons_append]) hc, ← List.cons_append, ← hcons,
      kept_append, hname]
    change _ ++ (':' :: '/' :: '/' :: kept (loc ++ '/' :: rest)) = _
    rw [kept_append, hkept]
    rfl
  rw [Address.parts, hclean, splitScheme_web hscheme]
  simp only [splitLocation, cutAt_held hheld, hloc, Bool.not_true, Bool.false_eq_true, if_false]
  exact ⟨_, rfl⟩

end WebAddress

end Compositor
