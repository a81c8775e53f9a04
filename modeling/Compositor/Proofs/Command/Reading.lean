import Compositor.World.Argument

/-!
# How the media tool reads a command

The elements behind the tool are options, most of them with a value. Options collect
until an input closes their group; those behind the last input, and the last element of
all, belong to the output. `read` is this rule, and a command that is printed from a
reading whose options are spelled properly is read back.
-/
namespace Compositor

/-- An option with its value; a flag has none. -/
structure Setting where
  name : String
  value : Option Argument

/-- An input with the options that apply to it. -/
structure InputGroup where
  settings : List Setting
  source : Argument

/-- A command behind the name of the tool. -/
structure Reading where
  inputs : List InputGroup
  /-- The options of the output. -/
  settings : List Setting
  target : Argument

namespace Setting

/-- The options without a value. -/
def isFlag (name : String) : Bool := name == "-y" || name == "-an"

def elements (s : Setting) : List Argument := .str s.name :: s.value.toList

/-- An option other than the one for inputs, with a value unless it is a flag. -/
structure Spelled (s : Setting) : Prop where
  value_iff : s.value.isSome = !isFlag s.name
  name_ne : s.name ≠ "-i"

end Setting

def InputGroup.elements (g : InputGroup) : List Argument :=
  g.settings.flatMap Setting.elements ++ [.str "-i", g.source]

namespace Reading

/-- Reads options; `pending` are those of the group that is still open. -/
def readOptions (pending : List Setting) :
    List Argument → Option (List InputGroup × List Setting)
  | [] => some ([], pending)
  | [.str name] => if Setting.isFlag name then some ([], pending ++ [⟨name, none⟩]) else none
  | .str name :: value :: rest =>
    if Setting.isFlag name then readOptions (pending ++ [⟨name, none⟩]) (value :: rest)
    else if name == "-i" then
      (readOptions [] rest).map fun (inputs, settings) => (⟨pending, value⟩ :: inputs, settings)
    else readOptions (pending ++ [⟨name, some value⟩]) rest
  | _ => none

/-- Reads the elements behind the name of the tool. -/
def read (args : List Argument) : Option Reading := do
  let target ← args.getLast?
  let (inputs, settings) ← readOptions [] args.dropLast
  return ⟨inputs, settings, target⟩

variable {pending : List Setting}

theorem readOptions_setting {s : Setting} (hs : s.Spelled) (rest : List Argument) :
    readOptions pending (s.elements ++ rest) = readOptions (pending ++ [s]) rest := by
  obtain ⟨name, value⟩ := s
  obtain ⟨hvalue, hname⟩ := hs
  have hi : (name == "-i") = false := beq_eq_false_iff_ne.mpr hname
  cases value with
  | none =>
    have hflag : Setting.isFlag name = true := by simpa using hvalue
    cases rest <;> simp [Setting.elements, readOptions, hflag]
  | some value =>
    have hflag : Setting.isFlag name = false := by simpa using hvalue
    simp [Setting.elements, readOptions, hflag, hi]

theorem readOptions_settings {settings : List Setting} (hs : ∀ s ∈ settings, s.Spelled)
    (rest : List Argument) :
    readOptions pending (settings.flatMap Setting.elements ++ rest) =
      readOptions (pending ++ settings) rest := by
  induction settings generalizing pending with
  | nil => simp
  | cons s settings ih =>
    rw [List.flatMap_cons, List.append_assoc, readOptions_setting (hs s List.mem_cons_self),
      ih fun s hm => hs s (List.mem_cons_of_mem _ hm), List.append_assoc, List.singleton_append]

theorem readOptions_group {g : InputGroup} (hg : ∀ s ∈ g.settings, s.Spelled)
    (rest : List Argument) :
    readOptions [] (g.elements ++ rest) =
      (readOptions [] rest).map fun r => (g :: r.1, r.2) := by
  rw [InputGroup.elements, List.append_assoc, readOptions_settings hg]
  rfl

theorem readOptions_groups {groups : List InputGroup}
    (hg : ∀ g ∈ groups, ∀ s ∈ g.settings, s.Spelled) {settings : List Setting}
    (hs : ∀ s ∈ settings, s.Spelled) :
    readOptions [] (groups.flatMap InputGroup.elements ++ settings.flatMap Setting.elements) =
      some (groups, settings) := by
  induction groups with
  | nil =>
    have hread : readOptions [] (settings.flatMap Setting.elements ++ []) = _ :=
      readOptions_settings hs []
    rw [List.append_nil] at hread
    exact hread
  | cons g groups ih =>
    rw [List.flatMap_cons, List.append_assoc, readOptions_group (hg g List.mem_cons_self),
      ih fun g hm => hg g (List.mem_cons_of_mem _ hm)]
    rfl

/-- A command is read back as what it was printed from. -/
theorem read_elements {groups : List InputGroup}
    (hg : ∀ g ∈ groups, ∀ s ∈ g.settings, s.Spelled) {settings : List Setting}
    (hs : ∀ s ∈ settings, s.Spelled) (target : Argument) :
    read (groups.flatMap InputGroup.elements ++ settings.flatMap Setting.elements ++ [target]) =
      some ⟨groups, settings, target⟩ := by
  rw [read, List.getLast?_concat, List.dropLast_concat, readOptions_groups hg hs]
  rfl

end Reading

/-! ## Names and values as texts -/

theorem Argument.ofTexts_append (a b : List String) :
    Argument.ofTexts (a ++ b) = Argument.ofTexts a ++ Argument.ofTexts b := List.map_append

namespace Setting

/-- An option of two texts. -/
def ofPair (p : String × String) : Setting := ⟨p.1, some (.str p.2)⟩

/-- Names and values one after the other. -/
def texts (pairs : List (String × String)) : List String := pairs.flatMap fun p => [p.1, p.2]

/-- The names that are no ordinary options: flags, inputs, and what selects streams. -/
def reserved : List String := ["-y", "-an", "-i", "-map", "-filter_complex"]

theorem texts_append (a b : List (String × String)) : texts (a ++ b) = texts a ++ texts b :=
  List.flatMap_append

theorem elements_ofPairs (pairs : List (String × String)) :
    Argument.ofTexts (texts pairs) = (pairs.map ofPair).flatMap elements := by
  induction pairs with
  | nil => rfl
  | cons p pairs ih =>
    rw [List.map_cons, List.flatMap_cons, ← ih]
    rfl

theorem group_elements (pairs : List (String × String)) (source : Argument) :
    (⟨pairs.map ofPair, source⟩ : InputGroup).elements =
      Argument.ofTexts (texts pairs) ++ [.str "-i", source] := by
  rw [InputGroup.elements, elements_ofPairs]

theorem spelled_ofPair {p : String × String} (h : p.1 ∉ ["-y", "-an", "-i"]) :
    (ofPair p).Spelled := by
  simp only [List.mem_cons, List.not_mem_nil, or_false, not_or] at h
  obtain ⟨hy, han, hi⟩ := h
  exact ⟨by simp [ofPair, isFlag, hy, han], hi⟩

end Setting

end Compositor
