import Compositor.Address.Path
import Compositor.Fault

/-!
# Files

A file tree is a finite table from places to files and directories. A place is
the list of names on the way to it; the empty one and the first name of any way
are always there. Each operation that can fail says why, about the path it was
given.
-/
namespace Compositor

/-- What a file or a body holds. -/
structure Content where
  bytes ::
  data : List UInt8
  deriving DecidableEq, Repr

inductive Entry where
  | file (content : Content)
  | directory
  deriving DecidableEq, Repr

/-- The entries in the order in which they were made. -/
structure FileTree where
  entries : List (List String × Entry)
  deriving DecidableEq, Repr

namespace FileTree

/-- What stands at a place. -/
def at? (t : FileTree) (place : List String) : Option Entry :=
  (t.entries.find? fun e => e.1 == place).map Prod.snd

def put (t : FileTree) (place : List String) (entry : Entry) : FileTree :=
  if (t.at? place).isSome then
    ⟨t.entries.map fun e => if e.1 == place then (place, entry) else e⟩
  else ⟨t.entries ++ [(place, entry)]⟩

/-- Removes a place and everything below it. -/
def prune (t : FileTree) (place : List String) : FileTree :=
  ⟨t.entries.filter fun e => !place.isPrefixOf e.1⟩

/-- The longest name of a file or directory, in bytes. -/
def longestName : Nat := 255

/-- The place that a path leads to. -/
def walk (t : FileTree) (path : String) (place : List String) :
    List String → Except SystemError (List String)
  | [] => .ok place
  | name :: rest =>
    if place.isEmpty && name.utf8ByteSize ≤ longestName then walk t path [name] rest
    else
      match t.at? place with
      | none => .error (if place.isEmpty then .tooLongAt path else .noSuchFile path)
      | some (.file _) => .error (.noDirectoryAt path)
      | some .directory =>
        if longestName < name.utf8ByteSize then .error (.tooLongAt path)
        else walk t path (if name == ".." then place.dropLast else place ++ [name]) rest

/-- Refuses a path with a NUL in it. -/
def checkPath (path : String) : Except SystemError Unit :=
  if path.toList.contains '\x00' then .error .nullCharacter else .ok ()

/-- The names on the way along a path; an absolute one starts at the root. -/
def steps (path : String) : List String :=
  (if path.startsWith "/" then ["/"] else []) ++ Path.components path

def place (t : FileTree) (path : String) : Except SystemError (List String) := do
  checkPath path
  match steps path with
  | [] => .error (.noSuchFile path)
  | names => t.walk path [] names

/-- What stands at the end of a path. -/
def entry (t : FileTree) (path : String) : Except SystemError Entry := do
  match t.at? (← t.place path) with
  | some (.file c) => if path.endsWith "/" then .error (.noDirectoryAt path) else .ok (.file c)
  | some .directory => .ok .directory
  | none => .error (.noSuchFile path)

def exists_ (t : FileTree) (path : String) : Bool := (t.entry path).toOption.isSome

def isFile (t : FileTree) (path : String) : Bool :=
  match t.entry path with
  | .ok (.file _) => true
  | _ => false

def isDirectory (t : FileTree) (path : String) : Bool :=
  match t.entry path with
  | .ok .directory => true
  | _ => false

def read (t : FileTree) (path : String) : Except SystemError Content := do
  match ← t.entry path with
  | .file c => .ok c
  | .directory => .error (.directoryAt path)

/-- Whether something stands at a place; the empty one is always there. -/
def isTaken (t : FileTree) (place : List String) : Bool :=
  place.isEmpty || (t.at? place).isSome

/-- Writes a file, new or not. -/
def write (t : FileTree) (path : String) (content : Content) : Except SystemError FileTree := do
  let place ← t.place path
  if place.isEmpty || t.at? place == some .directory || path.endsWith "/" then
    .error (.directoryAt path)
  else .ok (t.put place (.file content))

/-- Makes an empty file at a place where nothing stands. -/
def create (t : FileTree) (path : String) : Except SystemError FileTree := do
  let place ← t.place path
  if path.endsWith "/" then .error (.directoryAt path)
  else if t.isTaken place then .error (.existsAt path)
  else .ok (t.put place (.file (.bytes [])))

def makeDirectory (t : FileTree) (path : String) : Except SystemError FileTree := do
  let place ← t.place path
  if t.isTaken place then .error (.existsAt path)
  else .ok (t.put place .directory)

/-- Makes the directory at a list of names, unless something stands there. -/
def makeStep (names : List String) (t : FileTree) (length : Nat) : Except SystemError FileTree :=
  let upTo := names.take length
  match t.at? upTo with
  | some .directory => .ok t
  | some (.file _) =>
    if length == names.length then .ok t
    else .error (.noDirectoryAt (Path.ofNames (names.take (length + 1))))
  | none =>
    if upTo.any fun name => longestName < name.utf8ByteSize then
      .error (.tooLongAt (Path.ofNames upTo))
    else .ok (t.put upTo .directory)

/-- Makes the directories on the way to a place that are missing. -/
def makeWay (t : FileTree) (path : String) : Except SystemError FileTree := do
  checkPath path
  let names := steps path
  if names.isEmpty then .error (.noSuchFile path)
  else (List.range names.length).foldlM (fun t i => makeStep names t (i + 1)) t

/-- Makes a directory and those on the way to it. It must not be there already. -/
def makeDirectories (t : FileTree) (path : String) : Except SystemError FileTree :=
  if t.exists_ path then .error (.existsAt path) else t.makeWay path

/-- Removes a file. -/
def remove (t : FileTree) (path : String) : Except SystemError FileTree := do
  match ← t.entry path with
  | .directory => .error (.directoryAt path)
  | .file _ => .ok (t.prune (← t.place path))

/-- Removes a file or a directory with everything in it, if it is there. -/
def removeAll (t : FileTree) (path : String) : FileTree :=
  match t.place path with
  | .ok place => t.prune place
  | .error _ => t

/-- The names directly inside a directory. -/
def list (t : FileTree) (path : String) : Except SystemError (List String) := do
  match ← t.entry path with
  | .file _ => .error (.noDirectoryAt path)
  | .directory =>
    let place ← t.place path
    .ok (t.entries.filterMap fun e =>
      if e.1.dropLast == place && e.1 != [] then e.1.getLast? else none)

/-- The relative paths of everything below a path, in order; directories end in a slash. -/
def below (t : FileTree) (path : String) : List String :=
  match t.place path with
  | .error _ => []
  | .ok place =>
    let found := t.entries.filterMap fun e =>
      if place.isPrefixOf e.1 && place.length < e.1.length then
        let name := String.intercalate "/" (e.1.drop place.length)
        some (if e.2 == .directory then name ++ "/" else name)
      else none
    found.mergeSort

end FileTree

end Compositor
