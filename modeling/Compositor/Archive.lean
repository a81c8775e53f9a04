import Compositor.Archive.Directory
import Compositor.Context

/-!
# Archives

An archive is unpacked into a fresh directory. The name of a member never leads
out of it: steps upward and empty components do not count. Members are then found
by their file name, at the top or one directory below.
-/
namespace Compositor.Archive

/-- The names on the way to a member. -/
def memberSteps (name : String) : List String :=
  (Path.components name).filter (· != "..")

/-- The fault of an archive at a path. -/
def fault (path : String) : ReadError → Fault
  | .defect d => .failed (.extract path d.message)
  | .format e => .format e

/-- The directory on the way to a member, and the place of the member. -/
def makeParent (directory : String) (files : FileTree) (member : Member) :
    Except SystemError (FileTree × String) := do
  let steps := memberSteps member.name
  let parent := Path.normal (String.intercalate "/" (directory :: steps.dropLast))
  let files ← if files.exists_ parent then pure files else files.makeWay parent
  .ok (files, Path.normal (String.intercalate "/" (directory :: steps)))

/-- Unpacks the data of a member to a path. Data that cannot be read leaves an empty
file. -/
def unpackData (path target : String) (files : FileTree) (member : Member) :
    FileTree × Except Fault Unit :=
  match member.opening with
  | .error e => (files, .error (fault path e))
  | .ok () =>
    match files.write target (.bytes (member.data.toOption.getD [])) with
    | .error e => (files, .error (.ofStep (.extract path) e))
    | .ok files => (files, (member.data.mapError (fault path)).map fun _ => ())

/-- Unpacks one member below a directory. A member without a name has no last
character to tell a file from a directory by. -/
def unpackMember (path directory : String) (files : FileTree) (member : Member) :
    FileTree × Except Fault Unit :=
  match makeParent directory files member with
  | .error e => (files, .error (.ofStep (.extract path) e))
  | .ok (files, target) =>
    if member.name.isEmpty then (files, .error .noItem)
    else if member.name.endsWith "/" then
      if files.isDirectory target then (files, .ok ())
      else
        match files.makeDirectory target with
        | .ok files => (files, .ok ())
        | .error e => (files, .error (.ofStep (.extract path) e))
    else unpackData path target files member

/-- Unpacks members in order, up to the first that cannot be unpacked. -/
def unpackAll (path directory : String) (files : FileTree) :
    List Member → FileTree × Except Fault Unit
  | [] => (files, .ok ())
  | member :: rest =>
    match unpackMember path directory files member with
    | (files, .ok ()) => unpackAll path directory files rest
    | (files, .error e) => (files, .error e)

/-- Members with one name are all unpacked as the last of them. -/
def latest (members : List Member) : List Member :=
  members.map fun m => (members.reverse.find? fun other => other.name == m.name).getD m

/-- The members of the archive at a path. -/
def members (codecs : Codecs) (files : FileTree) (path : String) : Except Fault (List Member) :=
  match files.read path with
  | .error e => .error (.ofStep (.extract path) e)
  | .ok content => (membersOf codecs content.data).mapError (fault path)

/-- Unpacks an archive into a fresh directory of the context (`extract_zip`). -/
def extract (path : Json) (context : ContextId) (start : Json := "pro_bundle_") :
    Act String := do
  let directory ← Context.tempDirectory context start
  match path with
  | .str path =>
    let w ← getThe World
    let members ← Act.ofExcept (members w.platform.codecs w.files path)
    let (files, result) := unpackAll path directory (← getThe World).files (latest members)
    modify fun w => { w with files }
    Act.ofExcept result
    Act.info ("Extracted " ++ path ++ " to " ++ directory)
    return directory
  | _ => Act.fail .noAttribute

/-- Whether a file stands at a path. A path that ends in a single dot asks for a directory. -/
def isMember (files : FileTree) (path : String) : Bool :=
  files.isFile path && !path.endsWith "/."

/-- The first path, in the order of the directories, at which a file of a name stands. -/
def firstNested? (files : FileTree) (directory name : String) (entries : List String) :
    Option String :=
  (entries.map fun entry => Path.join (Path.below directory entry) name).find? (isMember files)

/-- The file of a name, at the top level of a directory or one level below (`find_member`). -/
def findMember (files : FileTree) (directory name : String) : Except Fault (Option String) :=
  let top := Path.join directory name
  if isMember files top then .ok (some top)
  else
    match files.list directory with
    | .error e => .error (.ofSystem e)
    | .ok entries => .ok (firstNested? files directory name entries.mergeSort)

end Compositor.Archive
