import Compositor.World.Processes

/-!
# Media contexts

A context knows the media tools, owns a directory for temporary files, and
remembers which decoders the tool has. A manifest tracks the files of one export
inside that directory.
-/
namespace Compositor

namespace Act

/-- A part of a temporary path; null stands for a default. -/
def pathPart (default : String) : Json → Except Fault String
  | .str s => .ok s
  | .null => .ok default
  | _ => .error .wrongType

/-- Takes fresh names until one of them can be used. What already stands at the path
of a name only costs the name. -/
def claim (make : FileTree → String → Except SystemError FileTree)
    (pathFor : String → Except Fault String) : Nat → Act String
  | 0 => fail (.ofSystem (.existsAt ""))
  | tries + 1 => do
    let path ← ofExcept (pathFor (← freshName))
    match make (← get).files path with
    | .ok files =>
      modify fun w => { w with files }
      return path
    | .error (.exists_ _) => claim make pathFor tries
    | .error e => fail (.ofSystem e)

/-- Names taken by distinct entries, so that one more is enough. -/
def tries : Act Nat := do return (← get).files.entries.length + 1

/-- Makes an empty file with a fresh name inside a directory. -/
def freshFile (directory : String) (before after : Json) : Act String := do
  let roots := (← getThe World).platform.roots
  claim FileTree.create (fun name => do
    let start ← pathPart "tmp" before
    let ending ← pathPart "" after
    return Path.joinFrom roots (Path.normal directory) (start ++ name ++ ending)) (← tries)

/-- Makes a directory with a fresh name inside a directory. -/
def freshDirectory (directory before : Json) : Act String := do
  let roots := (← getThe World).platform.roots
  claim FileTree.makeDirectory (fun name => do
    let start ← pathPart "tmp" before
    match directory with
    | .str directory => return Path.joinFrom roots directory (start ++ name)
    | _ => .error .wrongType) (← tries)

end Act

namespace Context

/-- The context with a number. What is no context has nothing to offer. -/
def ofId (id : ContextId) : Act Context := do
  match (← getThe World).contexts[id.index]? with
  | some c => return c
  | none => Act.fail .noAttribute

def toJson (c : Context) : Json :=
  .obj [("ffmpeg", c.ffmpeg), ("ffprobe", c.ffprobe), ("tmp", c.directory),
    ("capabilities", .obj (c.decoders.map fun d => (d.1, .bool d.2)))]

def update (id : ContextId) (f : Context → Context) : Act Unit :=
  modify fun w => { w with contexts := w.contexts.modify id.index f }

/-- A new context with a directory of its own (`MediaContext`). No tool is run. -/
def create (ffmpeg ffprobe : Argument) (root : Option Json) : Act ContextId := do
  let w ← getThe World
  let directory ← Act.freshDirectory (root.getD w.tempRoot) "bgcompose_"
  modify fun w => { w with contexts := w.contexts ++ [⟨ffmpeg, ffprobe, directory, []⟩] }
  return ⟨w.contexts.length⟩

/-- A new context with the tools and the directory that the environment names (`from_env`). -/
def ofEnvironment : Act ContextId := do
  let ffmpeg := (← Act.environment? "BGCOMPOSE_FFMPEG").getD "ffmpeg"
  let ffprobe := (← Act.environment? "BGCOMPOSE_FFPROBE").getD "ffprobe"
  let root := (← Act.environment? "BGCOMPOSE_TMPDIR").filter fun d => !d.isEmpty
  create ffmpeg ffprobe (root.map Json.str)

/-- The context for callers that name none; it is made when it is first needed
(`default_context`). -/
def default : Act ContextId := do
  match (← getThe World).defaultContext with
  | some i => return ⟨i⟩
  | none =>
    let id ← ofEnvironment
    modify fun w => { w with defaultContext := some id.index }
    return id

/-- Sets the default context, or forgets it (`set_default_context`). -/
def setDefault (id : Option ContextId) : Act Unit :=
  modify fun w => { w with defaultContext := id.map ContextId.index }

/-- The given context or the default one. -/
def orDefault : Option ContextId → Act ContextId
  | some id => return id
  | none => default

/-- Checks that one tool starts and reports a version. -/
def verifyTool (binary : Argument) : Act Unit := do
  match ← Act.runCommand [binary, "-version"] 10 with
  | .refused (.notFound reason) =>
    Act.fail (.tool ⟨.notInstalled binary.text reason, none, "", [binary]⟩)
  | .refused e => Act.fail (.ofSystem e)
  | .timedOut _ => Act.fail (.tool ⟨.hangs binary.text, none, "", []⟩)
  | .finished code _ stderr =>
    if code != 0 then
      Act.fail (.tool ⟨.broken binary.text, some code, stderr, [binary, "-version"]⟩)

/-- Checks that both tools start and report a version (`verify`). -/
def verify (id : ContextId) : Act Unit := do
  let c ← ofId id
  verifyTool c.ffmpeg
  verifyTool c.ffprobe
  Act.debug "FFmpeg binaries verified successfully"

/-- A fresh file that lives as long as the context (`temp_path`). -/
def tempPath (id : ContextId) (suffix : Json := "") (start : Json := "bgc_") :
    Act String := do
  Act.freshFile (← ofId id).directory start suffix

/-- A fresh directory that lives as long as the context (`temp_dir`). -/
def tempDirectory (id : ContextId) (start : Json := "bgc_") : Act String := do
  Act.freshDirectory (← ofId id).directory start

/-- Whether a text occurs in another one. -/
def mentions (listing name : String) : Bool := listing.contains name

/-- Asks the tool whether it lists a decoder; no answer counts as no. -/
def askDecoder (ffmpeg : Argument) (name : String) : Act Bool := do
  match ← Act.runCommand [ffmpeg, "-hide_banner", "-decoders"] 10 with
  | .finished code stdout stderr =>
    if code == 0 then return mentions stdout name
    else
      Act.warning ("Could not list decoders: " ++ stderr)
      return false
  | .refused e =>
    Act.warning ("Error checking decoder " ++ name ++ ": " ++ e.text)
    return false
  | .timedOut text =>
    Act.warning ("Error checking decoder " ++ name ++ ": " ++ text)
    return false

/-- Whether the tool has a decoder (`has_decoder`). The first answer is kept. -/
def hasDecoder (id : ContextId) (name : String) : Act Bool := do
  let c ← ofId id
  match c.decoders.find? fun d => d.1 == name with
  | some d => return d.2
  | none =>
    let available ← askDecoder c.ffmpeg name
    Act.debug ("Decoder " ++ name ++ " available: " ++ (Json.bool available).text)
    update id fun c => { c with decoders := c.decoders ++ [(name, available)] }
    return available

/-- Whether the tool has a decoder, for a name of any kind. Values with items are no
names; other ones that are no text occur in no listing that could be read. -/
def hasDecoderNamed (id : ContextId) (name : Json) : Act Bool := do
  match name with
  | .str name => hasDecoder id name
  | .arr _ | .obj _ => Act.fail .wrongType
  | other =>
    let c ← ofId id
    match ← Act.runCommand [c.ffmpeg, "-hide_banner", "-decoders"] 10 with
    | .finished code _ stderr =>
      if code == 0 then Act.fail .wrongType
      else Act.warning ("Could not list decoders: " ++ stderr)
    | .refused e => Act.warning ("Error checking decoder " ++ other.text ++ ": " ++ e.text)
    | .timedOut text => Act.warning ("Error checking decoder " ++ other.text ++ ": " ++ text)
    Act.debug ("Decoder " ++ other.text ++ " available: " ++ (Json.bool false).text)
    return false

/-- The decoder that keeps the alpha channel of a VP9 stream. -/
def alphaDecoder : String := "libvpx-vp9"

/-- Whether the alpha channel of a VP9 stream can be kept (`check_webm_support`). -/
def keepsVp9Alpha (id : ContextId) : Act Bool := hasDecoder id alphaDecoder

/-- Removes everything inside the directory of the context (`cleanup`). -/
def cleanup (id : ContextId) : Act Unit := do
  let c ← ofId id
  let names ← Act.ofSystem ((← getThe World).files.list c.directory)
  for name in names do
    modify fun w => { w with files := w.files.removeAll (Path.below c.directory name) }
  Act.debug "Temporary files cleaned up"

/-- Removes the directory of the context. -/
def close (id : ContextId) : Act Unit := do
  let c ← ofId id
  modify fun w => { w with files := w.files.removeAll c.directory }

end Context

namespace Manifest

/-- A manifest without files. -/
def create (context : ContextId) : Act ManifestId := do
  let c ← Context.ofId context
  let w ← getThe World
  modify fun w => { w with manifests := w.manifests ++ [⟨c.directory, []⟩] }
  return ⟨w.manifests.length⟩

/-- The manifest with a number. What is no manifest has nothing to offer. -/
def ofId (id : ManifestId) : Act Manifest := do
  match (← getThe World).manifests[id.index]? with
  | some m => return m
  | none => Act.fail .noAttribute

def update (id : ManifestId) (f : Manifest → Manifest) : Act Unit :=
  modify fun w => { w with manifests := w.manifests.modify id.index f }

/-- A fresh file that lives until the manifest is released (`TempManifest.path`). -/
def path (id : ManifestId) (suffix : Json := "") (start : Json := "bgc_export_") :
    Act String := do
  let m ← ofId id
  let path ← Act.freshFile m.directory start suffix
  update id fun m => { m with paths := m.paths ++ [path] }
  return path

/-- Deletes a file if it is there; a refusal is only reported. -/
def deleteFile (path : String) : Act Unit := do
  let w ← getThe World
  if w.files.exists_ path then
    match w.files.remove path with
    | .ok files => set { w with files }
    | .error e => Act.warning ("Failed to delete temp file " ++ path ++ ": " ++ e.text)

/-- Deletes the files of a manifest and forgets them (`release`). -/
def release (id : ManifestId) : Act Unit := do
  let m ← ofId id
  for path in m.paths do deleteFile path
  update id fun m => { m with paths := [] }

/-- Runs an action with a manifest that is released at its end (`temp_manifest`). -/
def during (context : ContextId) (act : ManifestId → Act α) : Act α := do
  let id ← create context
  Act.andFinally (act id) (release id)

end Manifest

end Compositor
