import Compositor.Address.Target
import Compositor.Json.Notation
import Compositor.Json.Writer
import Compositor.Text.Hex
import Compositor.Text.Utf8
import Compositor.World.Basic

/-!
# Scripts

A script lays out, as a document, what processes and servers are going to answer
and which files there are. What is left open has ordinary values. The words for
the kinds of failures belong to whoever wrote the script, so they are read by
functions that come with it. Of the libraries below the program, a script follows
what they usually do: the encoding of a text is the one that the headers name, and
the location of a redirect is seen from the address of the request.
-/
namespace Compositor

/-- How the words of a script for failures are read. -/
structure ScriptWords where
  /-- A refusal of the system, by its word and its text. -/
  refusal : String → String → SystemError
  /-- The word for a command that does not end in time. -/
  isTimeout : String → Bool
  /-- The family of a failed exchange. -/
  exchange : String → ExchangeFailure

namespace RunReply

/-- What an ordinary clip looks like to the probing tool: ten seconds of video with sound. -/
def ordinaryDocument : Json := .obj [("streams", .arr [
  .obj [("codec_name", "h264"), ("codec_type", "video"), ("pix_fmt", "yuv420p"),
    ("width", .int 1920), ("height", .int 1080), ("r_frame_rate", "30/1"), ("duration", "10.0")],
  .obj [("codec_name", "aac"), ("codec_type", "audio")]])]

/-- The answer of a command for which a script lays out none: any source is an ordinary clip,
and there are no other tools. -/
def ordinary (command : List Argument) : RunReply :=
  if command.any (· == .str "-show_entries") then .finished 0 ordinaryDocument.write ""
  else .refused (.notFound ("unscripted " ++ (command.headD "").text))

/-- The answer of a command that runs to its end. -/
def ofScript (words : ScriptWords) (v : Json) : RunReply :=
  let reason := v.textField "text"
  match v.field "raise" with
  | .str word =>
    if words.isTimeout word then .timedOut ("Command '" ++ reason ++ "' timed out after 0 seconds")
    else .refused (words.refusal word reason)
  | _ =>
    let stdout := match v.fieldOr "json" false, v.field "stdout" with
      | .bool false, .str s => s
      | .bool false, _ => ""
      | data, _ => data.unmark.write
    .finished ((v.field "returncode").intOr 0) stdout (v.textField "stderr")

end RunReply

/-- Bytes written in hexadecimal. -/
def bytesOfHex (digits : String) : List UInt8 := (Text.bytesOfHex? digits.toList).getD []

namespace ProcessReply

/-- The end of a started process. -/
def ofScript (words : ScriptWords) (v : Json) : ProcessReply :=
  match v.field "raise" with
  | .str word => .refused (words.refusal word (v.textField "text"))
  | _ =>
    let code := match v.fieldOr "returncode" (.int 0) with
      | .int n => some n
      | _ => none
    let stderr := match v.field "stderr_hex", v.field "stderr" with
      | .str digits, _ => bytesOfHex digits
      | _, .str s => Text.Utf8.encode s
      | _, _ => []
    .finished code (v.textField "stdout") stderr

end ProcessReply

namespace Archive

/-- A number in so many bytes, the lowest one first. -/
def numeral : Nat → Nat → List UInt8
  | 0, _ => []
  | width + 1, n => UInt8.ofNat n :: numeral width (n / 256)

/-- What the header of a member and its entry in the directory both say. -/
def summary (name data : List UInt8) : List UInt8 :=
  numeral 2 20 ++ numeral 2 0x800 ++ numeral 2 0 ++ numeral 4 0x210000 ++
    numeral 4 (checksum data) ++ numeral 4 data.length ++ numeral 4 data.length ++
    numeral 2 name.length ++ numeral 2 0

/-- The headers of members with their data, and the directory. -/
def written : Nat → List (String × List UInt8) → List UInt8 × List UInt8
  | _, [] => ([], [])
  | place, (name, data) :: rest =>
    let name := Text.Utf8.encode name
    let member := mark 3 4 ++ summary name data ++ name ++ data
    let entry := mark 1 2 ++ numeral 2 20 ++ summary name data ++ numeral 10 0 ++
      numeral 4 place ++ name
    let (members, directory) := written (place + member.length) rest
    (member ++ members, entry ++ directory)

/-- An archive of members that are not compressed. -/
def stored (members : List (String × List UInt8)) : List UInt8 :=
  let (data, directory) := written 0 members
  data ++ directory ++ mark 5 6 ++ numeral 4 0 ++ numeral 2 members.length ++
    numeral 2 members.length ++ numeral 4 directory.length ++ numeral 4 data.length ++ numeral 2 0

end Archive

namespace Content

/-- The name and the text of a member of an archive. -/
def memberOfScript : Json → String × List UInt8
  | .arr [name, body] => (name.text, Text.Utf8.encode body.text)
  | _ => ("", [])

/-- What a file or a body holds. -/
def ofScript (v : Json) : Content :=
  match v.field "zip", v.field "hex", (v.field "text").unmark, v.fieldOr "json" false with
  | .arr members, _, _, _ => .bytes (Archive.stored (members.map memberOfScript))
  | _, .str digits, _, _ => .bytes (bytesOfHex digits)
  | _, _, .str s, _ => .bytes (Text.Utf8.encode s)
  | _, _, _, .bool false => .bytes []
  | _, _, _, data => .bytes (Text.Utf8.encode data.unmark.write)

end Content

namespace Onward

open Address (Parts)

/-- The address that a location leads to from another address, if it names no host. -/
def joined (base : Parts) (location : Parts) : List Char :=
  let path := location.path.toList
  let folder := base.path.toList.reverse.dropWhile (· != '/')
  let path :=
    if path.isEmpty then base.path.toList
    else if path.head? == some '/' then Address.Target.withoutDots path
    else Address.Target.withoutDots (folder.reverse ++ path)
  let query :=
    if location.path.isEmpty && location.query.isEmpty then base.query else location.query
  base.scheme.toList ++ "://".toList ++ base.location.toList ++ path ++
    Address.Target.behind '?' query.toList

/-- The address that a location names, or the one that it leads to from an address. -/
def ofLocation (base location : String) : Onward :=
  match Address.parts base with
  | .error _ => .stays
  | .ok from_ =>
    let location := if location.startsWith "//" then from_.scheme ++ ":" ++ location else location
    match Address.parts location with
    | .error _ => .fails (none, "")
    | .ok to_ =>
      let fragment := if to_.fragment.isEmpty then from_.fragment else to_.fragment
      let bare :=
        if to_.location.isEmpty && to_.scheme.isEmpty then joined from_ to_
        else (Address.splitMark '#' location.toList).1
      let url := String.ofList
        (Address.Target.requote (bare ++ Address.Target.behind '#' fragment.toList))
      let lowered := Text.lower url
      if lowered.startsWith "http://" || lowered.startsWith "https://" then .to url
      else .fails (some .other, (Address.TargetError.unknownScheme url).message)

/-- Where a response to a request for an address leads. -/
def ofScript (base : String) (status : Int) (location : Option String) : Onward :=
  match location with
  | some location =>
    if [301, 302, 303, 307, 308].contains status && !location.isEmpty then ofLocation base location
    else .stays
  | none => .stays

end Onward

namespace HttpReply

/-- The text of a body, by the type that its headers name. Only where they say nothing of an
encoding is a mark at its start left out. -/
def textOf (type : Option String) (body : List UInt8) : String :=
  let type := Text.lower (type.getD "")
  let unicode := Text.Utf8.decodeLossy body
  if type.contains "charset=" then
    if type.contains "charset=iso-8859-1" then .ofList (body.map fun b => Char.ofNat b.toNat)
    else unicode
  else if type.contains "text" then .ofList (body.map fun b => Char.ofNat b.toNat)
  else if type.contains "application/json" then unicode
  else if 3 < body.length && unicode.startsWith "\uFEFF" then (unicode.drop 1).toString
  else unicode

/-- The answer of a server to a request, and how long it takes. -/
def ofScript (words : ScriptWords) (key : String) (v : Json) : HttpReply :=
  let elapsed := match (v.field "elapsed").unmark with
    | .int n => Float.ofInt n
    | .real x => x
    | _ => 0
  match v.field "raise" with
  | .str word => ⟨elapsed, .error (some (words.exchange word), v.textField "text")⟩
  | _ =>
    let status := (v.field "status").intOr 200
    let headers := (v.field "headers").fields.map fun h => (h.1, h.2.text)
    let header? (name : String) : Option String :=
      (headers.find? fun h => Text.lower h.1 == name).map Prod.snd
    let body := Content.ofScript v
    let url := String.ofList ((key.toList.dropWhile (· != ' ')).drop 1)
    ⟨elapsed, .ok {
      status, headers, body, cut := none
      reason := (v.fieldOr "reason" "OK").text
      text := textOf (header? "content-type") body.data
      onward := .ofScript url status (header? "location") }⟩

end HttpReply

namespace FileTree

/-- The directory that holds the files of a script, under the name it goes by. -/
def inputRoot : Path.Root := ⟨"$IN", by decide⟩

/-- The directory for temporary files, under the name it goes by. -/
def tempRoot : Path.Root := ⟨"$TMP", by decide⟩

/-- Puts a file or a directory at a path below the directory for inputs. -/
def withScripted (files : FileTree) (path : String) (v : Json) : FileTree :=
  let names := inputRoot.name :: Path.components path
  let made (names : List String) : FileTree :=
    (files.makeWay (String.intercalate "/" names)).toOption.getD files
  if (v.field "dir").isTruthy then made names
  else (made names.dropLast).put names (.file (Content.ofScript v))

end FileTree

namespace World

/-- The answers that a script gives for one key: a list of them, or one alone. -/
def scripted (read : Json → α) : Json → List α
  | .arr items => items.map read
  | v => [read v]

/-- The world that a script lays out. -/
def ofScript (words : ScriptWords) (v : Json) : World :=
  let table {α : Type} (name : String) (read : String → Json → α) : List (String × List α) :=
    (v.field name).fields.map fun e => (e.1, scripted (read e.1) e.2)
  { World.initial with
    files := (v.field "files").fields.foldl (fun t e => t.withScripted e.1 e.2)
      ⟨[([FileTree.inputRoot.name], .directory), ([FileTree.tempRoot.name], .directory)]⟩
    tempRoot := FileTree.tempRoot.name
    logging := (v.field "log").isTruthy
    environment := (v.field "env").fields.map fun e => (e.1, e.2.text)
    runs := table "run" fun _ => RunReply.ofScript words
    processes := (v.field "popen").members.map (ProcessReply.ofScript words)
    exchanges := table "http" (HttpReply.ofScript words)
    platform := { Platform.usual with
      unforeseen := RunReply.ordinary
      roots := [FileTree.inputRoot, FileTree.tempRoot] } }

end World

end Compositor
