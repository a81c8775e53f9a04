/-!
# Paths

Names and extensions of slash-separated paths. `suffix` looks at the last proper
component of a path, `splitExtension` at the text after the last slash.
-/
namespace Compositor.Path

/-- The components of a path without the empty ones and the single dots. -/
def components (path : String) : List String :=
  ((path.toList.splitOn '/').map String.ofList).filter fun c => c != "" && c != "."

/-- The last component; empty when there is none. -/
def name (path : String) : String := (components path).getLast?.getD ""

/-- Splits at the last dot, which stays with the second part. -/
def splitLastDot? (cs : List Char) : Option (List Char × List Char) :=
  if cs.contains '.' then
    let after := (cs.reverse.takeWhile (· != '.')).reverse
    some (cs.take (cs.length - after.length - 1), '.' :: after)
  else none

/-- The extension of the last component with its dot. A dot at the beginning or at
the end of the name starts no extension. -/
def suffix (path : String) : String :=
  match splitLastDot? (name path).toList with
  | some (stem, ext) => if stem.isEmpty || ext.length ≤ 1 then "" else String.ofList ext
  | none => ""

/-- The text up to the last dot after the last slash, and the rest from the dot on.
Dots at the beginning of the name start no extension; a dot at its end does. -/
def splitExtension (path : String) : String × String :=
  let cs := path.toList
  let base := (cs.reverse.takeWhile (· != '/')).reverse
  match splitLastDot? base with
  | some (stem, ext) =>
    if stem.all (· == '.') then (path, "")
    else (String.ofList (cs.take (cs.length - ext.length)), String.ofList ext)
  | none => (path, "")

/-- A path is absolute when it starts at the root. -/
def isAbsolute (path : String) : Bool := path.startsWith "/"

/-- A path that goes on from a directory. -/
def below (directory path : String) : String :=
  if directory.isEmpty || directory.endsWith "/" then directory ++ path
  else directory ++ "/" ++ path

/-- A path below a directory; an absolute path stands for itself. -/
def join (directory path : String) : String :=
  if isAbsolute path then path else below directory path

/-- The name of a directory that stands for its path, wherever it is written. It starts with no
letter, so it is not taken for the name of a file. -/
structure Root where
  name : String
  marked : name.toList.head?.any (fun c => !c.isAlpha) = true

/-- A path below a directory; one from a directory that goes by its name stands for itself. -/
def joinFrom (roots : List Root) (directory path : String) : String :=
  if roots.any fun root => path.startsWith root.name then path else join directory path

/-- A path without empty components, single dots and steps upward. -/
def normal (path : String) : String :=
  let kept := (components path).foldl (fun out name =>
    if name == ".." then out.dropLast else out ++ [name]) []
  (if path.startsWith "/" then "/" else "") ++ String.intercalate "/" kept

/-- The path that goes along a list of names; the name of the root is a slash. -/
def ofNames : List String → String
  | "/" :: rest => "/" ++ String.intercalate "/" rest
  | names => String.intercalate "/" names

end Compositor.Path
