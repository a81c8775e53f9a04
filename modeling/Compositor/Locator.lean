import Compositor.Address.Parts
import Compositor.Json.Basic
import Compositor.Address.Path
import Compositor.Text.Lowercase

/-!
# Locators

A locator names a source: a local file, something on the web, or a stream that
only the media tool can open. The format of a source is guessed from the
extension of its path, which a query never changes.
-/
namespace Compositor

inductive SourceType where
  | file
  | url
  | stream
  deriving DecidableEq, Repr

namespace SourceType

def name : SourceType → String
  | .file => "file"
  | .url => "url"
  | .stream => "stream"

def ofName? (s : String) : Option SourceType :=
  [SourceType.file, .url, .stream].find? fun t => t.name == s

end SourceType

namespace Locator

/-- A scheme of one letter is the drive of a local path. -/
def typeOfScheme (scheme : String) : SourceType :=
  if ["http", "https", "ftp"].contains scheme then .url
  else if 1 < scheme.length then .stream
  else .file

/-- Where a locator leads, by its scheme (`detect_source_type`). -/
def sourceType (locator : String) : Except Fault SourceType := do
  .ok (typeOfScheme (← Address.parts locator).scheme)

/-- The extension in lower case: of the whole locator for a file, of its path otherwise
(`source_extension`). -/
def extension (locator : String) : Except Fault String := do
  let parts ← Address.parts locator
  let path := if typeOfScheme parts.scheme == .file then locator else parts.path
  .ok (Text.lower (Path.suffix path))

/-- The type of a source given as any value: text is a locator, and nothing at all
counts as an empty one. Other values have no parts. -/
def typeOfValue : Json → Except Fault SourceType
  | .str s => sourceType s
  | v => if v.isTruthy then .error .noAttribute else .ok .file

/-- The extension of a source given as any value. Only text has a path. -/
def extensionOfValue : Json → Except Fault String
  | .str s => extension s
  | v => .error (if v.isTruthy then .noAttribute else .wrongType)

/-- The name of the file that an address points to. -/
def fileName (locator : String) : Except Fault String := do
  .ok (Path.name (← Address.parts locator).path)

end Locator

end Compositor
