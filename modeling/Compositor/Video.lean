import Compositor.Locator
import Compositor.Record

/-!
# Source videos

A video that is handed to the job service: a local file or a web address.
-/
namespace Compositor

inductive VideoKind where
  | file
  | url
  deriving DecidableEq, Repr

namespace VideoKind

def name : VideoKind → String
  | .file => "file"
  | .url => "url"

def ofName? (s : String) : Option VideoKind :=
  [VideoKind.file, .url].find? fun k => k.name == s

end VideoKind

structure Video where
  kind : VideoKind
  source : String
  deriving DecidableEq, Repr

namespace Video

/-- The video at a locator (`open`). Nothing is read yet. -/
def ofLocator (source : String) : Except Fault Video := do
  let kind := if (← Locator.sourceType source) == .url then .url else .file
  .ok ⟨kind, source⟩

open Record in
def read (fields : Fields) : Checked Video :=
  Video.mk <$> required fields "kind" (word VideoKind.ofName? .literal)
    <*> required fields "src" text

def toJson (v : Video) : Json := .obj [("kind", v.kind.name), ("src", v.source)]

end Video

end Compositor
