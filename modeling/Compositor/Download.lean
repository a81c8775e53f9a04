import Compositor.Context
import Compositor.Locator
import Compositor.MediaType
import Compositor.World.Network

/-!
# Downloads

A download is stored under the extension that its media type stands for, else
under the extension of its address, else under a default one. Extensions that say
nothing about the content do not count.
-/
namespace Compositor.Download

/-- The extensions that say nothing about the content. -/
def genericExtensions : List String := ["", ".tmp", ".bin"]

def isGeneric (ext : String) : Bool := genericExtensions.contains ext

/-- The media type without the parameters that may follow it. -/
def mediaType (contentType : String) : String :=
  Text.strip (String.ofList (contentType.toList.takeWhile (· != ';')))

/-- The extension for a media type. An empty text names no type, so nothing is guessed. -/
def typeExtension? (guess : String → Option String) (contentType : String) : Option String :=
  if contentType.isEmpty then none
  else (guess (mediaType contentType)).filter fun ext => !isGeneric ext

/-- The extension of the path of an address. -/
def pathExtension? (url : String) : Except Fault (Option String) := do
  let (_, ext) := Path.splitExtension (← Address.parts url).path
  .ok (if isGeneric ext then none else some (Text.lower ext))

/-- The extension under which a download is stored; `guess` knows the extensions of media types
(`_extension_for`). -/
def extension (guess : String → Option String) (contentType : Option String) (url : String)
    (default : Json) : Except Fault Json :=
  match contentType.bind (typeExtension? guess) with
  | some ext => .ok ext
  | none => do .ok (((← pathExtension? url).map Json.str).getD default)

/-- Fetches an address and refuses a response whose status is an error. -/
def fetch (url : String) (timeout : Json) : Act Response := do
  match ← Act.send ⟨"GET", url, [], [], .none, timeout⟩ with
  | .error e => Act.fail (.failed (.download url e.message))
  | .ok (response, target) =>
    match response.checkStatus target with
    | .error e => Act.fail (.failed (.download url e.message))
    | .ok () => return response

/-- Stores the body of a response at a path. What has arrived of a body that breaks
off stays there. -/
def store (url path : String) (response : Response) : Act Unit := do
  match (← getThe World).files.write path response.body with
  | .error e => Act.fail (.ofStep (.store url path) e)
  | .ok files =>
    modify fun w => { w with files }
    match response.whole with
    | .error e => Act.fail (.failed (.store url path e.message))
    | .ok _ => Act.info ("Downloaded " ++ url ++ " to " ++ path)

/-- Stores what an address holds and answers the path; `makePath` chooses it for an extension
(`download`). -/
def toFile (url : String) (makePath : Json → Act String) (default : Json := ".bin")
    (timeout : Json := .int 300) (guess : String → Option String := MediaType.extension?) :
    Act String := do
  Act.debug ("Downloading " ++ url)
  let response ← fetch url timeout
  let ext ← Act.ofExcept (extension guess (response.header? "Content-Type") url default)
  let path ← makePath ext
  store url path response
  return path

end Compositor.Download
