import Compositor.Address.Authority
import Compositor.Text.Alphanumeric
import Compositor.Text.Blank

/-!
# Request targets

The address that a request is sent to is the given one with an explicit path,
with a host in lower case, and with everything encoded that may not stand in it.
Text that is already encoded is kept. Only `http` and `https` can be requested.
-/
namespace Compositor.Address

/-- Why no request can be sent to an address. -/
inductive TargetError where
  | noScheme (url : String)
  | noHost (url : String)
  | unknownScheme (url : String)
  | badLabel
  | authority (e : AuthorityError)
  deriving DecidableEq, Repr

namespace TargetError

def message : TargetError → String
  | .noScheme url =>
    "Invalid URL " ++ Text.quoted url ++ ": No scheme supplied. Perhaps you meant https://" ++
      url ++ "?"
  | .noHost url => "Invalid URL " ++ Text.quoted url ++ ": No host supplied"
  | .unknownScheme url => "No connection adapters were found for " ++ Text.quoted url
  | .badLabel => "URL has an invalid label."
  | .authority e => "Failed to parse: " ++ e.reason

end TargetError

namespace Target

open Compositor.Text.Percent

def isSubDelimiter (c : Char) : Bool := "!$&'()*+,;=".toList.contains c

def keepsInCredentials (c : Char) : Bool := isUnreserved c || isSubDelimiter c || c == ':'

def keepsInPath (c : Char) : Bool := keepsInCredentials c || c == '@' || c == '/'

def keepsInQuery (c : Char) : Bool := keepsInPath c || c == '?'

/-- Leaves out dot segments; a final one leaves a slash. -/
def withoutDots (path : List Char) : List Char :=
  let segments := Text.pieces (· == '/') path
  let kept := segments.foldl (fun out segment =>
    if segment == ['.'] then out
    else if segment == ['.', '.'] then out.dropLast
    else out ++ [segment]) []
  let rooted := if path.head? == some '/' && (kept.isEmpty || kept.head? != some []) then
    [] :: kept else kept
  let open_ := ["/.".toList, "/..".toList].any fun e => e.isSuffixOf path
  List.intercalate ['/'] (if open_ then rooted ++ [[]] else rooted)

/-- Decodes the escapes of characters that need none. There is no text if a percent
sign is followed by letters or numbers that are no escape. -/
def withoutNeedless? : List Char → Option (List Char)
  | '%' :: a :: b :: rest =>
    if Text.isLetterOrNumber a && Text.isLetterOrNumber b then do
      let c := Char.ofNat (16 * (← Text.wideHexValue? a) + (← Text.wideHexValue? b))
      some ((if isUnreserved c then [c] else ['%', a, b]) ++ (← withoutNeedless? rest))
    else do some ('%' :: (← withoutNeedless? (a :: b :: rest)))
  | c :: rest => do some (c :: (← withoutNeedless? rest))
  | [] => some []

/-- A character that separates the parts of an address. -/
def isReserved (c : Char) : Bool := isSubDelimiter c || "#/:?@[]".toList.contains c

/-- Encodes what is neither reserved nor unreserved. Percent signs are encoded
unless all of them could start escapes. -/
def requote (cs : List Char) : List Char :=
  let plain (c : Char) : Bool := isUnreserved c || isReserved c
  match withoutNeedless? cs with
  | some cs => encodeUnless (fun c => plain c || c == '%') cs
  | none => encodeUnless plain cs

/-- The name of a host. It is in ASCII but for unknown schemes, whose names are as
they were given. -/
def hostName (host : List Char) : Except TargetError (List Char) :=
  if Label.isAscii host then
    match host with
    | '*' :: _ | '.' :: _ => .error .badLabel
    | _ => .ok host
  else
    match Label.registeredName? host with
    | some ascii => .ok ascii
    | none => .error .badLabel

/-- The address without blanks in front of it. -/
def trimmed (url : String) : String := String.ofList (url.toList.dropWhile Text.isBlank)

/-- Whether text starts with a scheme or a slash. -/
def startsWithScheme (cs : List Char) : Bool :=
  match cs with
  | '/' :: _ => true
  | first :: _ =>
    let scheme := cs.takeWhile fun c => c.isAlphanum || c == '+' || c == '-'
    first.isAlpha && (cs.drop scheme.length).head? == some ':'
  | [] => false

/-- The parts of the address after its scheme. -/
structure Pieces where
  scheme : Option (List Char)
  authority : Option (List Char)
  path : List Char
  query : List Char
  fragment : List Char

/-- Divides an address at its first separators. -/
def divide (cs : List Char) : Pieces :=
  let cs := if startsWithScheme cs then cs else '/' :: '/' :: cs
  let word := cs.takeWhile fun c => isSchemeChar c
  let (scheme, rest) :=
    match word, cs.drop word.length with
    | first :: _, ':' :: rest =>
      if first.isAlpha then (some (word.map Char.toLower), rest) else (none, cs)
    | _, _ => (none, cs)
  let (authority, rest) :=
    match rest with
    | '/' :: '/' :: rest =>
      let (a, rest) := cutAt (fun c => c == '\\' || c == '/' || c == '?' || c == '#') rest
      (some a, rest)
    | _ => (none, rest)
  let (rest, fragment) := splitMark '#' rest
  let (path, query) := splitMark '?' rest
  ⟨scheme, authority, path, query, fragment⟩

/-- The form fields of a query. -/
def formText (fields : List (String × String)) : String :=
  String.intercalate "&" (fields.map fun f => formEncode f.1 ++ "=" ++ formEncode f.2)

/-- A query with form fields behind it. -/
def withForm (query : List Char) (fields : List (String × String)) : List Char :=
  let form := (formText fields).toList
  if form.isEmpty then query else if query.isEmpty then form else query ++ '&' :: form

/-- A part that is not empty, behind its mark. -/
def behind (mark : Char) (part : List Char) : List Char :=
  if part.isEmpty then [] else mark :: part

/-- The target of an address that is written like an `http` one. -/
def prepareHttp (url : String) (fields : List (String × String)) : Except TargetError String := do
  let pieces := divide url.toList
  let isKnown := match pieces.scheme with
    | none => true
    | some s => String.ofList s == "http" || String.ofList s == "https"
  let enc (keep : Char → Bool) (cs : List Char) := if isKnown then encodePart keep cs else cs
  let (credentials, location) := Authority.splitCredentials (pieces.authority.getD [])
  let (host, tcpPort) ← (Authority.read url isKnown location).mapError .authority
  match pieces.scheme with
  | none => .error (.noScheme url)
  | some scheme =>
    if host.isEmpty then .error (.noHost url)
    else do
      let host ← hostName host
      let path := if isKnown then enc keepsInPath (withoutDots pieces.path) else pieces.path
      let rooted := if path.head? == some '/' then path else '/' :: path
      let credentials :=
        if credentials.isEmpty then [] else enc keepsInCredentials credentials ++ ['@']
      let number := (tcpPort.map fun n => (toString n).toList).getD []
      .ok (String.ofList (requote (scheme ++ "://".toList ++ credentials ++ host ++
        behind ':' number ++ rooted ++
        behind '?' (withForm (enc keepsInQuery pieces.query) fields) ++
        behind '#' (enc keepsInQuery pieces.fragment))))

/-- The address that a request is sent to. -/
def prepare (url : String) (fields : List (String × String)) : Except TargetError String := do
  let url := trimmed url
  let lowered := Text.lower url
  let target ←
    if url.toList.contains ':' && !lowered.startsWith "http" then .ok url
    else prepareHttp url fields
  let loweredTarget := Text.lower target
  if loweredTarget.startsWith "http://" || loweredTarget.startsWith "https://" then .ok target
  else .error (.unknownScheme target)

end Target

end Compositor.Address
