import Compositor.Address.Host
import Compositor.Address.Parts
import Compositor.Fault

/-!
# Web addresses

Addresses that the job service is given or gives are `http` or `https` addresses
in normal form: scheme and host in lower case, no default `tcpPort`, a path without
dot segments, and everything else percent-encoded where it has to be.
-/
namespace Compositor

/-- An address in normal form. -/
structure WebAddress where
  scheme : String
  credentials : String
  host : String
  tcpPort : Option Nat
  path : String
  query : Option String
  fragment : Option String
  deriving DecidableEq, Repr

namespace WebAddress

open Address

/-- The longest address that is accepted, in bytes. -/
def maxLength : Nat := 2083

def defaultPort? : String → Option Nat
  | "http" | "ws" => some 80
  | "https" | "wss" => some 443
  | "ftp" => some 21
  | _ => none

/-- The schemes whose addresses need a host. -/
def isHierarchical (scheme : String) : Bool := (defaultPort? scheme).isSome

def text (a : WebAddress) : String :=
  a.scheme ++ "://" ++ a.credentials ++ a.host ++
    (a.tcpPort.map fun p => ":" ++ toString p).getD "" ++ a.path ++
    (a.query.map ("?" ++ ·)).getD "" ++ (a.fragment.map ("#" ++ ·)).getD ""

def isVisible (c : Char) : Bool := 0x20 < c.toNat && c.toNat < 0x7F

def keepsInFragment (c : Char) : Bool := isVisible c && !"\"<>\x60".toList.contains c

def keepsInPath (c : Char) : Bool :=
  keepsInFragment c && !"#?\x7b\x7d".toList.contains c

def keepsInQuery (c : Char) : Bool := isVisible c && !"\"#<>'".toList.contains c

def keepsInCredentials (c : Char) : Bool :=
  keepsInPath c && !"/:;=@[\\]^|".toList.contains c

def encode (keep : Char → Bool) (cs : List Char) : String :=
  String.ofList (Text.Percent.encodeUnless keep cs)

/-- Text without blanks and controls around it and without tabs and line ends. -/
def cleaned (s : String) : List Char :=
  let around (c : Char) : Bool := c.toNat ≤ 0x20
  let inner := ((s.toList.dropWhile around).reverse.dropWhile around).reverse
  inner.filter fun c => c != '\t' && c != '\n' && c != '\r'

def isSlash (c : Char) : Bool := c == '/' || c == '\\'

/-- Splits off user name and password, which end at the last at sign. -/
def splitCredentials (cs : List Char) : Option (List Char) × List Char :=
  if cs.contains '@' then
    let host := (cs.reverse.takeWhile (· != '@')).reverse
    (some (cs.take (cs.length - host.length - 1)), host)
  else (none, cs)

/-- User name and password with what separates them from the host. -/
def credentialsText (cs : List Char) : String :=
  let (user, rest) := cutAt (· == ':') cs
  let user := encode keepsInCredentials user
  let password := encode keepsInCredentials (rest.drop 1)
  if user.isEmpty && password.isEmpty then ""
  else if password.isEmpty then user ++ "@"
  else user ++ ":" ++ password ++ "@"

/-- Splits `tcpPort` off at the last colon outside brackets. -/
def splitPort (cs : List Char) : List Char × Option (List Char) :=
  let (bracketed, rest) :=
    match cs with
    | '[' :: _ =>
      let inside := cs.takeWhile (· != ']')
      (inside ++ (cs.drop inside.length).take 1, cs.drop (inside.length + 1))
    | _ => ([], cs)
  let (name, tail) := cutAt (· == ':') rest
  match tail with
  | ':' :: tcpPort => (bracketed ++ name, some tcpPort)
  | _ => (bracketed ++ name, none)

/-- A `tcpPort` of at most five digits that fits sixteen bits; an empty one counts as none. -/
def readPort? (digits : Option (List Char)) : Option (Option Nat) :=
  match digits with
  | none | some [] => some none
  | some ds =>
    if ds.all Char.isDigit then
      let n := Decimal.ofDigits ds
      if n < 65536 then some (some n) else none
    else none

def isDot (segment : List Char) : Bool :=
  let s := segment.map Char.toLower
  s == ".".toList || s == "%2e".toList

def isDoubleDot (segment : List Char) : Bool :=
  let s := segment.map Char.toLower
  ["..".toList, ".%2e".toList, "%2e.".toList, "%2e%2e".toList].contains s

/-- Resolves dot segments; `done` holds the finished segments, nearest first. -/
def resolve (done : List (List Char)) : List (List Char) → List (List Char)
  | [] => done.reverse
  | [last] =>
    if isDoubleDot last then ([] :: done.drop 1).reverse
    else if isDot last then ([] :: done).reverse
    else (last :: done).reverse
  | segment :: rest =>
    if isDoubleDot segment then resolve (done.drop 1) rest
    else if isDot segment then resolve done rest
    else resolve (segment :: done) rest

/-- The normal path, which always starts with a slash. -/
def pathText (cs : List Char) : String :=
  let unified := cs.map fun c => if c == '\\' then '/' else c
  let body := match unified with
    | '/' :: rest => rest
    | cs => cs
  "/" ++ String.intercalate "/"
    ((resolve [] (Text.pieces (· == '/') body)).map (encode keepsInPath))

/-- The address after its scheme, for a scheme that needs a host. -/
def ofRest? (scheme : String) (cs : List Char) : Option WebAddress :=
  let (body, fragment) := cutAt (· == '#') cs
  let (body, query) := cutAt (· == '?') body
  let (authority, path) := cutAt isSlash (body.dropWhile isSlash)
  let (credentials, hostAndPort) := splitCredentials authority
  let (host, tcpPort) := splitPort hostAndPort
  do
    let host ← Host.normal? host
    let tcpPort ← readPort? tcpPort
    let marked (part : List Char) (keep : Char → Bool) : Option String :=
      match part with
      | [] => none
      | _ :: rest => some (encode keep rest)
    some {
      scheme, host
      credentials := (credentials.map credentialsText).getD ""
      tcpPort := if tcpPort == defaultPort? scheme then none else tcpPort
      path := pathText path
      query := marked query keepsInQuery
      fragment := marked fragment keepsInFragment }

/-- Whether the rest of an address of another scheme is well formed: after two
slashes, a host may be missing only if nothing depends on it. -/
def isWellFormedRest (cs : List Char) : Bool :=
  match cs with
  | '/' :: '/' :: rest =>
    let (authority, tail) := cutAt (fun c => c == '/' || c == '?' || c == '#') rest
    let (credentials, hostAndPort) := splitCredentials authority
    let (host, tcpPort) := splitPort hostAndPort
    let digits := tcpPort.map fun ds => ds.takeWhile (· != '\\')
    let hostFine := match host with
      | '[' :: _ => (Host.normal? host).isSome
      | _ => !host.any fun c => "\x00\t\n\r #/:<>?@[\\]^|".toList.contains c
    let endsAtMark := credentials == some [] && hostAndPort.isEmpty && !tail.isEmpty
    let named := (credentials.map credentialsText).any (!·.isEmpty)
    let alone := host.isEmpty && (named || tcpPort.isSome || endsAtMark)
    hostFine && (readPort? digits).isSome && !alone
  | _ => true

/-- A letter with a colon or a bar, which names a drive and no host. -/
def isDrive (cs : List Char) : Bool :=
  match cs with
  | [letter, mark] => letter.isAlpha && (mark == ':' || mark == '|')
  | _ => false

/-- Whether the rest of an address of a file is well formed: it may have a host
after two slashes, and nothing but the host. -/
def isFileRest (cs : List Char) : Bool :=
  match cs with
  | first :: second :: rest =>
    let (host, _) := cutAt (fun c => isSlash c || c == '?' || c == '#') rest
    !(isSlash first && isSlash second) || host.isEmpty || isDrive host ||
      (Host.normal? host).isSome
  | _ => true

/-- Reads an address, or says what is wrong with it. -/
def parse (s : String) : Except Complaint WebAddress :=
  if maxLength < s.utf8ByteSize then .error .urlTooLong
  else
    let (scheme, rest) := splitScheme (cleaned s)
    let scheme := String.ofList scheme
    if scheme.isEmpty then .error .urlParsing
    else if isHierarchical scheme then
      match ofRest? scheme rest with
      | none => .error .urlParsing
      | some a => if scheme == "http" || scheme == "https" then .ok a else .error .urlScheme
    else if (if scheme == "file" then isFileRest rest else isWellFormedRest rest) then
      .error .urlScheme
    else .error .urlParsing

end WebAddress

end Compositor
