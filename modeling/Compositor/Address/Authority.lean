import Compositor.Address.Host
import Compositor.Address.Label.Registered
import Compositor.Address.Parts
import Compositor.Text.Lowercase

/-!
# Where a request goes

The location in an address may begin with credentials, up to its last at sign. A
host follows them: a name, in which escapes may stand, or a bracketed group
of eight numbers with the zone that they belong to. The `tcpPort` comes last.
-/
namespace Compositor.Address

/-- Why a request has no place to go to. -/
inductive AuthorityError where
  | notALocation (text : String)
  | outOfRange (url : String)
  | control (host escape : String)
  | unregistrable (label : String)
  deriving DecidableEq, Repr

namespace AuthorityError

def reason : AuthorityError → String
  | .notALocation text => "'" ++ text ++ "' is not a valid host or port"
  | .outOfRange url => url
  | .control host escape =>
    "Host '" ++ host ++ "' contains invalid percent-encoded control character '" ++ escape ++ "'"
  | .unregistrable label => "Name '" ++ label ++ "' is not a valid IDNA label"

end AuthorityError

namespace Authority

open Compositor.Text
open Compositor.Text.Percent

/-- The credentials before the last at sign, and the rest. -/
def splitCredentials (cs : List Char) : List Char × List Char :=
  let host := (cs.reverse.takeWhile (· != '@')).reverse
  (cs.take (cs.length - host.length - 1), host)

/-- A character of a host name; brackets and separators are none. -/
def isNameChar (c : Char) : Bool := !"[]%:/?#".toList.contains c

/-- Whether a text is made of escapes and of characters of one kind. -/
def isMadeOf (isPlain : Char → Bool) : List Char → Bool
  | '%' :: a :: b :: rest =>
    (hexValue? a).isSome && (hexValue? b).isSome && isMadeOf isPlain rest
  | c :: rest => c != '%' && isPlain c && isMadeOf isPlain rest
  | [] => true

/-- Four numbers of up to three digits, which take the place of two groups. -/
def looseFour? (cs : List Char) : Option (List Nat) :=
  let numbers := pieces (· == '.') cs
  if numbers.length == 4 &&
      numbers.all fun ds => !ds.isEmpty && ds.length ≤ 3 && ds.all Char.isDigit then
    some [0, 0]
  else none

/-- The groups inside of brackets, and their zone with its percent sign. -/
def splitZone (cs : List Char) : List Char × List Char := cutAt (· == '%') cs

/-- Whether the text inside of brackets is a group address. -/
def isGroups (cs : List Char) : Bool :=
  let (groups, zone) := splitZone cs
  (Host.readEight? looseFour? groups).isSome &&
    (zone.isEmpty || (1 < zone.length && isMadeOf isUnreserved (zone.drop 1)))

def isHost (cs : List Char) : Bool :=
  match cs with
  | '[' :: rest => rest.getLast? == some ']' && isGroups rest.dropLast
  | _ => isMadeOf isNameChar cs

/-- A `tcpPort` of up to five digits behind any number of zeros, or an empty one. -/
def portNumber? (digits : List Char) : Option (Option Nat) :=
  if digits.all Char.isDigit && (digits.dropWhile (· == '0')).length ≤ 5 then
    some (if digits.isEmpty then none else some (Decimal.ofDigits digits))
  else none

/-- A text without the line end that may come last. -/
def withoutLineEnd (cs : List Char) : List Char :=
  if cs.getLast? == some '\n' then cs.dropLast else cs

/-- Splits a location without credentials into a host and a `tcpPort`. -/
def split? (cs : List Char) : Option (List Char × Option Nat) :=
  let (host, tail) :=
    match cs with
    | '[' :: _ =>
      let inside := cs.takeWhile (· != ']')
      (inside ++ (cs.drop inside.length).take 1, cs.drop (inside.length + 1))
    | _ => cutAt (· == ':') cs
  if !isHost host then none
  else
    match withoutLineEnd tail with
    | [] => some (host, none)
    | ':' :: digits => (portNumber? digits).map fun n => (host, n)
    | _ => none

/-- The first escape of a control character in a host. -/
def controlEscape? : List Char → Option (List Char)
  | '%' :: a :: b :: rest =>
    match hexValue? a, hexValue? b with
    | some high, some low =>
      let n := 16 * high + low
      if n < 0x20 || n == 0x7F then some ['%', a, b] else controlEscape? rest
    | _, _ => controlEscape? (a :: b :: rest)
  | _ :: rest => controlEscape? rest
  | [] => none

/-- Decodes the escapes of characters that need none. -/
def withoutNeedless : List Char → List Char
  | '%' :: a :: b :: rest =>
    match hexValue? a, hexValue? b with
    | some high, some low =>
      let c := Char.ofNat (16 * high + low)
      (if isUnreserved c then [c] else ['%', a, b]) ++ withoutNeedless rest
    | _, _ => '%' :: withoutNeedless (a :: b :: rest)
  | c :: rest => c :: withoutNeedless rest
  | [] => []

/-- A label in ASCII and lower case, but for its escapes, which are in upper case. -/
def labelText (label : List Char) : Except AuthorityError (List Char) :=
  if Label.isAscii label then .ok (normalizeEscapes (label.map Char.toLower)).2
  else
    match Label.registered? (lower (String.ofList label)).toList with
    | some ascii => .ok ascii
    | none => .error (.unregistrable (String.ofList label))

/-- A zone with its percent sign, which may itself be written as an escape. -/
def zoneText (zone : List Char) : List Char :=
  match zone with
  | '%' :: '2' :: '5' :: c :: rest => '%' :: encodePart isUnreserved (c :: rest)
  | _ :: rest => '%' :: encodePart isUnreserved rest
  | [] => []

/-- The normal form of a host. -/
def hostText (host : List Char) : Except AuthorityError (List Char) :=
  match host with
  | '[' :: rest =>
    let (groups, zone) := splitZone rest.dropLast
    .ok ('[' :: groups.map Char.toLower ++ zoneText zone ++ [']'])
  | _ =>
    match controlEscape? host with
    | some escape => .error (.control (String.ofList host) (String.ofList escape))
    | none => do
      let labels ← (pieces (· == '.') (withoutNeedless host)).mapM labelText
      .ok (List.intercalate ['.'] labels)

/-- The greatest `tcpPort`. -/
def maxPort : Nat := 65535

/-- The host and the `tcpPort` of a location in the address `url`. Hosts of unknown
schemes have no normal form. A `tcpPort` of 0 is none. -/
def read (url : String) (isKnown : Bool) (location : List Char) :
    Except AuthorityError (List Char × Option Nat) :=
  match split? location with
  | none => .error (.notALocation (String.ofList location))
  | some (host, tcpPort) =>
    if tcpPort.any (maxPort < ·) then .error (.outOfRange url)
    else do
      let host ← if isKnown then hostText host else .ok host
      .ok (host, tcpPort.filter (· != 0))

end Authority

end Compositor.Address
