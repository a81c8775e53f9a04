import Compositor.Address.Host
import Compositor.Fault

/-!
# The parts of an address

Any text is an address with a scheme, a network location, a path and a query,
each of which may be empty. The scheme is the text before the first colon, if it
has the form of one. Blanks and control characters in front of it do not count.
-/
namespace Compositor.Address

structure Parts where
  scheme : String
  location : String
  path : String
  query : String
  fragment : String
  deriving DecidableEq, Repr

def isAsciiLetter (c : Char) : Bool := c.isAlpha

def isSchemeChar (c : Char) : Bool := c.isAlphanum || c == '+' || c == '-' || c == '.'

/-- The scheme in lower case and what follows its colon, if the text starts with a scheme. -/
def splitScheme (cs : List Char) : List Char × List Char :=
  let before := cs.takeWhile (· != ':')
  match before, cs.drop before.length with
  | first :: _, _ :: rest =>
    if isAsciiLetter first && before.all isSchemeChar then (before.map Char.toLower, rest)
    else ([], cs)
  | _, _ => ([], cs)

/-- The text before the first character of a class, and that character with the rest. -/
def cutAt (stop : Char → Bool) (cs : List Char) : List Char × List Char :=
  (cs.takeWhile fun c => !stop c, cs.dropWhile fun c => !stop c)

/-- The location after two slashes and what follows it. -/
def splitLocation (cs : List Char) : List Char × List Char :=
  match cs with
  | '/' :: '/' :: rest => cutAt (fun c => c == '/' || c == '?' || c == '#') rest
  | _ => ([], cs)

/-- The text before the first mark, and the text after it. -/
def splitMark (mark : Char) (cs : List Char) : List Char × List Char :=
  let (before, rest) := cutAt (· == mark) cs
  (before, rest.drop 1)

/-- Characters that stand for a text with a separator of addresses in it. -/
def isDisguisedSeparator (c : Char) : Bool :=
  [0x2047, 0x2048, 0x2049, 0x2100, 0x2101, 0x2105, 0x2106, 0x2A74, 0xFE13, 0xFE16, 0xFE55,
    0xFE56, 0xFE5F, 0xFE6B, 0xFF03, 0xFF0F, 0xFF1A, 0xFF1F, 0xFF20].contains c.toNat

/-- The text behind the first opening bracket, up to the next closing one. -/
def bracketed (cs : List Char) : List Char :=
  (splitMark ']' (splitMark '[' cs).2).1

/-- Whether a text is a host for brackets: a `v` with a version in hexadecimal, a dot and
more text, or a group of eight numbers with the zone that they belong to, if there is one. -/
def isBracketedHost (cs : List Char) : Bool :=
  match cs with
  | 'v' :: rest =>
    let version := rest.takeWhile fun c => (Text.hexValue? c).isSome
    match rest.drop version.length with
    | '.' :: _ :: _ => !version.isEmpty
    | _ => false
  | _ =>
    let (groups, zone) := cutAt (· == '%') cs
    (Host.readEight? Host.trailingFour? groups).isSome &&
      (zone.isEmpty || (1 < zone.length && !(zone.drop 1).contains '%'))

/-- A location has both brackets or none, a host between them, and no disguised
separator. -/
def isLocation (cs : List Char) : Bool :=
  cs.contains '[' == cs.contains ']' &&
    (!cs.contains '[' || isBracketedHost (bracketed cs)) && !cs.any isDisguisedSeparator

/-- The schemes whose paths may end in parameters. -/
def schemesWithParams : List String :=
  ["", "ftp", "hdl", "prospero", "http", "imap", "https", "shttp", "rtsp", "rtspu", "sip",
    "sips", "mms", "sftp", "tel"]

/-- Cuts the parameters off, which start at the first semicolon of the last segment. -/
def withoutParams (path : List Char) : List Char :=
  let segment := (path.reverse.takeWhile (· != '/')).reverse
  path.take (path.length - segment.length) ++ segment.takeWhile (· != ';')

/-- Tabs and line ends do not count. -/
def kept (cs : List Char) : List Char :=
  cs.filter fun c => c != '\t' && c != '\n' && c != '\r'

theorem kept_append (a b : List Char) : kept (a ++ b) = kept a ++ kept b := List.filter_append a b

/-- A blank or a control character, which does not count in front of an address. -/
def isMargin (c : Char) : Bool := c.toNat ≤ 0x20

/-- The characters of an address that count. -/
def cleaned (s : String) : List Char := kept (s.toList.dropWhile isMargin)

/-- Nothing is dropped in front of a character that counts. -/
theorem cleaned_of_head {s : String} {c : Char} {rest : List Char} (hs : s.toList = c :: rest)
    (hc : isMargin c = false) : cleaned s = kept (c :: rest) := by
  rw [cleaned, hs, List.dropWhile_cons_of_neg (by simp [hc])]

/-- The parts of an address; the parameters of the path are left out. -/
def parts (s : String) : Except Fault Parts :=
  let (scheme, rest) := splitScheme (cleaned s)
  let (location, rest) := splitLocation rest
  if !isLocation location then .error .wrongValue
  else
    let (rest, fragment) := splitMark '#' rest
    let (path, query) := splitMark '?' rest
    let scheme := String.ofList scheme
    let path := if schemesWithParams.contains scheme then withoutParams path else path
    .ok ⟨scheme, String.ofList location, String.ofList path, String.ofList query,
      String.ofList fragment⟩

end Compositor.Address
