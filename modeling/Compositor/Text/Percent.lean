import Compositor.Text.Hex
import Compositor.Text.Utf8

/-!
# Percent-encoding

A character that may not stand in some part of an address is written as the
percent-encoded bytes of its UTF-8 form.
-/
namespace Compositor.Text.Percent

def isUnreserved (c : Char) : Bool :=
  c.toNat < 0x80 && (c.isAlphanum || c == '-' || c == '.' || c == '_' || c == '~')

def encodeByte (b : UInt8) : List Char :=
  ['%', hexUpper (b.toNat / 16), hexUpper (b.toNat % 16)]

/-- The percent-encoded bytes of one character. -/
def encodeChar (c : Char) : List Char :=
  (Utf8.encode (String.ofList [c])).flatMap encodeByte

/-- Encodes the characters that are not kept. -/
def encodeUnless (keep : Char → Bool) (cs : List Char) : List Char :=
  cs.flatMap fun c => if keep c then [c] else encodeChar c

/-- The number of well-formed escapes, and the text with their digits in upper case. -/
def normalizeEscapes : List Char → Nat × List Char
  | '%' :: a :: b :: rest =>
    if (hexValue? a).isSome && (hexValue? b).isSome then
      let (n, tail) := normalizeEscapes rest
      (n + 1, '%' :: a.toUpper :: b.toUpper :: tail)
    else
      let (n, tail) := normalizeEscapes (a :: b :: rest)
      (n, '%' :: tail)
  | c :: rest =>
    let (n, tail) := normalizeEscapes rest
    (n, c :: tail)
  | [] => (0, [])

/-- Encodes what a part may not hold. Escapes stay when every percent sign starts one. -/
def encodePart (keep : Char → Bool) (cs : List Char) : List Char :=
  let (escapes, cs) := normalizeEscapes cs
  let escaped := escapes == cs.count '%'
  encodeUnless (fun c => keep c || (escaped && c == '%')) cs

/-- Decodes every well-formed escape into its byte; other characters are kept as UTF-8. -/
def decodeBytes : List Char → List UInt8
  | '%' :: a :: b :: rest =>
    match hexValue? a, hexValue? b with
    | some high, some low => UInt8.ofNat (16 * high + low) :: decodeBytes rest
    | _, _ => Utf8.encode "%" ++ decodeBytes (a :: b :: rest)
  | c :: rest => Utf8.encode (String.ofList [c]) ++ decodeBytes rest
  | [] => []

/-- One form field value: unreserved characters stay, a space becomes `+`. -/
def formEncode (s : String) : String :=
  String.ofList (s.toList.flatMap fun c =>
    if c == ' ' then ['+']
    else if isUnreserved c then [c]
    else encodeChar c)

end Compositor.Text.Percent
