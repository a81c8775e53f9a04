/-!
# Hexadecimal digits
-/
namespace Compositor.Text

def hexDigit (n : Nat) : Char :=
  if n < 10 then Char.ofNat ('0'.toNat + n) else Char.ofNat ('a'.toNat + (n - 10))

def hexUpper (n : Nat) : Char := (hexDigit n).toUpper

/-- The value of a hexadecimal digit of either case. -/
def hexValue? (c : Char) : Option Nat :=
  if '0' ≤ c && c ≤ '9' then some (c.toNat - '0'.toNat)
  else if 'a' ≤ c && c ≤ 'f' then some (c.toNat - 'a'.toNat + 10)
  else if 'A' ≤ c && c ≤ 'F' then some (c.toNat - 'A'.toNat + 10)
  else none

/-- The last `width` hexadecimal digits of a number. -/
def hexPadded (n : Nat) : Nat → List Char
  | 0 => []
  | width + 1 => hexPadded (n / 16) width ++ [hexDigit (n % 16)]

/-- Two digits for each byte. -/
def hexOfBytes (bytes : List UInt8) : String :=
  String.ofList (bytes.flatMap fun b => hexPadded b.toNat 2)

/-- The bytes written as pairs of digits; an odd digit at the end is left out. -/
def bytesOfHex? : List Char → Option (List UInt8)
  | a :: b :: rest => do
    let high ← hexValue? a
    let low ← hexValue? b
    let others ← bytesOfHex? rest
    some (UInt8.ofNat (16 * high + low) :: others)
  | _ => some []

end Compositor.Text
