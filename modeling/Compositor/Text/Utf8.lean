/-!
# Reading UTF-8

The reader is a machine over bytes. Between characters it is idle; inside one it
remembers the bits read so far, how many bytes are missing and which bytes may
come next. A byte that cannot continue the character ends it as one broken piece
and is then read afresh, so that each maximal ill-formed part gives one piece.
-/
namespace Compositor.Text.Utf8

inductive State where
  | idle
  | within (bits missing : Nat) (low high : UInt8)

/-- A character, or an ill-formed part. -/
inductive Piece where
  | char (c : Char)
  | broken
  deriving DecidableEq

/-- The state after a first byte, or the piece that the byte is by itself. -/
def start (b : UInt8) : Piece ⊕ State :=
  if b < 0x80 then .inl (.char (Char.ofNat b.toNat))
  else if b < 0xC2 then .inl .broken
  else if b < 0xE0 then .inr (.within (b.toNat - 0xC0) 1 0x80 0xBF)
  else if b < 0xF0 then
    .inr (.within (b.toNat - 0xE0) 2 (if b == 0xE0 then 0xA0 else 0x80)
      (if b == 0xED then 0x9F else 0xBF))
  else if b < 0xF5 then
    .inr (.within (b.toNat - 0xF0) 3 (if b == 0xF0 then 0x90 else 0x80)
      (if b == 0xF4 then 0x8F else 0xBF))
  else .inl .broken

def piecesFrom : State → List UInt8 → List Piece
  | .idle, [] => []
  | .within .., [] => [.broken]
  | .idle, b :: rest =>
    match start b with
    | .inl piece => piece :: piecesFrom .idle rest
    | .inr state => piecesFrom state rest
  | .within bits missing low high, b :: rest =>
    if low ≤ b && b ≤ high then
      let bits := bits * 64 + (b.toNat - 0x80)
      if missing == 1 then .char (Char.ofNat bits) :: piecesFrom .idle rest
      else piecesFrom (.within bits (missing - 1) 0x80 0xBF) rest
    else
      match start b with
      | .inl piece => .broken :: piece :: piecesFrom .idle rest
      | .inr state => .broken :: piecesFrom state rest

def pieces (bytes : List UInt8) : List Piece := piecesFrom .idle bytes

/-- The text, with U+FFFD for every ill-formed part. -/
def decodeLossy (bytes : List UInt8) : String :=
  String.ofList ((pieces bytes).map fun
    | .char c => c
    | .broken => '\uFFFD')

/-- The text, if no part is ill-formed. -/
def decode? (bytes : List UInt8) : Option String :=
  let parts := pieces bytes
  if parts.contains .broken then none else some (decodeLossy bytes)

def encode (s : String) : List UInt8 := s.toUTF8.toList

end Compositor.Text.Utf8
