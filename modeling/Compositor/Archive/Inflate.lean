/-!
# Compressed data

A compressed stream is a sequence of blocks: stored bytes, or symbols of prefix
codes that stand for bytes and for copies of what has been written before. A prefix
code is given by the lengths of its code words, which are assigned in order. Reading
stops at the last block, when there is nothing left to read, or at something that no
stream holds.
-/
namespace Compositor.Archive

/-- Why reading stops before the end of a stream. -/
inductive InflateStop where
  /-- There are no bits left. -/
  | starved
  | invalid
  deriving DecidableEq, Repr

/-- The bits that are left, the number of those that were taken, and what has been written. -/
structure InflateState where
  bits : List Bool
  taken : Nat
  written : Array UInt8

abbrev Inflater := ExceptT InflateStop (StateM InflateState)

namespace Inflater

/-- The bits of a byte, from the lowest one. -/
def bitsOf (b : UInt8) : List Bool := (List.range 8).map fun i => b.toNat.testBit i

def takeBit : Inflater Bool := do
  let s ← get
  match s.bits with
  | [] => throw .starved
  | b :: rest =>
    set { s with bits := rest, taken := s.taken + 1 }
    return b

/-- A number of so many bits, from the lowest one. -/
def takeNumber : Nat → Inflater Nat
  | 0 => return 0
  | width + 1 => do
    let low ← takeBit
    let high ← takeNumber width
    return low.toNat + 2 * high

/-- Drops the bits up to the next byte. -/
def align : Inflater Unit :=
  modify fun s => { s with bits := s.bits.drop ((8 - s.taken % 8) % 8), taken := 0 }

def write (b : UInt8) : Inflater Unit := modify fun s => { s with written := s.written.push b }

/-- Bytes as they are. -/
def copyStored : Nat → Inflater Unit
  | 0 => return
  | n + 1 => do
    write (UInt8.ofNat (← takeNumber 8))
    copyStored n

/-- Writes again what was written `distance` bytes before, byte by byte. -/
def copyBack (distance : Nat) : Nat → Inflater Unit
  | 0 => return
  | n + 1 => do
    let written := (← get).written
    match written[written.size - distance]? with
    | some b =>
      write b
      copyBack distance n
    | none => throw .invalid

end Inflater

/-- A prefix code: how many words there are of each length from one, and the symbols
in the order of their words. -/
structure PrefixCode where
  counts : List Nat
  symbols : Array Nat

namespace PrefixCode

/-- The longest code word, in bits. -/
def longest : Nat := 15

/-- The code in which each symbol has a word of the given length; none has no word. -/
def ofLengths (lengths : List Nat) : PrefixCode :=
  let words := (List.range longest).map fun l =>
    lengths.zipIdx.filterMap fun (length, symbol) => if length == l + 1 then some symbol else none
  ⟨words.map List.length, (words.flatten).toArray⟩

/-- The number of words of the greatest length that are left over; negative when the
lengths ask for too many words. -/
def room (c : PrefixCode) : Int := c.counts.foldl (fun (left : Int) (n : Nat) => 2 * left - n) 1

/-- Whether a stream may use the code: all words are used, or one alone of one bit,
or none, as the purpose allows. -/
def isSound (c : PrefixCode) (mayBeSparse : Bool) : Bool :=
  c.room == 0 || (mayBeSparse &&
    (c.symbols.size == 0 || (c.symbols.size == 1 && c.counts.head? == some 1)))

/-- Reads words bit by bit until one is complete. Words of one length are numbered
from `first`, and their symbols stand from `index` on. -/
def takeWord (c : PrefixCode) : List Nat → Nat → Nat → Nat → Inflater Nat
  | [], _, _, _ => throw .invalid
  | count :: rest, code, first, index => do
    let code := 2 * code + (← Inflater.takeBit).toNat
    if code < first + count then
      match c.symbols[index + (code - first)]? with
      | some symbol => return symbol
      | none => throw .invalid
    else c.takeWord rest code (2 * (first + count)) (index + count)

/-- The symbol of the next code word. -/
def takeSymbol (c : PrefixCode) : Inflater Nat := c.takeWord c.counts 0 0 0

end PrefixCode

namespace Inflater

/-- The first length of each class of copies, and the number of extra bits. -/
def lengthClasses : List (Nat × Nat) :=
  [(3, 0), (4, 0), (5, 0), (6, 0), (7, 0), (8, 0), (9, 0), (10, 0), (11, 1), (13, 1), (15, 1),
    (17, 1), (19, 2), (23, 2), (27, 2), (31, 2), (35, 3), (43, 3), (51, 3), (59, 3), (67, 4),
    (83, 4), (99, 4), (115, 4), (131, 5), (163, 5), (195, 5), (227, 5), (258, 0)]

/-- The first distance of each class of copies, and the number of extra bits. -/
def distanceClasses : List (Nat × Nat) :=
  [(1, 0), (2, 0), (3, 0), (4, 0), (5, 1), (7, 1), (9, 2), (13, 2), (17, 3), (25, 3), (33, 4),
    (49, 4), (65, 5), (97, 5), (129, 6), (193, 6), (257, 7), (385, 7), (513, 8), (769, 8),
    (1025, 9), (1537, 9), (2049, 10), (3073, 10), (4097, 11), (6145, 11), (8193, 12),
    (12289, 12), (16385, 13), (24577, 13)]

/-- A number of a class, with its extra bits. -/
def takeInClass (classes : List (Nat × Nat)) (number : Nat) : Inflater Nat := do
  match classes[number]? with
  | some (first, extra) => return first + (← takeNumber extra)
  | none => throw .invalid

/-- The symbol that ends a block. -/
def endOfBlock : Nat := 256

/-- Reads symbols up to the end of a block. Each takes a bit at least, so as many
rounds as there are bits are enough. -/
def copyCoded (literals distances : PrefixCode) : Nat → Inflater Unit
  | 0 => throw .starved
  | rounds + 1 => do
    let symbol ← literals.takeSymbol
    if symbol < endOfBlock then
      write (UInt8.ofNat symbol)
      copyCoded literals distances rounds
    else if symbol == endOfBlock then return
    else
      let length ← takeInClass lengthClasses (symbol - endOfBlock - 1)
      let distance ← takeInClass distanceClasses (← distances.takeSymbol)
      if (← get).written.size < distance then throw .invalid
      copyBack distance length
      copyCoded literals distances rounds

/-- The codes of a block that gives none. -/
def fixedCodes : PrefixCode × PrefixCode :=
  (.ofLengths (List.replicate 144 8 ++ List.replicate 112 9 ++ List.replicate 24 7 ++
      List.replicate 8 8),
    .ofLengths (List.replicate 30 5))

/-- The order in which the lengths of the code for code lengths are given. -/
def lengthOrder : List Nat :=
  [16, 17, 18, 0, 8, 7, 9, 6, 10, 5, 11, 4, 12, 3, 13, 2, 14, 1, 15]

/-- Reads code lengths until there are as many as wanted; repetitions must not lead
beyond. Each takes a bit at least. -/
def takeLengths (code : PrefixCode) (wanted : Nat) : Nat → List Nat → Inflater (List Nat)
  | 0, _ => throw .starved
  | rounds + 1, done =>
    if wanted ≤ done.length then return done
    else do
      let symbol ← code.takeSymbol
      let more ← match symbol with
        | 16 => match done.getLast? with
          | some last => do pure (List.replicate (3 + (← takeNumber 2)) last)
          | none => throw .invalid
        | 17 => do pure (List.replicate (3 + (← takeNumber 3)) 0)
        | 18 => do pure (List.replicate (11 + (← takeNumber 7)) 0)
        | length => pure [length]
      if wanted < done.length + more.length then throw .invalid
      takeLengths code wanted rounds (done ++ more)

/-- The codes that stand at the beginning of a block. -/
def takeCodes : Inflater (PrefixCode × PrefixCode) := do
  let literalCount := 257 + (← takeNumber 5)
  let distanceCount := 1 + (← takeNumber 5)
  let given := 4 + (← takeNumber 4)
  if 286 < literalCount || 30 < distanceCount then throw .invalid
  let lengths ← (List.range given).mapM fun _ => takeNumber 3
  let ordered := (List.range 19).map fun symbol =>
    (lengths[lengthOrder.idxOf symbol]?).getD 0
  let code := PrefixCode.ofLengths ordered
  if !code.isSound false then throw .invalid
  let wanted := literalCount + distanceCount
  let all ← takeLengths code wanted (wanted + 1) []
  let literals := PrefixCode.ofLengths (all.take literalCount)
  let distances := PrefixCode.ofLengths (all.drop literalCount)
  if (all[endOfBlock]?).getD 0 == 0 || !literals.isSound true || !distances.isSound true then
    throw .invalid
  return (literals, distances)

/-- One block; answers whether it is the last. -/
def block : Inflater Bool := do
  let last ← takeBit
  match ← takeNumber 2 with
  | 0 =>
    align
    let length ← takeNumber 16
    let complement ← takeNumber 16
    if length + complement != 0xFFFF then throw .invalid
    copyStored length
  | 1 => copyCoded fixedCodes.1 fixedCodes.2 ((← get).bits.length + 1)
  | 2 =>
    let (literals, distances) ← takeCodes
    copyCoded literals distances ((← get).bits.length + 1)
  | _ => throw .invalid
  return last

/-- Blocks up to the last one. Each takes some bits. -/
def blocks : Nat → Inflater Unit
  | 0 => throw .starved
  | rounds + 1 => do
    if ← block then return else blocks rounds

end Inflater

/-- What a compressed stream holds as far as it goes, and whether it comes to its end.
Nothing is known of a stream that no compression writes. -/
def inflate (data : List UInt8) : Option (List UInt8 × Bool) :=
  let bits := data.flatMap Inflater.bitsOf
  let (result, s) := (Inflater.blocks (bits.length + 1)).run.run ⟨bits, 0, #[]⟩
  match result with
  | .ok () => some (s.written.toList, true)
  | .error .starved => some (s.written.toList, false)
  | .error .invalid => none

end Compositor.Archive
