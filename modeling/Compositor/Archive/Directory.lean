import Compositor.Archive.Inflate
import Compositor.Fault
import Compositor.Text.Hex
import Compositor.Text.Utf8

/-!
# The directory of an archive

An archive ends with a record that says where its directory stands. The directory
lists the members, and each member has a header of its own before its data. What
stands before the archive in the same file is skipped: all places are counted from
where the directory turns out to be. The data of a member is guarded by a cyclic
checksum of 32 bits; bits are taken from the lowest one, so its polynomial is
written backwards. The names of members that are not marked as Unicode are in a
character set of eight bits, whose upper half holds letters, box drawing and signs.
-/
namespace Compositor.Text.Codepage

/-- The upper half of the set, from 128 on. -/
def upperHalf : Array Char :=
  ("ÇüéâäàåçêëèïîìÄÅÉæÆôöòûùÿÖÜ¢£¥₧ƒáíóúñÑªº¿⌐¬½¼¡«»░▒▓│┤╡╢╖╕╣║╗╝╜╛┐" ++
    "└┴┬├─┼╞╟╚╔╩╦╠═╬╧╨╤╥╙╘╒╓╫╪┘┌█▄▌▐▀αßΓπΣσµτΦΘΩδ∞φε∩≡±≥≤⌠⌡÷≈°∙·√ⁿ²■\u00a0").toList.toArray

/-- The character of a byte; the lower half is ASCII. -/
def charOf (b : UInt8) : Char :=
  if b < 128 then Char.ofNat b.toNat else (upperHalf[b.toNat - 128]?).getD ' '

def decode (bytes : List UInt8) : String := String.ofList (bytes.map charOf)

end Compositor.Text.Codepage

namespace Compositor.Archive

/-- The generator polynomial, with the highest power left out. -/
def polynomial : UInt32 := 0xEDB88320

/-- One bit of a division by the polynomial. -/
def divideBit (c : UInt32) : UInt32 :=
  if c &&& 1 == 1 then (c >>> 1) ^^^ polynomial else c >>> 1

/-- One byte of a division by the polynomial. -/
def divideByte (c : UInt32) (b : UInt8) : UInt32 :=
  (List.range 8).foldl (fun c _ => divideBit c) (c ^^^ b.toUInt32)

def checksum (data : List UInt8) : Nat :=
  ((data.foldl divideByte 0xFFFFFFFF) ^^^ 0xFFFFFFFF).toNat

example : checksum [] = 0 := by decide

/-- What is wrong with an archive. -/
inductive Defect where
  | noArchive
  | manyDisks
  | noRoom
  | cutDirectory
  | noEntry
  | badExtra (tag size : Nat)
  | shortExtra (what : String)
  | beforeFile
  | cutHeader
  | noHeader
  | otherName (name : String) (found : List UInt8)
  | overlap (name : String)
  | badStream
  | badChecksum (name : String)
  deriving DecidableEq, Repr

namespace Defect

/-- A byte inside quotes. -/
def quotedByte (quote : Char) (b : UInt8) : String :=
  let c := Char.ofNat b.toNat
  if c == quote || c == '\\' then "\\" ++ c.toString
  else if c == '\t' then "\\t"
  else if c == '\n' then "\\n"
  else if c == '\r' then "\\r"
  else if 32 ≤ b && b < 127 then c.toString
  else "\\x" ++ Text.hexOfBytes [b]

/-- Bytes in quotes; single ones unless only those occur among the bytes. -/
def quotedBytes (bytes : List UInt8) : String :=
  let quote := if bytes.contains 39 && !bytes.contains 34 then '"' else '\''
  "b" ++ quote.toString ++ String.join (bytes.map (quotedByte quote)) ++ quote.toString

def message : Defect → String
  | .noArchive => "File is not a zip file"
  | .manyDisks => "zipfiles that span multiple disks are not supported"
  | .noRoom => "Bad offset for central directory"
  | .cutDirectory => "Truncated central directory"
  | .noEntry => "Bad magic number for central directory"
  | .badExtra tag size =>
    "Corrupt extra field " ++ String.ofList (Text.hexPadded tag 4) ++
      " (size=" ++ toString size ++ ")"
  | .shortExtra what => "Corrupt zip64 extra field. " ++ what ++ " not found."
  | .beforeFile => "[Errno 22] Invalid argument"
  | .cutHeader => "Truncated file header"
  | .noHeader => "Bad magic number for file header"
  | .otherName name found =>
    "File name in directory " ++ Text.quoted name ++ " and header " ++
      quotedBytes found ++ " differ."
  | .overlap name => "Overlapped entries: " ++ Text.quoted name ++ " (possible zip bomb)"
  | .badStream => "Invalid data stream"
  | .badChecksum name => "Bad CRC-32 for file " ++ Text.quoted name

end Defect

/-- Why an archive cannot be read. -/
inductive ReadError where
  | defect (d : Defect)
  | format (e : FormatError)
  deriving Repr

abbrev Reading := Except ReadError

def defect (d : Defect) : Reading α := .error (.defect d)

/-- How methods of compression are undone, by their numbers. What is told of packed data is
the data, as far as it is there, and whether the compressed stream ended. -/
abbrev Codecs := Nat → Option (List UInt8 → Reading (List UInt8 × Bool))

/-- The method that is in general use, and no other one. -/
def usualCodecs : Codecs
  | 8 => some fun packed =>
    match inflate packed with
    | some found => .ok found
    | none => .error (.format .badStream)
  | _ => none

/-- The number in so many bytes from a place on, the lowest byte first. -/
def number (bytes : List UInt8) (place width : Nat) : Nat :=
  ((bytes.drop place).take width).foldr (fun b n => b.toNat + 256 * n) 0

/-- Where the last occurrence of some bytes begins. -/
def lastPlace? (wanted : List UInt8) : List UInt8 → Option Nat
  | [] => none
  | b :: rest =>
    match lastPlace? wanted rest with
    | some i => some (i + 1)
    | none => if wanted.isPrefixOf (b :: rest) then some 0 else none

/-- The mark at the beginning of a record. -/
def mark (a b : UInt8) : List UInt8 := [0x50, 0x4B, a, b]

/-- What the record at the end says: where it stands, the size of the directory, and
the place of the directory in an archive with nothing before it. -/
structure Ending where
  place : Nat
  size : Nat
  offset : Nat

namespace Ending

/-- The length of the record without a comment. -/
def length : Nat := 22

/-- Where the record stands: at the very end, or before a comment. -/
def place? (bytes : List UInt8) : Option Nat :=
  let total := bytes.length
  let last := bytes.drop (total - length)
  if total < length then none
  else if (mark 5 6).isPrefixOf last && number last 20 2 == 0 then some (total - length)
  else
    let start := total - length - 65536
    match lastPlace? (mark 5 6) (bytes.drop start) with
    | some i => if start + i + length ≤ total then some (start + i) else none
    | none => none

/-- The record of a large archive, which stands before the other one and takes its
place. -/
def widen (bytes : List UInt8) (e : Ending) : Reading Ending :=
  if e.place < 20 then .ok e
  else
    let locator := bytes.drop (e.place - 20)
    if !(mark 6 7).isPrefixOf locator then .ok e
    else if number locator 4 4 != 0 || 1 < number locator 16 4 then defect .manyDisks
    else if e.place < 76 then defect .noArchive
    else
      let wide := bytes.drop (e.place - 76)
      if (mark 6 6).isPrefixOf wide then
        .ok ⟨e.place - 76, number wide 40 8, number wide 48 8⟩
      else .ok e

def read (bytes : List UInt8) : Reading Ending := do
  match place? bytes with
  | none => defect .noArchive
  | some place =>
    let record := bytes.drop place
    widen bytes ⟨place, number record 12 4, number record 16 4⟩

end Ending

/-- An entry of the directory. -/
structure Item where
  /-- The name as it is written. -/
  fullName : String
  flags : Nat
  method : Nat
  checksum : Nat
  packedSize : Nat
  size : Nat
  /-- Where the header of the member stands. -/
  place : Int
  deriving Repr

/-- A name, in Unicode if the flags say so. -/
def decodeName (flags : Nat) (bytes : List UInt8) : Reading String :=
  if flags.testBit 11 then
    match String.fromUTF8? (ByteArray.mk bytes.toArray) with
    | some name => .ok name
    | none => .error (.format .undecodable)
  else .ok (Text.Codepage.decode bytes)

namespace Item

/-- The name of a member ends before the first NUL in it. -/
def name (i : Item) : String := String.ofList (i.fullName.toList.takeWhile (· != '\x00'))

/-- The value that says that the real one stands in an extra field. -/
def elsewhere : Nat := 0xFFFFFFFF

/-- The next of the numbers of an extra field, if the entry says that it is there. -/
def takeWide (what : String) (value : Nat) (field : List UInt8) : Reading (Nat × List UInt8) :=
  if value != elsewhere then .ok (value, field)
  else if field.length < 8 then defect (.shortExtra what)
  else .ok (number field 0 8, field.drop 8)

/-- Takes the numbers of an extra field for large archives. -/
def widen (i : Item) (field : List UInt8) : Reading Item := do
  let (size, field) ← takeWide "File size" i.size field
  let (packedSize, field) ← takeWide "Compress size" i.packedSize field
  let (place, _) ← takeWide "Header offset" i.place.toNat field
  .ok { i with size, packedSize, place }

/-- Looks through the extra fields, of which there are at most `rounds`. -/
def readExtra : Nat → List UInt8 → Item → Reading Item
  | 0, _, i => .ok i
  | rounds + 1, extra, i => do
    if extra.length < 4 then .ok i
    else
      let tag := number extra 0 2
      let size := number extra 2 2
      if extra.length < size + 4 then defect (.badExtra tag size)
      else
        let i ← if tag == 1 then i.widen ((extra.drop 4).take size) else .ok i
        readExtra rounds (extra.drop (size + 4)) i

/-- The length of an entry without names and fields. -/
def entryLength : Nat := 46

/-- The newest version of the format that can be read, in tenths. -/
def newestVersion : Nat := 63

/-- The entry at the beginning of some bytes, and its length. -/
def read (bytes : List UInt8) : Reading (Item × Nat) := do
  if bytes.length < entryLength then defect .cutDirectory
  else if !(mark 1 2).isPrefixOf bytes then defect .noEntry
  else
    let nameLength := number bytes 28 2
    let extraLength := number bytes 30 2
    let flags := number bytes 8 2
    let names := bytes.drop entryLength
    let fullName ← decodeName flags (names.take nameLength)
    if newestVersion < number bytes 6 1 then .error (.format .unsupported)
    else
      let extra := (names.drop nameLength).take extraLength
      let item ← readExtra (extra.length / 4 + 1) extra {
        fullName, flags, method := number bytes 10 2, checksum := number bytes 16 4,
        packedSize := number bytes 20 4, size := number bytes 24 4, place := number bytes 42 4 }
      .ok (item, entryLength + nameLength + extraLength + number bytes 32 2)

/-- The entries in some bytes, of which there are at most `rounds`. -/
def readAll : Nat → List UInt8 → Reading (List Item)
  | 0, _ => .ok []
  | rounds + 1, bytes => do
    if bytes.isEmpty then .ok []
    else
      let (item, length) ← read bytes
      .ok (item :: (← readAll rounds (bytes.drop length)))

/-- Where the data of a member begins, when its header agrees with the directory. What
belongs to the member ends before `stop`. -/
def dataPlace (codecs : Codecs) (i : Item) (stop : Int) (bytes : List UInt8) : Reading Nat := do
  if i.place < 0 then defect .beforeFile
  else
    let header := bytes.drop i.place.toNat
    if header.length < 30 then defect .cutHeader
    else if !(mark 3 4).isPrefixOf header then defect .noHeader
    else
      let nameLength := number header 26 2
      let found := (header.drop 30).take nameLength
      if i.flags.testBit 5 || i.flags.testBit 6 then .error (.format .unsupported)
      else
        let name ← decodeName (number header 6 2) found
        let place := i.place.toNat + 30 + nameLength + number header 28 2
        if name != i.fullName then defect (.otherName i.fullName found)
        else if stop < place + i.packedSize then defect (.overlap i.fullName)
        else if i.flags.testBit 0 || (i.method != 0 && (codecs i.method).isNone) then
          .error (.format .unsupported)
        else .ok place

/-- Cuts data to the size of the member and compares its checksum. -/
def checked (i : Item) (data : List UInt8) : Reading (List UInt8) :=
  let data := data.take i.size
  if Archive.checksum data == i.checksum then .ok data else defect (.badChecksum i.name)

/-- The data of a member, from its packed form as far as that is there. Data that ends
early is enough if it fills the member. -/
def unpack (codecs : Codecs) (i : Item) (packed : List UInt8) : Reading (List UInt8) := do
  let complete := packed.length == i.packedSize
  if packed.isEmpty && !complete then .error (.format .endOfData)
  else
    let (data, ended) ← ((codecs i.method).getD fun packed => .ok (packed, false)) packed
    if complete || ended || i.size ≤ data.length then i.checked data
    else .error (.format .endOfData)

end Item

/-- A member: its name, whether its header can be read, and its data. -/
structure Member where
  name : String
  opening : Reading Unit
  data : Reading (List UInt8)

namespace Member

/-- The member of an entry, and what belongs to it ends before `stop`. -/
def ofItem (codecs : Codecs) (bytes : List UInt8) (i : Item) (stop : Int) : Member :=
  let place := i.dataPlace codecs stop bytes
  { name := i.name
    opening := place.map fun _ => ()
    data := do i.unpack codecs ((bytes.drop (← place)).take i.packedSize) }

end Member

/-- Where the next entry after one begins, by the places of their headers. What stands at
one place comes in the order of the directory, which itself comes after the last entry. -/
def stopOf (directory : Int) (items : List Item) (index : Nat) (i : Item) : Int :=
  let later := items.zipIdx.filter fun (other, n) =>
    i.place < other.place || (other.place == i.place && index < n)
  ((later.map fun e => e.1.place).min?).getD directory

/-- The members that the directory of an archive lists. -/
def membersOf (codecs : Codecs) (bytes : List UInt8) : Reading (List Member) := do
  let e ← Ending.read bytes
  if e.place < e.size then defect .noRoom
  else
    let start := e.place - e.size
    let directory := (bytes.drop start).take e.size
    let listed ← Item.readAll (e.size / Item.entryLength + 1) directory
    let items := listed.map fun i => { i with place := i.place + (start - e.offset : Int) }
    .ok (items.zipIdx.map fun (i, index) =>
      Member.ofItem codecs bytes i (stopOf start items index i))

end Compositor.Archive
