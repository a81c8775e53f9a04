/-!
# Punycode

A host label with characters beyond ASCII is written as its ASCII characters
followed by a list of insertions. Insertions are ordered by character and then by
place; each is the distance from the one before it, as a number of variable length
whose digit thresholds follow a bias. Reading a label makes the insertions again.
-/
namespace Compositor.Address.Punycode

def digit (d : Nat) : Char :=
  if d < 26 then Char.ofNat ('a'.toNat + d) else Char.ofNat ('0'.toNat + (d - 26))

/-- The threshold of the digit at position `k`, between 1 and 26. -/
def threshold (k bias : Nat) : Nat :=
  if k ≤ bias then 1 else if bias + 26 ≤ k then 26 else k - bias

theorem threshold_pos (k bias : Nat) : 0 < threshold k bias := by
  unfold threshold
  split
  · omega
  · split <;> omega

theorem threshold_lt (k bias : Nat) : threshold k bias < 36 := by
  unfold threshold
  split
  · omega
  · split <;> omega

/-- The digits of a distance, least significant first. -/
def distance (bias k q : Nat) : List Char :=
  let t := threshold k bias
  if q < t then [digit q]
  else digit (t + (q - t) % (36 - t)) :: distance bias (k + 36) ((q - t) / (36 - t))
termination_by q
decreasing_by
  have hp := threshold_pos k bias
  have hd := Nat.div_le_self (q - threshold k bias) (36 - threshold k bias)
  omega

/-- Halves of a distance by thirty-fifths until it is small, counting the steps in 36. -/
def shrink (delta k : Nat) : Nat × Nat :=
  if 455 < delta then shrink (delta / 35) (k + 36) else (delta, k)
termination_by delta
decreasing_by omega

/-- The bias after an insertion into `points` characters. -/
def adapt (delta points : Nat) (first : Bool) : Nat :=
  let scaled := if first then delta / 700 else delta / 2
  let (d, k) := shrink (scaled + scaled / points) 0
  k + 36 * d / (d + 38)

structure State where
  out : List Char
  delta : Nat
  bias : Nat
  handled : Nat

/-- Passes one character of the label while inserting the character `m`. -/
def pass (basic m : Nat) (st : State) (c : Char) : State :=
  if c.toNat < m then { st with delta := st.delta + 1 }
  else if c.toNat == m then
    ⟨st.out ++ distance st.bias 36 st.delta, 0,
      adapt st.delta (st.handled + 1) (st.handled == basic), st.handled + 1⟩
  else st

/-- Inserts the characters in ascending order; `n` is the least one not handled yet. -/
def insertAll (label : List Char) (basic : Nat) : List Nat → Nat → State → State
  | [], _, st => st
  | m :: rest, n, st =>
    let st := { st with delta := st.delta + (m - n) * (st.handled + 1) }
    let st := label.foldl (pass basic m) st
    insertAll label basic rest (m + 1) { st with delta := st.delta + 1 }

/-- The encoded form of a label, without the mark that tells it from a plain one. -/
def encode (label : List Char) : List Char :=
  let basic := label.filter fun c => c.toNat < 0x80
  let wide := ((label.filter fun c => 0x80 ≤ c.toNat).map Char.toNat).mergeSort
  let st := insertAll label basic.length wide.eraseDups 128 ⟨[], 0, 72, basic.length⟩
  (if basic.isEmpty then [] else basic ++ ['-']) ++ st.out

/-- The value of a digit of either case. -/
def digitValue? (c : Char) : Option Nat :=
  if 'a' ≤ c && c ≤ 'z' then some (c.toNat - 'a'.toNat)
  else if 'A' ≤ c && c ≤ 'Z' then some (c.toNat - 'A'.toNat)
  else if '0' ≤ c && c ≤ '9' then some (c.toNat - '0'.toNat + 26)
  else none

/-- Reads a distance: its value and what follows it. The digit at position `k` counts
`weight` times. -/
def readDistance? (bias k weight value : Nat) : List Char → Option (Nat × List Char)
  | [] => none
  | c :: rest => do
    let d ← digitValue? c
    let value := value + d * weight
    if d < threshold k bias then some (value, rest)
    else readDistance? bias (k + 36) (weight * (36 - threshold k bias)) value rest

theorem readDistance?_length {bias : Nat} {cs : List Char} {k weight value : Nat}
    {r : Nat × List Char} (h : readDistance? bias k weight value cs = some r) :
    r.2.length < cs.length := by
  induction cs generalizing k weight value with
  | nil => simp [readDistance?] at h
  | cons c rest ih =>
    rw [readDistance?] at h
    cases hd : digitValue? c with
    | none => simp [hd] at h
    | some d =>
      simp only [hd, Option.bind_eq_bind, Option.bind_some] at h
      split at h
      · rw [← Option.some.inj h]
        simp
      · have := ih h
        simp only [List.length_cons]
        omega

/-- Makes the insertions: each moves on from the place of the one before it, and to
the next character whenever it passes the end. -/
def insertRead? (bias n place : Nat) (first : Bool) (label cs : List Char) :
    Option (List Char) :=
  match _found : readDistance? bias 36 1 0 cs with
  | none => if cs.isEmpty then some label else none
  | some (delta, rest) =>
    let size := label.length + 1
    let n := n + (place + delta) / size
    let place := (place + delta) % size
    if n.isValidChar then
      insertRead? (adapt delta size first) n (place + 1) false
        (label.take place ++ Char.ofNat n :: label.drop place) rest
    else none
termination_by cs.length
decreasing_by
  exact readDistance?_length _found

/-- The label that an encoded form stands for, if it is well formed. -/
def decode? (cs : List Char) : Option (List Char) :=
  let inserted := (cs.reverse.takeWhile (· != '-')).reverse
  let basic := cs.take (cs.length - inserted.length - 1)
  if basic.all fun c => c.toNat < 0x80 then insertRead? 72 128 0 true basic inserted
  else none

end Compositor.Address.Punycode
