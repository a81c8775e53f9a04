import Mathlib.Data.Rat.Defs
import Mathlib.Algebra.Field.Rat
import Mathlib.Algebra.Order.Field.Power

/-!
# Formulas

The media tool is given arithmetic as text, and computes with it when it draws. A formula is
such a text with its usual meaning: products bind tighter than sums, operations of one kind are
taken from the left, a sign belongs to the factor behind it, numbers are decimals that may have
an exponent, and division is exact. `Reads` is the grammar, and `parse?` finds what it says.

Texts of formulas are put together from parts. `Means` says what a part of a text is, whatever
stands around it, so that the meaning of a text is built up as the text is.
-/
namespace Compositor

/-- Arithmetic over numbers and letters. -/
inductive Formula where
  | number (value : ℚ)
  | letter (name : Char)
  | neg (f : Formula)
  | add (f g : Formula)
  | sub (f g : Formula)
  | mul (f g : Formula)
  | div (f g : Formula)
  deriving DecidableEq

namespace Formula

/-- The value, where the letters have values and nothing is divided by zero. -/
def eval (letters : Char → Option ℚ) : Formula → Option ℚ
  | number value => some value
  | letter name => letters name
  | neg f => do return -(← f.eval letters)
  | add f g => do return (← f.eval letters) + (← g.eval letters)
  | sub f g => do return (← f.eval letters) - (← g.eval letters)
  | mul f g => do return (← f.eval letters) * (← g.eval letters)
  | div f g => do
    let a ← f.eval letters
    let b ← g.eval letters
    if b = 0 then none else some (a / b)

/-! ## Numerals -/

/-- The value of a digit. -/
def digitValue (c : Char) : Nat := c.toNat - '0'.toNat

/-- A numeral as far as it was read. -/
inductive Numeral where
  | whole (digits : Nat)
  /-- All its digits, of which so many stand behind the point. -/
  | fraction (digits places : Nat)
  /-- The exponent is still to come. -/
  | scaled (digits places : Nat)
  | power (digits places : Nat) (negative : Bool) (exponent : Option Nat)
  deriving DecidableEq

namespace Numeral

/-- The numeral with one more character, if it goes on. -/
def next? : Numeral → Char → Option Numeral
  | whole digits, c =>
    if c.isDigit then some (.whole (10 * digits + digitValue c))
    else if c = '.' then some (.fraction digits 0)
    else if c = 'e' then some (.scaled digits 0)
    else none
  | fraction digits places, c =>
    if c.isDigit then some (.fraction (10 * digits + digitValue c) (places + 1))
    else if c = 'e' then some (.scaled digits places)
    else none
  | scaled digits places, c =>
    if c.isDigit then some (.power digits places false (some (digitValue c)))
    else if c = '+' then some (.power digits places false none)
    else if c = '-' then some (.power digits places true none)
    else none
  | power digits places negative exponent, c =>
    if c.isDigit then
      some (.power digits places negative (some (10 * exponent.getD 0 + digitValue c)))
    else none

/-- The value of a numeral that may end here. -/
def value? : Numeral → Option ℚ
  | whole digits => some digits
  | fraction digits places => some (digits / 10 ^ places)
  | scaled _ _ => none
  | power digits places negative exponent => exponent.map fun size =>
    digits / 10 ^ places * (if negative then (10 ^ size)⁻¹ else 10 ^ size)

end Numeral

/-! ## Tokens -/

inductive Token where
  | number (value : ℚ)
  | letter (name : Char)
  | plus
  | minus
  | times
  | over
  | opening
  | closing
  deriving DecidableEq

/-- What a character stands for that belongs to no numeral. -/
def Token.ofChar? (c : Char) : Option Token :=
  if c = '+' then some .plus
  else if c = '-' then some .minus
  else if c = '*' then some .times
  else if c = '/' then some .over
  else if c = '(' then some .opening
  else if c = ')' then some .closing
  else if c.isAlpha then some (.letter c)
  else none

/-- The tokens of a text behind a numeral that may go on. A numeral is as long as it can be. -/
def scan : Option Numeral → List Char → Option (List Token)
  | none, [] => some []
  | some numeral, [] => do return [.number (← numeral.value?)]
  | none, c :: rest =>
    if c.isDigit then scan (some (.whole (digitValue c))) rest
    else do return (← Token.ofChar? c) :: (← scan none rest)
  | some numeral, c :: rest =>
    match numeral.next? c with
    | some longer => scan (some longer) rest
    | none => do return .number (← numeral.value?) :: (← Token.ofChar? c) :: (← scan none rest)

/-! ## Grammar -/

/-- How tightly a part of a formula is bound. -/
inductive Level where
  | sum
  | product
  | factor

/-- The tokens that stand for a formula. -/
inductive Reads : Level → List Token → Formula → Prop
  | number (value : ℚ) : Reads .factor [.number value] (.number value)
  | letter (name : Char) : Reads .factor [.letter name] (.letter name)
  | group {ts : List Token} {f : Formula} (h : Reads .sum ts f) :
    Reads .factor (.opening :: (ts ++ [.closing])) f
  | positive {ts : List Token} {f : Formula} (h : Reads .factor ts f) :
    Reads .factor (.plus :: ts) f
  | negative {ts : List Token} {f : Formula} (h : Reads .factor ts f) :
    Reads .factor (.minus :: ts) (.neg f)
  | factor {ts : List Token} {f : Formula} (h : Reads .factor ts f) : Reads .product ts f
  | mul {ts us : List Token} {f g : Formula} (h : Reads .product ts f) (h' : Reads .factor us g) :
    Reads .product (ts ++ .times :: us) (.mul f g)
  | div {ts us : List Token} {f g : Formula} (h : Reads .product ts f) (h' : Reads .factor us g) :
    Reads .product (ts ++ .over :: us) (.div f g)
  | product {ts : List Token} {f : Formula} (h : Reads .product ts f) : Reads .sum ts f
  | add {ts us : List Token} {f g : Formula} (h : Reads .sum ts f) (h' : Reads .product us g) :
    Reads .sum (ts ++ .plus :: us) (.add f g)
  | sub {ts us : List Token} {f g : Formula} (h : Reads .sum ts f) (h' : Reads .product us g) :
    Reads .sum (ts ++ .minus :: us) (.sub f g)

/-- Where a reader stands inside a pair of parentheses: what becomes of the product that it
reads, and either what becomes of the next factor or the product so far. -/
inductive Place where
  | operand (terms factors : Formula → Formula)
  | operator (terms : Formula → Formula) (product : Formula)

/-- What waits for the end of a pair of parentheses. -/
structure Waiting where
  terms : Formula → Formula
  factors : Formula → Formula

/-- Reads tokens from a place, inside the parentheses that are still open. -/
def parseFrom : List Token → Place → List Waiting → Option Formula
  | [], .operator terms product, [] => some (terms product)
  | .number value :: rest, .operand terms factors, outer =>
    parseFrom rest (.operator terms (factors (.number value))) outer
  | .letter name :: rest, .operand terms factors, outer =>
    parseFrom rest (.operator terms (factors (.letter name))) outer
  | .plus :: rest, .operand terms factors, outer => parseFrom rest (.operand terms factors) outer
  | .minus :: rest, .operand terms factors, outer =>
    parseFrom rest (.operand terms fun f => factors (.neg f)) outer
  | .opening :: rest, .operand terms factors, outer =>
    parseFrom rest (.operand id id) (⟨terms, factors⟩ :: outer)
  | .plus :: rest, .operator terms product, outer =>
    parseFrom rest (.operand (.add (terms product)) id) outer
  | .minus :: rest, .operator terms product, outer =>
    parseFrom rest (.operand (.sub (terms product)) id) outer
  | .times :: rest, .operator terms product, outer =>
    parseFrom rest (.operand terms (.mul product)) outer
  | .over :: rest, .operator terms product, outer =>
    parseFrom rest (.operand terms (.div product)) outer
  | .closing :: rest, .operator terms product, waiting :: outer =>
    parseFrom rest (.operator waiting.terms (waiting.factors (terms product))) outer
  | _, _, _ => none

/-- The formula that a text is. -/
def parse? (text : String) : Option Formula := do
  parseFrom (← scan none text.toList) (.operand id id) []

/-- The value of a text. -/
def value? (letters : Char → Option ℚ) (text : String) : Option ℚ := do
  (← parse? text).eval letters

example : value? (fun _ => none) "2-3*(4-10)/4-1e+01" = some (-7 / 2) := by decide +kernel

/-- A reader that is led by the grammar reads what the grammar says. -/
theorem Reads.parseFrom_append {level : Level} {ts : List Token} {f : Formula}
    (h : Reads level ts f) :
    match level with
    | .factor => ∀ rest terms factors outer, parseFrom (ts ++ rest) (.operand terms factors) outer =
        parseFrom rest (.operator terms (factors f)) outer
    | .product => ∀ rest terms outer, parseFrom (ts ++ rest) (.operand terms id) outer =
        parseFrom rest (.operator terms f) outer
    | .sum => ∃ terms product, terms product = f ∧ ∀ rest outer,
        parseFrom (ts ++ rest) (.operand id id) outer =
          parseFrom rest (.operator terms product) outer := by
  induction h with
  | number value => exact fun rest terms factors outer => rfl
  | letter name => exact fun rest terms factors outer => rfl
  | group h ih =>
    intro rest terms factors outer
    obtain ⟨terms', product, rfl, hread⟩ := ih
    rw [List.cons_append, List.append_assoc]
    exact hread (.closing :: rest) (⟨terms, factors⟩ :: outer)
  | positive h ih => exact fun rest terms factors outer => ih rest terms factors outer
  | negative h ih => exact fun rest terms factors outer => ih rest terms _ outer
  | factor h ih => exact fun rest terms outer => ih rest terms id outer
  | mul h h' ih ih' =>
    intro rest terms outer
    rw [List.append_assoc, ih]
    exact ih' rest terms _ outer
  | div h h' ih ih' =>
    intro rest terms outer
    rw [List.append_assoc, ih]
    exact ih' rest terms _ outer
  | product h ih => exact ⟨id, _, rfl, fun rest outer => ih rest id outer⟩
  | @add ts us f g h h' ih ih' =>
    obtain ⟨terms, product, rfl, hread⟩ := ih
    refine ⟨.add (terms product), g, rfl, fun rest outer => ?_⟩
    rw [List.append_assoc, hread]
    exact ih' rest _ outer
  | @sub ts us f g h h' ih ih' =>
    obtain ⟨terms, product, rfl, hread⟩ := ih
    refine ⟨.sub (terms product), g, rfl, fun rest outer => ?_⟩
    rw [List.append_assoc, hread]
    exact ih' rest _ outer

theorem Reads.parseFrom_eq {ts : List Token} {f : Formula} (h : Reads .sum ts f) :
    parseFrom ts (.operand id id) [] = some f := by
  obtain ⟨terms, product, rfl, hread⟩ := h.parseFrom_append
  have hwhole := hread [] []
  rwa [List.append_nil] at hwhole

/-! ## Parts of a text -/

/-- The characters that may go on with a numeral. -/
def goesOn (c : Char) : Bool := c.isDigit || c == '.' || c == 'e'

theorem isDigit_of_goesOn {c : Char} (h : goesOn c = false) : c.isDigit = false := by
  simp only [goesOn, Bool.or_eq_false_iff] at h
  exact h.1.1

/-- What does not go on with a numeral in front of it. -/
def Breaks (cs : List Char) : Prop := ∀ c ∈ cs.head?, goesOn c = false

namespace Numeral

/-- A numeral with more characters. -/
def read? (numeral : Numeral) (cs : List Char) : Option Numeral := cs.foldlM next? numeral

theorem read?_append (numeral : Numeral) (cs more : List Char) :
    numeral.read? (cs ++ more) = (numeral.read? cs).bind (·.read? more) := List.foldlM_append

/-- A numeral that may end does so in front of what does not go on with it. -/
theorem next?_eq_none {numeral : Numeral} {value : ℚ} (h : numeral.value? = some value) {c : Char}
    (hc : goesOn c = false) : numeral.next? c = none := by
  simp only [goesOn, Bool.or_eq_false_iff, beq_eq_false_iff_ne] at hc
  obtain ⟨⟨hdigit, hpoint⟩, he⟩ := hc
  cases numeral with
  | scaled => cases h
  | whole | fraction | power => simp [next?, hdigit, hpoint, he]

end Numeral

/-- Characters that are a numeral as a whole. -/
structure IsLiteral (cs : List Char) (value : ℚ) : Prop where
  first : ∃ c ∈ cs.head?, c.isDigit = true
  read : ∃ numeral, (Numeral.whole 0).read? cs = some numeral ∧ numeral.value? = some value

theorem scan_read {numeral longer : Numeral} {cs : List Char}
    (h : numeral.read? cs = some longer) (rest : List Char) :
    scan (some numeral) (cs ++ rest) = scan (some longer) rest := by
  induction cs generalizing numeral with
  | nil =>
    obtain rfl := Option.some.inj h
    rfl
  | cons c cs ih =>
    obtain ⟨next, hnext, h⟩ := Option.bind_eq_some_iff.mp h
    have hlonger : scan (some numeral) (c :: (cs ++ rest)) = scan (some next) (cs ++ rest) := by
      rw [scan, hnext]
    exact hlonger.trans (ih h)

theorem scan_symbol {c : Char} {t : Token} (hdigit : c.isDigit = false)
    (ht : Token.ofChar? c = some t) (rest : List Char) :
    scan none (c :: rest) = (scan none rest).map (t :: ·) := by
  rw [scan, hdigit, ht]
  cases scan none rest <;> rfl

/-- The tokens of a part of a text, in front of what does not go on with a numeral. -/
def Spells (part : String) (ts : List Token) : Prop :=
  ∀ rest, Breaks rest → scan none (part.toList ++ rest) = (scan none rest).map (ts ++ ·)

namespace Spells

theorem literal {part : String} {value : ℚ} (h : IsLiteral part.toList value) :
    Spells part [.number value] := by
  intro rest hrest
  obtain ⟨first, hfirst, hdigit⟩ := h.first
  obtain ⟨numeral, hread, hvalue⟩ := h.read
  obtain ⟨cs, hcs⟩ := List.head?_eq_some_iff.mp hfirst
  rw [hcs] at hread ⊢
  obtain ⟨next, hnext, hread⟩ := Option.bind_eq_some_iff.mp hread
  obtain rfl : Numeral.whole (digitValue first) = next := by
    simpa [Numeral.next?, hdigit] using hnext
  have hscan : scan none (first :: cs ++ rest) = scan (some numeral) rest := by
    rw [List.cons_append, scan, if_pos hdigit]
    exact scan_read hread rest
  rw [hscan]
  cases rest with
  | nil => simp [scan, hvalue]
  | cons c rest =>
    have hc : goesOn c = false := hrest c rfl
    have hplain : c.isDigit = false := isDigit_of_goesOn hc
    simp only [scan, Numeral.next?_eq_none hvalue hc, hvalue, hplain]
    cases Token.ofChar? c with
    | none => rfl
    | some t => cases scan none rest <;> rfl

theorem symbol {part : String} {c : Char} {t : Token} (hpart : part.toList = [c])
    (hdigit : c.isDigit = false) (ht : Token.ofChar? c = some t) : Spells part [t] := by
  intro rest _
  rw [hpart]
  exact scan_symbol hdigit ht rest

theorem signed {part mark : String} {ts : List Token} {c : Char} {t : Token} (h : Spells part ts)
    (hmark : mark.toList = [c]) (hdigit : c.isDigit = false) (ht : Token.ofChar? c = some t) :
    Spells (mark ++ part) (t :: ts) := by
  intro rest hrest
  rw [String.toList_append, hmark, List.append_assoc, List.singleton_append,
    scan_symbol hdigit ht, h _ hrest]
  cases scan none rest with
  | none => rfl
  | some vs => simp

/-- Parts with an operator between them. -/
theorem infixed {part part' mark : String} {ts us : List Token} {c : Char} {t : Token}
    (h : Spells part ts) (h' : Spells part' us) (hmark : mark.toList = [c])
    (hbreak : goesOn c = false) (ht : Token.ofChar? c = some t) :
    Spells (part ++ mark ++ part') (ts ++ t :: us) := by
  intro rest hrest
  have hdigit : c.isDigit = false := isDigit_of_goesOn hbreak
  have hmiddle : Breaks (c :: (part'.toList ++ rest)) := by
    rintro _ ⟨⟩
    exact hbreak
  rw [String.toList_append, String.toList_append, hmark, List.append_assoc, List.append_assoc,
    List.singleton_append, h _ hmiddle, scan_symbol hdigit ht, h' _ hrest]
  cases scan none rest with
  | none => rfl
  | some vs => simp

theorem grouped {part : String} {ts : List Token} (h : Spells part ts) :
    Spells ("(" ++ part ++ ")") (.opening :: (ts ++ [.closing])) := by
  intro rest _
  have hclose : Breaks (')' :: rest) := by
    rintro _ ⟨⟩
    decide
  have hparts : ("(" ++ part ++ ")").toList ++ rest = '(' :: (part.toList ++ (')' :: rest)) := by
    simp
  have hopening : Token.ofChar? '(' = some .opening := by decide
  have hclosing : Token.ofChar? ')' = some .closing := by decide
  rw [hparts, scan_symbol (by decide) hopening, h _ hclose, scan_symbol (by decide) hclosing]
  cases scan none rest with
  | none => rfl
  | some vs => simp

end Spells

/-- What a part of a text is. -/
def Means (level : Level) (part : String) (f : Formula) : Prop :=
  ∃ ts, Spells part ts ∧ Reads level ts f

namespace Means

variable {part part' : String} {f g : Formula}

theorem number {value : ℚ} (h : IsLiteral part.toList value) :
    Means .factor part (.number value) := ⟨_, .literal h, .number value⟩

theorem letter {c : Char} (hpart : part.toList = [c]) (hdigit : c.isDigit = false)
    (hc : Token.ofChar? c = some (.letter c)) : Means .factor part (.letter c) :=
  ⟨_, .symbol hpart hdigit hc, .letter c⟩

theorem group (h : Means .sum part f) : Means .factor ("(" ++ part ++ ")") f := by
  obtain ⟨ts, hspells, hreads⟩ := h
  exact ⟨_, hspells.grouped, .group hreads⟩

theorem positive (h : Means .factor part f) : Means .factor ("+" ++ part) f := by
  obtain ⟨ts, hspells, hreads⟩ := h
  exact ⟨_, hspells.signed rfl (by decide) (by decide), .positive hreads⟩

theorem negative (h : Means .factor part f) : Means .factor ("-" ++ part) (.neg f) := by
  obtain ⟨ts, hspells, hreads⟩ := h
  exact ⟨_, hspells.signed rfl (by decide) (by decide), .negative hreads⟩

theorem div (h : Means .product part f) (h' : Means .factor part' g) :
    Means .product (part ++ "/" ++ part') (.div f g) := by
  obtain ⟨ts, hspells, hreads⟩ := h
  obtain ⟨us, hspells', hreads'⟩ := h'
  exact ⟨_, hspells.infixed hspells' rfl (by decide) (by decide), .div hreads hreads'⟩

theorem add (h : Means .sum part f) (h' : Means .product part' g) :
    Means .sum (part ++ "+" ++ part') (.add f g) := by
  obtain ⟨ts, hspells, hreads⟩ := h
  obtain ⟨us, hspells', hreads'⟩ := h'
  exact ⟨_, hspells.infixed hspells' rfl (by decide) (by decide), .add hreads hreads'⟩

theorem sub (h : Means .sum part f) (h' : Means .product part' g) :
    Means .sum (part ++ "-" ++ part') (.sub f g) := by
  obtain ⟨ts, hspells, hreads⟩ := h
  obtain ⟨us, hspells', hreads'⟩ := h'
  exact ⟨_, hspells.infixed hspells' rfl (by decide) (by decide), .sub hreads hreads'⟩

theorem product (h : Means .factor part f) : Means .product part f := by
  obtain ⟨ts, hspells, hreads⟩ := h
  exact ⟨ts, hspells, .factor hreads⟩

theorem sum (h : Means .product part f) : Means .sum part f := by
  obtain ⟨ts, hspells, hreads⟩ := h
  exact ⟨ts, hspells, .product hreads⟩

theorem parse?_eq (h : Means .sum part f) : parse? part = some f := by
  obtain ⟨ts, hspells, hreads⟩ := h
  have hscan := hspells [] nofun
  rw [List.append_nil] at hscan
  rw [parse?, hscan]
  change parseFrom (ts ++ []) _ _ = _
  rw [List.append_nil]
  exact hreads.parseFrom_eq

end Means

end Formula

end Compositor
