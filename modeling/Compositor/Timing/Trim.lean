import Compositor.Json.Conversion
import Compositor.Timing.Quantity

/-!
# Trims

A trim selects the part of a source from `start` up to `stop`, or up to the end
of the source. `Trim.length` is the length of the part that is left of a source,
and `Trim.seek` says how the part is requested from the media tool; both follow
from the same pair.
-/
namespace Compositor

structure Trim (α : Type) where
  start : α
  stop : Option α
  deriving Repr

/-- A request to begin reading at `start`, and to stop after `span` if it is given. -/
structure Seek (α : Type) where
  start : α
  span : Option α
  deriving Repr

namespace Trim

variable {α : Type} [Quantity α]

/-- The length of what a trim leaves of `total` seconds; nothing when it is empty
(`trimmed_duration`). -/
def length (total : α) : Option (Trim α) → Except Fault (Option α)
  | none => .ok (some total)
  | some t => do
    let stop ← match t.stop with
      | none => .ok total
      | some stop => Quantity.least stop total
    if ← Quantity.less t.start stop then
      return some (← Quantity.sub stop t.start)
    return none

/-- The length of a source of probed length that is known and not zero. -/
def clipLength (probed : Option α) (trim : Option (Trim α)) : Except Fault (Option α) :=
  match probed with
  | none => .ok none
  | some total => if Quantity.isZero total then .ok none else length total trim

/-- The request that selects a trim. -/
def seek : Option (Trim α) → Except Fault (Option (Seek α))
  | none => .ok none
  | some t =>
    match t.stop with
    | none => .ok (some ⟨t.start, none⟩)
    | some stop => do
      let span ← Quantity.sub stop t.start
      .ok (some ⟨t.start, some span⟩)

/-- Whether a trim ends before it starts. -/
def isReversed (t : Trim α) : Except Fault Bool :=
  match t.stop with
  | none => .ok false
  | some stop => Quantity.less stop t.start

/-- Refuses a trim that ends before it starts (`_check_trim`). -/
def check (t : Trim Json) : Except Fault Unit := do
  if ← t.isReversed then
    .error (.media (.trimReversed t.start (t.stop.getD .null)))
  else .ok ()

end Trim

/-- The trim that a pair stands for; a value that stands for nothing is no trim. -/
def Trim.ofJson (v : Json) : Except Fault (Option (Trim Json)) :=
  if !v.isTruthy then .ok none
  else do
    let (start, stop) ← v.pair
    .ok (some ⟨start, stop.some?⟩)

/-- A trim as a pair; null stands for the end of the source. -/
def Trim.toJson (t : Trim Json) : Json := .arr [t.start, .ofOption id t.stop]

namespace Seek

/-- The arguments of a request, which stand before the input they apply to. -/
def args : Option (Seek Json) → List String
  | none => []
  | some s => ["-ss", s.start.text] ++ (s.span.map fun d => ["-t", d.text]).getD []

end Seek

/-- The arguments that select a trim (`trim_args`). -/
def Trim.args (trim : Option (Trim Json)) : Except Fault (List String) :=
  (Trim.seek trim).map Seek.args

end Compositor
