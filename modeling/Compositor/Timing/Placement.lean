import Compositor.Timing.Trim

/-!
# When a layer is seen

A layer may have a start, an end and a duration on the timeline. The end wins
over the duration, and a duration counts from the start.
-/
namespace Compositor

structure Placement (α : Type) where
  start : Option α
  stop : Option α
  duration : Option α
  deriving Repr

namespace Placement

variable {α : Type} [Quantity α]

/-- The delay before a layer appears, when there is one (`start_offset`). -/
def delay? (p : Placement α) : Except Fault (Option α) :=
  match p.start with
  | none => .ok none
  | some start =>
    if Quantity.isZero start then .ok none
    else do
      if ← Quantity.less Quantity.zero start then .ok (some start) else .ok none

/-- The start, with zero for a start that stands for nothing. -/
def startOrZero (p : Placement α) : α :=
  match p.start with
  | some start => if Quantity.isZero start then Quantity.zero else start
  | none => Quantity.zero

/-- The time at which the layer disappears (`window_end`). -/
def windowEnd (p : Placement α) : Except Fault (Option α) :=
  match p.stop with
  | some stop => .ok (some stop)
  | none =>
    match p.duration with
    | some d => (Quantity.add p.startOrZero d).map some
    | none => .ok none

end Placement

end Compositor
