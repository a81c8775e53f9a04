import Compositor.Timing.Quantity

/-!
# The length of the output

An explicit length wins over everything. Otherwise a video background gives the
length, and otherwise the longest layer; without any of them the output runs
until its inputs end.
-/
namespace Compositor

/-- The rule that gave a length. -/
inductive LengthRule where
  | explicit
  | background
  | longestLayer
  | unbounded
  deriving DecidableEq, Repr

namespace LengthRule

def text : LengthRule → String
  | .explicit => "explicit duration"
  | .background => "video background duration"
  | .longestLayer => "longest foreground duration"
  | .unbounded => "unbounded"

end LengthRule

namespace Length

variable {α : Type} [Quantity α]

/-- A length that is known and above zero. -/
def positive? : Option α → Except Fault (Option α)
  | none => .ok none
  | some d =>
    if Quantity.isZero d then .ok none
    else do if ← Quantity.less Quantity.zero d then .ok (some d) else .ok none

/-- The longest of the lengths that are known and not zero. -/
def longest? (lengths : List (Option α)) : Except Fault (Option α) :=
  match (lengths.filterMap id).filter fun d => !Quantity.isZero d with
  | [] => .ok none
  | d :: rest => (Quantity.greatest d rest).map some

/-- The length and the rule it comes from (`_duration_rule`). The layers are only looked at when
neither an explicit length nor the background decides. -/
def resolve (explicit : Option α) (background : Except Fault (Option α))
    (layers : Except Fault (List (Option α))) : Except Fault (Option α × LengthRule) :=
  match explicit with
  | some d => .ok (some d, .explicit)
  | none => do
    match ← positive? (← background) with
    | some d => return (some d, .background)
    | none =>
      match ← longest? (← layers) with
      | some d =>
        if ← Quantity.less Quantity.zero d then return (some d, .longestLayer)
        else return (none, .unbounded)
      | none => return (none, .unbounded)

end Length

end Compositor
