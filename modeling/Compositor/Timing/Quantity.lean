import Compositor.Json.Arithmetic

/-!
# Quantities of time

The timing rules compare, add and subtract seconds. They are stated for any type
of seconds, since the program keeps seconds as given, where an operation may be
refused, while their meaning is plain for exact numbers, where none is.
-/
namespace Compositor

class Quantity (α : Type) where
  /-- Whether a quantity stands for nothing. -/
  isZero : α → Bool
  zero : α
  less : α → α → Except Fault Bool
  add : α → α → Except Fault α
  sub : α → α → Except Fault α

namespace Quantity

/-- The first of two quantities unless the second is smaller. -/
def least [Quantity α] (a b : α) : Except Fault α := do
  if ← less b a then .ok b else .ok a

/-- The first of the greatest quantities of a list. -/
def greatest [Quantity α] (a : α) : List α → Except Fault α
  | [] => .ok a
  | b :: rest => do if ← less a b then greatest b rest else greatest a rest

end Quantity

instance : Quantity Json where
  isZero v := !v.isTruthy
  zero := .int 0
  less := Json.less
  add := Json.add
  sub := Json.sub

end Compositor
