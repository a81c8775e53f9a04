import Compositor.Fault

/-!
# Elements of commands

The elements of a command are kept as they were set. Only a command of texts can
be run; one with another value in it can be looked at.
-/
namespace Compositor

abbrev Argument := Json

namespace Argument

/-- The elements as a command that can be run. -/
def command : List Argument → Except Fault (List String)
  | [] => .ok []
  | .str s :: rest => (command rest).map (s :: ·)
  | _ :: _ => .error .wrongType

/-- Texts as the elements of a command. -/
def ofTexts (texts : List String) : List Argument := texts.map Json.str

theorem command_ofTexts (texts : List String) : command (ofTexts texts) = .ok texts := by
  induction texts with
  | nil => rfl
  | cons t rest ih =>
    simp only [ofTexts, List.map_cons, command] at ih ⊢
    rw [ih]
    rfl

end Argument

end Compositor
