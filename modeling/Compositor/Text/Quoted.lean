import Compositor.Text.Hex
import Compositor.Text.Printable

/-!
# Quoted text

Text inside messages stands between single quotes, or between double quotes when
it holds a single quote and no double one. The quote in use and the backslash are
escaped, and so is every character that is not printable.
-/
namespace Compositor.Text

/-- The escape of a character that is not printable: the shortest of the forms
with two, four and eight hexadecimal digits. -/
def escapeCode (c : Char) : List Char :=
  let n := c.toNat
  if n < 0x100 then '\\' :: 'x' :: hexPadded n 2
  else if n < 0x10000 then '\\' :: 'u' :: hexPadded n 4
  else '\\' :: 'U' :: hexPadded n 8

def quoteChar (quote c : Char) : List Char :=
  if c == quote || c == '\\' then ['\\', c]
  else if c == '\n' then ['\\', 'n']
  else if c == '\r' then ['\\', 'r']
  else if c == '\t' then ['\\', 't']
  else if isPrintable c then [c]
  else escapeCode c

/-- The quote that stands around the text. -/
def quoteFor (cs : List Char) : Char :=
  if cs.contains '\'' && !cs.contains '"' then '"' else '\''

def quoted (s : String) : String :=
  let quote := quoteFor s.toList
  String.ofList (quote :: s.toList.flatMap (quoteChar quote) ++ [quote])

end Compositor.Text
