import Conformance.Text
import Conformance.Text.Mark

/-!
Texts in double quotes for error messages.  Quotes, backslashes and characters that leave no mark
are escaped, so that everything in the text can be seen.
-/

namespace Conformance.Text

/-- A character inside double quotes. -/
def escapeVisible (c : Char) : Text :=
  if c = '"' then ['\\', '"']
  else if c = '\\' then ['\\', '\\']
  else if c = '\n' then ['\\', 'n']
  else if c = '\r' then ['\\', 'r']
  else if c = '\t' then ['\\', 't']
  else if c = '\x00' then ['\\', '0']
  else if leavesMark c then [c]
  else ['\\', 'u', '\x7b'] ++ Nat.toDigits 16 c.toNat ++ ['\x7d']

def quoted (t : Text) : Text :=
  '"' :: t.flatMap escapeVisible ++ ['"']

end Conformance.Text
