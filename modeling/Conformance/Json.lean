import Conformance.Text

/-!
JSON values and their compact text.  A number is kept as it is written.  In strings the quote, the
backslash and the control characters are escaped, all other characters stand for themselves.
-/

namespace Conformance

/-- A JSON value; the members of an object have an order. -/
inductive Json where
  | text (t : Text)
  | number (written : Text)
  | list (items : List Json)
  | object (members : List (Text × Json))

namespace Json

def hexDigit (n : Nat) : Char :=
  Nat.digitChar n

/-- A character inside a JSON string. -/
def escape (c : Char) : Text :=
  if c = '"' then ['\\', '"']
  else if c = '\\' then ['\\', '\\']
  else if c = '\x08' then ['\\', 'b']
  else if c = '\x0c' then ['\\', 'f']
  else if c = '\n' then ['\\', 'n']
  else if c = '\r' then ['\\', 'r']
  else if c = '\t' then ['\\', 't']
  else if c.toNat < 0x20 then
    ['\\', 'u', '0', '0', hexDigit (c.toNat / 16), hexDigit (c.toNat % 16)]
  else [c]

def renderText (t : Text) : Text :=
  '"' :: t.flatMap escape ++ ['"']

mutual

/-- The compact text of a value. -/
def render : Json → Text
  | .text t => renderText t
  | .number written => written
  | .list items => '[' :: renderItems items ++ [']']
  | .object members => '\x7b' :: renderMembers members ++ ['\x7d']

/-- Items after each other, with a comma between two. -/
def renderItems : List Json → Text
  | [] => []
  | [item] => render item
  | item :: next :: rest => render item ++ ',' :: renderItems (next :: rest)

/-- Members after each other, with a comma between two. -/
def renderMembers : List (Text × Json) → Text
  | [] => []
  | [member] => renderMember member
  | member :: next :: rest => renderMember member ++ ',' :: renderMembers (next :: rest)

def renderMember : Text × Json → Text
  | (key, value) => renderText key ++ ':' :: render value

end

end Json

end Conformance
