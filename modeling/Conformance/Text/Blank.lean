import Conformance.Text.Line

/-!
Blank characters of all scripts, and texts without the blanks around them.
-/

namespace Conformance.Text

/-- The ranges of blank characters, with their ends. -/
def blankRanges : List (Nat × Nat) :=
  [(0x09, 0x0d), (0x20, 0x20), (0x85, 0x85), (0xa0, 0xa0), (0x1680, 0x1680), (0x2000, 0x200a),
    (0x2028, 0x2029), (0x202f, 0x202f), (0x205f, 0x205f), (0x3000, 0x3000)]

def isBlank (c : Char) : Bool :=
  blankRanges.any fun range => range.1 ≤ c.toNat && c.toNat ≤ range.2

/-- A text without the blanks at its start and its end. -/
def trim (t : Text) : Text :=
  ((t.dropWhile isBlank).reverse.dropWhile isBlank).reverse

/-- The last line of a text that holds more than blanks, without the blanks around it. -/
def lastWords? (t : Text) : Option Text :=
  ((lines t).map trim).reverse.find? fun line => line ≠ []

end Conformance.Text
