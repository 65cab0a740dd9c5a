import Conformance.Text

/-!
Patterns: a star stands for any text, a question mark for one character, and brackets for one of
several.  A quoted character stands for itself.
-/

namespace Conformance.Shell

/-- A pattern: its characters, each with whether it is quoted. -/
abbrev Pattern := List (Char × Bool)

inductive Place where
  | any
  | one
  | exactly (c : Char)
  | among (inverted : Bool) (ranges : List (Char × Char))
deriving DecidableEq, Repr

namespace Pattern

def classes : List (Text × List (Char × Char)) :=
  [("alnum", [('0', '9'), ('A', 'Z'), ('a', 'z')]), ("alpha", [('A', 'Z'), ('a', 'z')]),
    ("blank", [(' ', ' '), ('\t', '\t')]), ("cntrl", [('\x00', '\x1f'), ('\x7f', '\x7f')]),
    ("digit", [('0', '9')]), ("graph", [('!', '~')]), ("lower", [('a', 'z')]),
    ("print", [(' ', '~')]), ("punct", [('!', '/'), (':', '@'), ('[', '\x60'), ('\x7b', '~')]),
    ("space", [(' ', ' '), ('\t', '\r')]), ("upper", [('A', 'Z')]),
    ("xdigit", [('0', '9'), ('A', 'F'), ('a', 'f')])].map fun (name, ranges) =>
      (name.toList, ranges)

/-- The class that is named at the start of a pattern behind a bracket, and what follows it. -/
def class? (p : Pattern) : Option (List (Char × Char) × Pattern) :=
  match p with
  | (':', _) :: p =>
      let name := (p.map Prod.fst).takeWhile fun c => c.isAlphanum
      match p.drop name.length with
      | (':', _) :: (']', _) :: rest => (classes.lookup name).map fun ranges => (ranges, rest)
      | _ => none
  | _ => none

/-- The character that a pattern starts with, where a backslash takes away the meaning of the next
one; `quoted` holds if it has no meaning of its own. -/
def first? : Pattern → Option (Char × Bool × Pattern)
  | [] => none
  | ('\\', false) :: (c, _) :: rest => some (c, true, rest)
  | (c, quoted) :: rest => some (c, quoted, rest)

/-- The ranges in brackets, and what follows the closing one, which is not the first character.
Each step uses up a character. -/
def ranges? (start : Bool) : Nat → Pattern → Option (List (Char × Char) × Pattern)
  | 0, _ => none
  | steps + 1, p => do
      let (c, quoted, rest) ← first? p
      if c = ']' && !quoted && !start then return ([], rest)
      else
        match (if c = '[' && !quoted then class? rest else none) with
        | some (named, rest) => do
            let (more, rest) ← ranges? false steps rest
            return (named ++ more, rest)
        | none =>
            match rest with
            | ('-', false) :: (']', false) :: _ => do
                let (more, rest) ← ranges? false steps rest
                return ((c, c) :: more, rest)
            | ('-', false) :: rest => do
                let (d, _, rest) ← first? rest
                let (more, rest) ← ranges? false steps rest
                return ((c, d) :: more, rest)
            | rest => do
                let (more, rest) ← ranges? false steps rest
                return ((c, c) :: more, rest)

/-- The characters in brackets behind the opening one, and what follows them. -/
def among? (p : Pattern) : Option (Place × Pattern) :=
  match p with
  | ('!', false) :: rest =>
      (ranges? true (p.length + 1) rest).map fun (rs, rest) => (.among true rs, rest)
  | p => (ranges? true (p.length + 1) p).map fun (rs, rest) => (.among false rs, rest)

/-- The places of a pattern.  Each step uses up a character. -/
def placesFrom : Nat → Pattern → List Place
  | 0, _ => []
  | steps + 1, p =>
      match first? p with
      | none => []
      | some (c, quoted, rest) =>
          if quoted then .exactly c :: placesFrom steps rest
          else if c = '*' then .any :: placesFrom steps rest
          else if c = '?' then .one :: placesFrom steps rest
          else if c = '[' then
            match among? rest with
            | some (place, rest) => place :: placesFrom steps rest
            | none => .exactly c :: placesFrom steps rest
          else .exactly c :: placesFrom steps rest

def places (p : Pattern) : List Place :=
  placesFrom (p.length + 1) p

def fits (c : Char) : Place → Bool
  | .any => true
  | .one => true
  | .exactly d => c = d
  | .among inverted ranges =>
      ranges.any (fun r => r.1.toNat ≤ c.toNat && c.toNat ≤ r.2.toNat) != inverted

/-- A spot in a row of places: the count of places before it, and those behind it. -/
abbrev Spot := Nat × List Place

/-- Spots in their order with one more, unless it is there already. -/
def insertSpot (spot : Spot) : List Spot → List Spot
  | [] => [spot]
  | other :: others =>
      if spot.1 < other.1 then spot :: other :: others
      else if spot.1 = other.1 then other :: others
      else other :: insertSpot spot others

/-- Spots in their order with one more, and with the one behind it if any text fits in between. -/
def enter (n : Nat) (ps : List Place) (spots : List Spot) : List Spot :=
  match ps with
  | .any :: rest => insertSpot (n, ps) (enter (n + 1) rest spots)
  | ps => insertSpot (n, ps) spots

/-- The spots that are reached from others by a character. -/
def advance (c : Char) : List Spot → List Spot
  | [] => []
  | (n, ps) :: others =>
      let reached := advance c others
      match ps with
      | [] => reached
      | .any :: rest => enter n (.any :: rest) reached
      | p :: rest => if fits c p then enter (n + 1) rest reached else reached

/-- Is one of the spots behind all places? -/
def isThrough (spots : List Spot) : Bool :=
  spots.any (·.2.isEmpty)

/-- The spots at the start of a row of places. -/
def entrance (ps : List Place) : List Spot :=
  enter 0 ps []

/-- Does a whole text fit into the places behind some spots? -/
def fitsBehind (spots : List Spot) : Text → Bool
  | [] => isThrough spots
  | c :: t => !spots.isEmpty && fitsBehind (advance c spots) t

/-- The count of characters at the start of a text that fit into the places behind some spots: the
least one or the greatest one.  `n` characters were read already, of which `found` is the best
count. -/
def sizeBehind? (greatest : Bool) (n : Nat) (found : Option Nat) (spots : List Spot) (t : Text) :
    Option Nat :=
  let found := if isThrough spots then some n else found
  match t with
  | [] => found
  | c :: t =>
      if spots.isEmpty || (!greatest && found.isSome) then found
      else sizeBehind? greatest (n + 1) found (advance c spots) t

def covers (p : Pattern) (t : Text) : Bool :=
  fitsBehind (entrance p.places) t

/-- Does the pattern hold a character that stands for others? -/
def isOpen (p : Pattern) : Bool :=
  p.places.any fun
    | .exactly _ => false
    | _ => true

/-- The characters of a pattern as they stand. -/
def text (p : Pattern) : Text :=
  p.map Prod.fst

/-- The characters of a row up to the first zero, which ends the first of several texts in it. -/
def firstText {α : Type} (key : α → Char) (row : List α) : Text :=
  (row.takeWhile (key · ≠ '\x00')).map key

/-- A row without the shortest or longest part at its start whose characters fit into places.  The
other texts are left out where the longest part is all of the first one. -/
def cutStart {α : Type} (ps : List Place) (longest : Bool) (key : α → Char) (row : List α) :
    List α :=
  let t := firstText key row
  match sizeBehind? longest 0 none (entrance ps) t with
  | some n => if longest && n = t.length then [] else row.drop n
  | none => row

/-- The end of a row that is read backwards, behind the shortest part of a text whose characters fit
into places.  Each step leaves out a text. -/
def behindShortest? {α : Type} (ps : List Place) (key : α → Char) : Nat → List α → Option (List α)
  | 0, _ => none
  | steps + 1, row =>
      let t := firstText key row
      match sizeBehind? false 0 none (entrance ps) t with
      | some n => some (row.drop n)
      | none =>
          match row.drop t.length with
          | [] => none
          | _ :: row => behindShortest? ps key steps row

/-- A row without the shortest or longest part at the end of a text, and without the texts behind
that.  It is the last text that has such a part, or else the first one. -/
def cutEnd {α : Type} (ps : List Place) (longest : Bool) (key : α → Char) (row : List α) : List α :=
  if longest then
    let t := firstText key row
    match sizeBehind? true 0 none (entrance ps.reverse) t.reverse with
    | some n => row.take (t.length - n)
    | none => row
  else
    match behindShortest? ps.reverse key (row.length + 1) row.reverse with
    | some rest => rest.reverse
    | none => row

/-- A row without the shortest or longest part at an end whose characters match a pattern. -/
def cut {α : Type} (p : Pattern) (atEnd longest : Bool) (key : α → Char) (row : List α) : List α :=
  if atEnd then cutEnd p.places longest key row else cutStart p.places longest key row

def ofText (t : Text) : Pattern :=
  t.map fun c => (c, false)

end Pattern

end Conformance.Shell
