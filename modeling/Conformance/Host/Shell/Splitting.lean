import Conformance.Host.Shell.Pattern

/-!
Splitting what a word stands for into words.  Only characters that come from a replacement and are
not quoted may separate words.
-/

namespace Conformance.Shell

/-- A piece of what a word stands for. -/
inductive Glyph where
  /-- A character; one that is not quoted may be special in a pattern. -/
  | char (c : Char) (quoted splits : Bool)
  /-- A place where something is quoted, be it empty. -/
  | quotes
  /-- The end of an argument behind which another one starts. -/
  | border
  /-- The end of an argument that counts like a blank. -/
  | gap
deriving DecidableEq, Repr

namespace Glyph

def ofText (quoted splits : Bool) (t : Text) : List Glyph :=
  t.map fun c => .char c quoted splits

/-- The character that a piece counts as in patterns. -/
def key : Glyph → Char
  | .char c _ _ => c
  | _ => '\x00'

def text (gs : List Glyph) : Text :=
  gs.filterMap fun
    | .char c _ _ => some c
    | _ => none

def pattern (gs : List Glyph) : Pattern :=
  gs.filterMap fun
    | .char c quoted _ => some (c, quoted)
    | _ => none

def isBlank (c : Char) : Bool :=
  c ∈ " \t\n".toList

/-- What a piece does to the words: nothing, separate them like a blank, separate them wherever it
stands, or end an argument. -/
inductive Role where
  | inside
  | blank
  | mark
  | border
deriving DecidableEq, Repr

/-- The role of a piece, given the separators. -/
def role (separators : Text) : Glyph → Role
  | .char c _ splits =>
      if splits && c ∈ separators then if isBlank c then .blank else .mark else .inside
  | .quotes => .inside
  | .border => .border
  | .gap => .blank

/-- Leaves out the separators that belong to one that was just found: blanks, and a single mark if
that one was a blank. -/
def dropSeparators (separators : Text) (blank : Bool) : List Glyph → List Glyph
  | [] => []
  | g :: rest =>
      match role separators g, blank with
      | .blank, _ => dropSeparators separators blank rest
      | .mark, true => dropSeparators separators false rest
      | _, _ => g :: rest

/-- The words in a row of pieces; `current` holds the open word, its last piece first, and `more`
tells whether an argument has to follow.  Each step uses up a piece. -/
def wordsFrom (separators : Text) (current : List Glyph) (more : Bool) :
    Nat → List Glyph → List (List Glyph)
  | 0, _ => []
  | _ + 1, [] => if current.isEmpty && !more then [] else [current.reverse]
  | steps + 1, g :: rest =>
      match role separators g with
      | .inside => wordsFrom separators (g :: current) more steps rest
      | .border => current.reverse :: wordsFrom separators [] true steps rest
      | .blank =>
          if current.isEmpty then wordsFrom separators [] more steps rest
          else
            current.reverse ::
              wordsFrom separators [] false steps (dropSeparators separators true rest)
      | .mark =>
          current.reverse ::
            wordsFrom separators [] false steps (dropSeparators separators false rest)

def words (separators : Text) (gs : List Glyph) : List (List Glyph) :=
  wordsFrom separators [] false (gs.length + 1) gs

/-- The pieces of the last of several fields, without the blanks at its end.  They are also without
one separator there, if nothing but blanks stands around it.  `ending` holds the pieces that are
left out if nothing else follows. -/
def lastField (separators : Text) (blank : Bool) (ending : Option (List Glyph)) :
    List Glyph → List Glyph
  | [] => []
  | g :: rest =>
      let held := fun (ending : Option (List Glyph)) => (ending.getD []).reverse
      match role separators g, ending, blank with
      | .blank, some e, blank => lastField separators blank (some (g :: e)) rest
      | .blank, none, blank => lastField separators blank (some [g]) rest
      | .mark, some e, true => lastField separators false (some (g :: e)) rest
      | _, ending, _ => held ending ++ g :: lastField separators false none rest

/-- At most `count` fields in a row of pieces, of which the last one takes all that is left.
`blank` holds behind a blank that has ended a field.  Each step uses up a piece. -/
def fieldsFrom (separators : Text) (current : List Glyph) (blank : Bool) :
    Nat → Nat → List Glyph → List (List Glyph)
  | 0, _, _ => []
  | _ + 1, _, [] => if current.isEmpty then [] else [current.reverse]
  | steps + 1, count, g :: rest =>
      match role separators g, blank with
      | .blank, true => fieldsFrom separators [] true steps count rest
      | .mark, true => fieldsFrom separators [] false steps count rest
      | .blank, false =>
          if current.isEmpty then fieldsFrom separators [] false steps count rest
          else if count ≤ 1 then
            [current.reverse ++ lastField separators true (some [g]) rest]
          else current.reverse :: fieldsFrom separators [] true steps (count - 1) rest
      | .mark, false =>
          if count ≤ 1 then [current.reverse ++ lastField separators false (some [g]) rest]
          else current.reverse :: fieldsFrom separators [] false steps (count - 1) rest
      | _, _ => fieldsFrom separators (g :: current) false steps count rest

/-- The texts of at most `count` fields in a row of pieces. -/
def fields (separators : Text) (count : Nat) (gs : List Glyph) : List Text :=
  (fieldsFrom separators [] false (gs.length + 1) count gs).map text

end Glyph

end Conformance.Shell
