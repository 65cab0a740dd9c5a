import Conformance.Host.Shell.Arithmetic
import Conformance.Host.Shell.Splitting

/-!
What words stand for: parameters, output of commands and numbers are put in, the result is split
into words, and patterns become the names of files that match them.
-/

namespace Conformance.Shell

/-- What the shell does for words: it runs commands for their output, and sets variables. -/
structure Expander where
  output : Option Command → Act Text
  set : Text → Text → Act Unit

/-- The way in which a word is expanded. -/
structure Manner where
  /-- Is the result split into words? -/
  full : Bool := false
  /-- Do plain characters separate words, because they come from a replacement? -/
  inner : Bool := false
  /-- Is the word quoted as a whole? -/
  quoted : Bool := false
  /-- Does a tilde at the start of the word stand for a home folder, and one behind a colon? -/
  tilde : Bool := true
  colons : Bool := false

namespace Machine

/-- The arguments of the shell as pieces; `star` tells whether they are taken together. -/
def arguments (m : Machine) (star : Bool) (manner : Manner) (quoted : Bool) : List Glyph :=
  let pieces := m.args.map (Glyph.ofText quoted (!quoted))
  let between : List Glyph :=
    if quoted && manner.full && !star then [.border]
    else if !quoted && manner.full then [.gap]
    else (m.separators.take 1).map fun c => .char c quoted false
  let all := List.flatten (pieces.intersperse between)
  if quoted && !star && m.args ≠ [] then .quotes :: all else all

/-- The letters of the options that are set, in their order. -/
def optionLetters (m : Machine) : Text :=
  "pubaCEVvxsnmiIfe".toList.filter m.has

/-- The value of a variable or of a special parameter, if it has one. -/
def parameter? (m : Machine) (name : Text) (manner : Manner) (quoted : Bool) :
    Option (List Glyph) :=
  let plain := fun t => some (Glyph.ofText quoted (!quoted) t)
  match name with
  | ['@'] => some (m.arguments false manner quoted)
  | ['*'] => some (m.arguments true manner quoted)
  | ['#'] => plain (Numeral.ofNat m.args.length)
  | ['?'] => plain (Numeral.ofNat m.status)
  | ['-'] => plain m.optionLetters
  | ['$'] => plain m.processText
  | ['!'] => m.background.bind fun process => plain (Numeral.ofNat process)
  | name =>
      match Numeral.value? name with
      | some 0 => plain m.name
      | some n => m.args[n - 1]?.bind plain
      | none => (m.value? name).bind plain

/-- The home folder that a tilde with a user's name stands for. -/
def home? (m : Machine) (user : Text) : Option Text :=
  if user = [] then m.value? "HOME".toList
  else if user = "root".toList then some "/root".toList
  else none

/-- The pieces of plain text at the start of which a tilde may stand for a home folder; `last` tells
whether the word ends behind it. -/
def tildes (m : Machine) (manner : Manner) (last : Bool) (t : Text) : List Glyph :=
  let plain := Glyph.ofText manner.quoted (manner.inner && !manner.quoted)
  match t with
  | '~' :: rest =>
      let user := rest.takeWhile fun c => c ≠ '/' && !(manner.colons && c = ':')
      if user.length = rest.length && !last then plain t
      else
        match m.home? user with
        | some folder => Glyph.ofText true false folder ++ plain (rest.drop user.length)
        | none => plain t
  | t => plain t

/-- The pieces of plain text; `start` tells whether the word starts with it. -/
def plainPieces (m : Machine) (manner : Manner) (start last : Bool) (t : Text) : List Glyph :=
  if manner.quoted then Glyph.ofText true false t
  else if manner.colons then
    let cuts := pieces ':' t
    let count := cuts.length
    let shown := cuts.zipIdx.map fun (piece, i) =>
      if i > 0 || start then m.tildes manner (last || i + 1 < count) piece
      else Glyph.ofText false manner.inner piece
    List.flatten (shown.intersperse (Glyph.ofText false manner.inner [':']))
  else if start && manner.tilde then m.tildes manner last t
  else Glyph.ofText false manner.inner t

end Machine

namespace Expander

def refuse {α : Type} (name : Text) (message : Text) : Act α :=
  Act.fail (name ++ ": ".toList ++ message)

/-- The output of a command without the line ends at its end, and without zero characters. -/
def trimmed (t : Text) : Text :=
  ((t.filter (· ≠ '\x00')).reverse.dropWhile (· = '\n')).reverse

/-- Sets a parameter that has no value, which has to be a variable. -/
def assign (x : Expander) (name value : Text) : Act Unit := do
  if isName name then x.set name value
  else refuse name "bad variable name".toList

mutual

/-- The pieces that a part of a word stands for. -/
def part (x : Expander) (manner : Manner) (start last : Bool) : Part → Act (List Glyph)
  | .plain t quoted => do
      if quoted then return .quotes :: Glyph.ofText true false t
      else return (← get).plainPieces manner start last t
  | .number expression quoted => do
      let gs ← parts x { quoted := true } true expression
      let n ← Reckon.value x.set (Glyph.text gs)
      let quoted := quoted || manner.quoted
      return Glyph.ofText quoted (!quoted) (Numeral.ofInt n)
  | .output c quoted => do
      let t ← x.output c
      let quoted := quoted || manner.quoted
      return Glyph.ofText quoted (!quoted) (trimmed t)
  | .value name use word quoted => do
      let quoted := quoted || manner.quoted
      let m ← get
      let value := m.parameter? name manner quoted
      let full := fun (orEmpty : Bool) =>
        value.isSome && !(orEmpty && (value.getD []).all (· = .quotes))
      let inner : Manner := { manner with inner := true, quoted := quoted, tilde := true }
      let missing : Act Unit :=
        if value.isNone && m.has 'u' then refuse name "parameter not set".toList else pure ()
      match use with
      | .whole => do
          missing
          return value.getD []
      | .size => do
          missing
          let between := (value.getD []).countP fun g => g = .border || g = .gap
          let length := (Glyph.text (value.getD [])).length +
            (if m.separators = [] then 0 else between)
          return Glyph.ofText quoted (!quoted) (Numeral.ofNat length)
      | .otherwise orEmpty =>
          if full orEmpty then return value.getD [] else parts x inner true word
      | .instead orEmpty =>
          if full orEmpty then parts x inner true word else return []
      | .assigned orEmpty => do
          if full orEmpty then return value.getD []
          else
            let gs ← parts x { inner with full := false } true word
            assign x name (Glyph.text gs)
            return ((← get).parameter? name manner quoted).getD []
      | .required orEmpty => do
          if full orEmpty then return value.getD []
          else
            let gs ← parts x { inner with full := false } true word
            let suffix := if orEmpty then " or null".toList else []
            refuse name (if word.isEmpty then "parameter not set".toList ++ suffix
              else Glyph.text gs)
      | .cut atEnd longest => do
          missing
          let gs ← parts x { full := false } true word
          let cut := Pattern.cut (Glyph.pattern gs) atEnd longest Glyph.key
          match value with
          | some (.quotes :: rest) => return .quotes :: cut rest
          | value => return cut (value.getD [])
      | .wrong => Act.fail "Bad substitution".toList

/-- The pieces that a word stands for; `start` tells whether it starts here. -/
def parts (x : Expander) (manner : Manner) (start : Bool) : Word → Act (List Glyph)
  | [] => return []
  | p :: rest => do
      let first ← part x manner start rest.isEmpty p
      let others ← parts x manner false rest
      return first ++ others

end

/-- The text of a word that is not split. -/
def one (x : Expander) (w : Word) : Act Text := do
  return Glyph.text (← parts x {} true w)

/-- The text of the value that is assigned to a variable. -/
def value (x : Expander) (w : Word) : Act Text := do
  return Glyph.text (← parts x { colons := true } true w)

def pattern (x : Expander) (w : Word) : Act Pattern := do
  return Glyph.pattern (← parts x {} true w)

end Expander

namespace Machine

/-- The names in the folder at a path, in their order. -/
def entries (m : Machine) (path : Text) : List Text :=
  match FileTree.locate m.world.tree m.folder (gather (if path = [] then ['.'] else path)) with
  | .ok ⟨_, .folder _ entries⟩ =>
      let names := ["."].map String.toList ++ [['.', '.']] ++ entries.map fun e => spread e.1
      names.mergeSort fun a b => !(b.lex a fun c d => c.toNat < d.toNat)
  | _ => []

def leads (m : Machine) (path : Text) : Bool :=
  (FileTree.locate m.world.tree m.folder (gather path)).isOk

/-- The paths that match a row of patterns between slashes, behind a path. -/
def matching (m : Machine) (path : Text) : List Pattern → List Text
  | [] => []
  | [p] =>
      if p.isOpen then
        let hidden := p.head?.any fun c => c.1 = '.'
        ((m.entries path).filter fun name =>
          p.covers name && (hidden || name.head? ≠ some '.')).map (path ++ ·)
      else
        let whole := path ++ p.places.filterMap fun
          | .exactly c => some c
          | _ => none
        if m.leads whole then [whole] else []
  | p :: rest =>
      if p.isOpen then
        let hidden := p.head?.any fun c => c.1 = '.'
        ((m.entries path).filter fun name =>
          p.covers name && (hidden || name.head? ≠ some '.')).flatMap fun name =>
            m.matching (path ++ name ++ ['/']) rest
      else
        let name := p.places.filterMap fun
          | .exactly c => some c
          | _ => none
        m.matching (path ++ name ++ ['/']) rest

def components (p : Pattern) : List Pattern :=
  p.foldr (fun c rows =>
    if c.1 = '/' then [] :: rows
    else
      match rows with
      | [] => [[c]]
      | row :: rows => (c :: row) :: rows) [[]]

/-- The words that a field becomes: the paths that match it if it is a pattern and there are some,
or itself. -/
def paths (m : Machine) (field : List Glyph) : List Text :=
  let p := Glyph.pattern field
  let found := if m.has 'f' || !p.isOpen then [] else m.matching [] (components p)
  if found = [] then [Glyph.text field] else found

end Machine

namespace Expander

def words (x : Expander) (w : Word) : Act (List Text) := do
  let gs ← parts x { full := true } true w
  let m ← get
  return (Glyph.words m.separators gs).flatMap m.paths

end Expander

end Conformance.Shell
