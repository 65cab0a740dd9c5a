import Conformance.Text

/-!
Texts as bytes in UTF-8.  Decoding never fails: each longest run of bytes that could start a
character but does not finish one, and each byte that can start none, becomes one replacement
character.
-/

namespace Conformance.Text

def toUtf8 (t : Text) : List UInt8 :=
  t.flatMap String.utf8EncodeChar

def toBytes (t : Text) : ByteArray :=
  ⟨(toUtf8 t).toArray⟩

/-- The character that stands for bytes that are no character. -/
def replacement : Char := '\uFFFD'

/-- A character that has begun: the bounds of its next byte, the number of bytes after that one,
and the value of the bytes so far. -/
structure Begun where
  low : Nat
  high : Nat
  more : Nat
  value : Nat
deriving DecidableEq, Repr

/-- What a first byte gives: characters that are complete, and a character that it begins.  The
bounds of the second byte leave out longer spellings than needed, surrogates and values that are
too large. -/
def firstByte (b : UInt8) : Text × Option Begun :=
  let n := b.toNat
  if n < 0x80 then ([Char.ofNat n], none)
  else if n < 0xC2 then ([replacement], none)
  else if n < 0xE0 then ([], some ⟨0x80, 0xBF, 0, n - 0xC0⟩)
  else if n = 0xE0 then ([], some ⟨0xA0, 0xBF, 1, n - 0xE0⟩)
  else if n = 0xED then ([], some ⟨0x80, 0x9F, 1, n - 0xE0⟩)
  else if n < 0xF0 then ([], some ⟨0x80, 0xBF, 1, n - 0xE0⟩)
  else if n = 0xF0 then ([], some ⟨0x90, 0xBF, 2, n - 0xF0⟩)
  else if n < 0xF4 then ([], some ⟨0x80, 0xBF, 2, n - 0xF0⟩)
  else if n = 0xF4 then ([], some ⟨0x80, 0x8F, 2, n - 0xF0⟩)
  else ([replacement], none)

/-- What a byte gives after the bytes of a character that has begun. -/
def nextByte (begun : Begun) (b : UInt8) : Text × Option Begun :=
  let n := b.toNat
  if begun.low ≤ n ∧ n ≤ begun.high then
    let value := begun.value * 64 + (n - 0x80)
    match begun.more with
    | 0 => ([Char.ofNat value], none)
    | more + 1 => ([], some ⟨0x80, 0xBF, more, value⟩)
  else
    let (chars, next) := firstByte b
    (replacement :: chars, next)

/-- What a byte gives, with or without a character that has begun. -/
def decodeByte : Option Begun → UInt8 → Text × Option Begun
  | none, b => firstByte b
  | some begun, b => nextByte begun b

/-- The text of bytes that follow the start of a character, or follow none. -/
def decodeFrom : Option Begun → List UInt8 → Text
  | none, [] => []
  | some _, [] => [replacement]
  | begun, b :: rest =>
      let (chars, next) := decodeByte begun b
      chars ++ decodeFrom next rest

def ofUtf8 (bytes : List UInt8) : Text :=
  decodeFrom none bytes

@[simp] theorem toUtf8_nil : toUtf8 [] = [] := rfl

@[simp] theorem toUtf8_append (s t : Text) : toUtf8 (s ++ t) = toUtf8 s ++ toUtf8 t := by
  simp [toUtf8]

end Conformance.Text
