import Conformance.Event
import Conformance.Text.Utf8

/-!
Where reports are written.  A sink keeps bytes up to its limit; the write that would go past it
keeps what fits and fails, and so does every later write of at least one byte.
-/

namespace Conformance

/-- What the writes so far kept, the last one first, and how many bytes fit. -/
structure Sink where
  limit : Option Nat := none
  writes : List (List UInt8) := []
deriving DecidableEq, Repr

namespace Sink

/-- Why a write to a sink fails. -/
def full : Text := "sink full".toList

def bytes (s : Sink) : List UInt8 :=
  s.writes.reverse.flatten

/-- The sink with some more bytes. -/
def keep (s : Sink) (kept : List UInt8) : Sink :=
  { s with writes := kept :: s.writes }

@[simp] theorem bytes_keep (s : Sink) (kept : List UInt8) :
    (s.keep kept).bytes = s.bytes ++ kept := by
  simp [keep, bytes]

/-- The bytes of a write that still fit. -/
def fitting (s : Sink) (bytes : List UInt8) : List UInt8 :=
  match s.limit with
  | none => bytes
  | some limit => bytes.take (limit - s.bytes.length)

def writeBytes (bytes : List UInt8) : EStateM Text Sink Unit := fun s =>
  let kept := s.fitting bytes
  if kept.length = bytes.length then .ok () (s.keep kept) else .error full (s.keep kept)

def write (t : Text) : EStateM Text Sink Unit :=
  writeBytes (Text.toUtf8 t)

/-- Writes texts until one write fails. -/
def writeAll : List Text → EStateM Text Sink Unit
  | [] => pure ()
  | t :: rest => do
      write t
      writeAll rest

def text (s : Sink) : Text :=
  Text.ofUtf8 s.bytes

end Sink

/-- The reporter that writes a report to a sink. -/
def Report.reporter (report : Report) : Reporter Sink := fun e =>
  Sink.writeAll (report e)

end Conformance
