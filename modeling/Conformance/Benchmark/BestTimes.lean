import Conformance.Path

/-!
The best time of each interpreter so far, and how the interpreters compare.  A time counts only if
it is less than the best one, so what is no number never counts.
-/

namespace Conformance.Benchmark

/-- The interpreters in their order, each with its best time. -/
structure BestTimes where
  entries : List (Path × Float)

/-- How an interpreter compares with the others. -/
inductive Verdict where
  /-- The fastest interpreter; by so many percent it does more work than the slowest. -/
  | faster (percent : Float)
  /-- Any other interpreter; its best time is so many times that of the fastest. -/
  | timeOfBest (multiple : Float)

namespace BestTimes

/-- The time of an interpreter that has not finished yet: more than any other. -/
def unmeasured : Float := Float.ofBits 0x7FF0000000000000

/-- The least time that counts as the slowest one. -/
def leastWorst : Float := Float.ofBits 0x0010000000000000

def start (interpreters : List Path) : BestTimes :=
  ⟨interpreters.map fun interpreter => (interpreter, unmeasured)⟩

/-- The better of two times; the first one if neither is less. -/
def better (best elapsed : Float) : Float :=
  if elapsed < best then elapsed else best

/-- A measurement of the interpreter at an index; other indices change nothing. -/
def record (t : BestTimes) (index : Nat) (elapsed : Float) : BestTimes :=
  ⟨t.entries.modify index fun entry => (entry.1, better entry.2 elapsed)⟩

def best? (t : BestTimes) (index : Nat) : Option Float :=
  t.entries[index]?.map Prod.snd

/-- The index and the time of the first entry that no later entry is less than, counted from an
index and given the first such entry before it. -/
def fastestFrom (index : Nat) (found : Option (Nat × Float)) :
    List (Path × Float) → Option (Nat × Float)
  | [] => found
  | (_, time) :: rest =>
      let found :=
        match found with
        | none => some (index, time)
        | some (first, least) => if time < least then some (index, time) else some (first, least)
      fastestFrom (index + 1) found rest

def fastest? (t : BestTimes) : Option (Nat × Float) :=
  fastestFrom 0 none t.entries

/-- The slowest time, at least the least positive normal number. -/
def worst (t : BestTimes) : Float :=
  t.entries.foldl (fun worst entry => if worst < entry.2 then entry.2 else worst) leastWorst

/-- Compares every interpreter with the fastest and the slowest one. -/
def compare (t : BestTimes) : List (Path × Float × Verdict) :=
  match t.fastest? with
  | none => []
  | some (first, least) =>
      t.entries.zipIdx.map fun ((interpreter, time), index) =>
        let verdict :=
          if index = first then .faster (100.0 * (t.worst / least - 1.0))
          else .timeOfBest (time / least)
        (interpreter, time, verdict)

end BestTimes

end Conformance.Benchmark
