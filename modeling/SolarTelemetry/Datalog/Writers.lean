import Mathlib.Logic.Function.Basic
import SolarTelemetry.Datalog

/-!
# Writers of a log

A writer refers to a file and to the count of the lines it has been given, and a copy of the writer
refers to the same two. A call keeps the file to itself until its line has been counted, so calls
come one after the other, whoever makes them.
-/

namespace SolarTelemetry.Datalog

/-- Where a writer finds its file and its count. -/
structure Writer where
  file : Nat
  count : Nat
  deriving DecidableEq, Repr

/-- What a writer is asked to write, and when. -/
structure Call where
  wallClock : Int
  serial : UInt32
  kind : String
  data : Json

/-- The writers there are, and all that writers refer to. -/
structure Writers where
  files : Nat → String
  counts : Nat → Nat
  held : List Writer

namespace Writers

def log (s : Writers) (w : Writer) : Datalog := ⟨s.files w.file, s.counts w.count⟩

/-- The first writer to a file. It counts from zero, whatever the file contains. -/
def opened (files : Nat → String) (counts : Nat → Nat) (w : Writer) : Writers :=
  ⟨files, Function.update counts w.count 0, [w]⟩

def write (s : Writers) (w : Writer) (call : Call) : Writers :=
  let log := (s.log w).write call.wallClock call.serial call.kind call.data
  { s with
    files := Function.update s.files w.file log.contents
    counts := Function.update s.counts w.count log.lines }

/-- Calls of any writers one after the other, with writers copied and given up in between. -/
inductive Run : Writers → List Call → Writers → Prop
  | nil {s : Writers} : Run s [] s
  | copy {s last : Writers} {w : Writer} {calls : List Call} (held : w ∈ s.held)
    (rest : Run { s with held := w :: s.held } calls last) : Run s calls last
  | drop {s last : Writers} {w : Writer} {calls : List Call}
    (rest : Run { s with held := s.held.erase w } calls last) : Run s calls last
  | write {s last : Writers} {w : Writer} {call : Call} {calls : List Call} (held : w ∈ s.held)
    (rest : Run (s.write w call) calls last) : Run s (call :: calls) last

end Writers

end SolarTelemetry.Datalog
