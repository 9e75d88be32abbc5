import ChatAudit.Calendar.Timestamp

/-! Zones of time, and the instants that their clocks are taken for. -/
namespace ChatAudit

/-- How many seconds the clocks of a zone are ahead of UTC, at each second of the UTC clock. -/
structure Zone where
  ahead : Int → Int
  ahead_lt : ∀ second, (ahead second).natAbs < 86400

/-- Why a point in time cannot be moved to the UTC clock. -/
inductive Timestamp.ShiftFault
  | beforeFirstYear
  | afterLastYear
  | outOfRange
deriving DecidableEq, Repr

def Timestamp.ShiftFault.message : ShiftFault → String
  | .beforeFirstYear => "year 0 is out of range"
  | .afterLastYear => "year 10000 is out of range"
  | .outOfRange => "date value out of range"

namespace Zone
open Timestamp

def utc : Zone := ⟨fun _ => 0, fun _ => by decide⟩

/-- What the clocks of the zone show at a second of the UTC clock. Both count from year 1. -/
def shows (z : Zone) (second : Int) : Except ShiftFault Int :=
  let shown := second + z.ahead second
  if shown < 0 then .error .beforeFirstYear
  else if (Calendar.limit / 1000000 : Nat) ≤ shown then .error .afterLastYear
  else .ok shown

/-- The second of the UTC clock at which the clocks show a time. Of two such seconds it is the
earlier one. Where the clocks are put forward past the time, it is the later one of two guesses. -/
def secondOf (z : Zone) (time : Int) : Except ShiftFault Int := do
  let _ ← z.shows time
  let guess := time - z.ahead time
  let shown ← z.shows guess
  let before := if shown = time then guess - 86400 else guess
  let _ ← z.shows before
  let other := time - z.ahead before
  let shown' ← z.shows other
  return if shown' = time then other else if shown = time then guess else max guess other

/-- How many seconds the clocks are ahead of UTC when they show a time. -/
def aheadAt (z : Zone) (time : Int) : Except ShiftFault Int := do
  return z.ahead (← z.secondOf time)

end Zone

namespace Timestamp

/-- How many microseconds a clock is ahead of UTC. One without an offset is taken for a clock of the
zone. -/
def ahead (zone : Zone) (t : Timestamp) : Except ShiftFault Int :=
  match t.offset with
  | none => do return (← zone.aheadAt (t.clock / 1000000 : Nat)) * 1000000
  | some minutes => .ok (minutes * 60000000)

/-- The same instant on the UTC clock. -/
def toUtc (zone : Zone) (t : Timestamp) : Except ShiftFault Timestamp := do
  let ahead ← t.ahead zone
  match ofClock? (t.clock - ahead) (some 0) with
  | some u => return u
  | none => throw .outOfRange

end Timestamp
end ChatAudit
