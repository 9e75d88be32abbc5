import ChatAudit.Calendar.Date
import ChatAudit.Text.Digit

/-! Points in time as a clock on the wall shows them. -/
namespace ChatAudit
open Calendar

/-- Microseconds in a day. -/
def Calendar.dayLength : Nat := 86400000000

/-- Microseconds from the start of year 1 to the end of the last year. -/
def Calendar.limit : Nat := yearStart (maxYear + 1) * dayLength

/-- What a clock on the wall shows, in microseconds since the start of year 1, and how far it is
ahead of UTC: a number of minutes, say, or a zone that tells it for each time of the clock. -/
structure Moment (Offset : Type) where
  clock : Nat
  offset : Offset
  clock_lt : clock < limit
deriving DecidableEq, Repr

namespace Moment
variable {Offset : Type}

def microsecond (m : Moment Offset) : Nat := m.clock % 1000000

/-- The point in time `micros` microseconds earlier on the same clock. -/
def earlier? (m : Moment Offset) (micros : Nat) : Option (Moment Offset) :=
  if micros ≤ m.clock then
    some { m with
      clock := m.clock - micros
      clock_lt := Nat.lt_of_le_of_lt (Nat.sub_le ..) m.clock_lt }
  else none

end Moment

/-- A point in time whose offset is a number of minutes, if it is known. -/
abbrev Timestamp := Moment (Option Int)

namespace Timestamp

def ofClock? (clock : Int) (offset : Option Int) : Option Timestamp :=
  if h : 0 ≤ clock ∧ clock.toNat < limit then some ⟨clock.toNat, offset, h.2⟩ else none

instance : Inhabited Timestamp := ⟨0, none, by decide⟩

def date (t : Timestamp) : Date := Date.ofDays (t.clock / dayLength)
def hour (t : Timestamp) : Nat := t.clock / 3600000000 % 24
def minute (t : Timestamp) : Nat := t.clock / 60000000 % 60
def second (t : Timestamp) : Nat := t.clock / 1000000 % 60

def two (n : Nat) : String := Text.padded 2 n

/-- Time of day, with a fraction only if there is one. -/
def timeText (t : Timestamp) : String :=
  two t.hour ++ ":" ++ two t.minute ++ ":" ++ two t.second ++
    (if t.microsecond = 0 then "" else "." ++ Text.padded 6 t.microsecond)

def offsetText (minutes : Int) : String :=
  let n := minutes.natAbs
  (if minutes < 0 then "-" else "+") ++ two (n / 60) ++ ":" ++ two (n % 60)

/-- Date and time, with `zone` for the offset. -/
def isoWith (zone : Int → String) (t : Timestamp) : String :=
  let d := t.date
  Text.padded 4 d.year ++ "-" ++ two d.month ++ "-" ++ two d.day ++ "T" ++ t.timeText ++
    (t.offset.elim "" zone)

def iso : Timestamp → String := isoWith offsetText

/-- As `iso`, but UTC is `Z`. -/
def wire : Timestamp → String := isoWith fun o => if o = 0 then "Z" else offsetText o

/-- Date and time to the second, marked as UTC. The year is not padded. -/
def stamp (t : Timestamp) : String :=
  let d := t.date
  toString d.year ++ "-" ++ two d.month ++ "-" ++ two d.day ++ "T" ++
    two t.hour ++ ":" ++ two t.minute ++ ":" ++ two t.second ++ "Z"

def monthNames : List String :=
  ["Jan", "Feb", "Mar", "Apr", "May", "Jun", "Jul", "Aug", "Sep", "Oct", "Nov", "Dec"]

/-- Month, day and year, and the time on a dial of twelve hours. -/
def display (t : Timestamp) : String :=
  let d := t.date
  monthNames.getD (d.month - 1) "" ++ " " ++ two d.day ++ ", " ++ toString d.year ++ " " ++
    two ((t.hour + 11) % 12 + 1) ++ ":" ++ two t.minute ++ (if t.hour < 12 then " AM" else " PM")

end Timestamp
end ChatAudit
