import ChatAudit.Calendar.Timestamp
import ChatAudit.Text.Case
import ChatAudit.Text.Integer

/-! Windows of time that end now, such as `24h` or `7d`. -/
namespace ChatAudit.Window
open Text

inductive Fault
  | malformed (range : String)
  | tooManyDigits (count : Nat)
  /-- The window is longer than any count of days. -/
  | beyondDays
  | tooManyDays (days : Nat)
  | beforeFirstYear
deriving DecidableEq, Repr

def Fault.message : Fault → String
  | .malformed range => "Invalid time range: " ++ range
  | .tooManyDigits n =>
    "Exceeds the limit (4300 digits) for integer string conversion: value has " ++ toString n ++
      " digits; use sys.set_int_max_str_digits() to increase the limit"
  | .beyondDays => "Python int too large to convert to C int"
  | .tooManyDays n => "days=" ++ toString n ++ "; must have magnitude <= 999999999"
  | .beforeFirstYear => "date value out of range"

/-- The length of a unit in seconds. -/
def unit? (c : Char) : Option Nat :=
  if c == 'm' then some 60
  else if c == 'h' then some 3600
  else if c == 'd' then some 86400
  else none

/-- Digits of any script followed by one unit. -/
def amount? (cs : List Char) : Option (List Nat × Nat) :=
  match cs.reverse with
  | u :: d :: ds => do return (← (d :: ds).reverse.mapM digitValue?, ← unit? u)
  | _ => none

/-- The length of a window in seconds. -/
def length (range : String) : Except Fault Nat :=
  match amount? (lower (strip range)).toList with
  | none => .error (.malformed range)
  | some (ds, unit) =>
    if maxDigits < ds.length then .error (.tooManyDigits ds.length)
    else
      let seconds := ofDigits 10 ds * unit
      let days := seconds / 86400
      if Nat.pow 2 31 ≤ days then .error .beyondDays
      else if 999999999 < days then .error (.tooManyDays days)
      else .ok seconds

/-- The start and the end of the window that ends at `now`, on one clock. -/
def bounds {Offset : Type} (range : String) (now : Moment Offset) :
    Except Fault (Moment Offset × Moment Offset) := do
  let seconds ← length range
  match now.earlier? (seconds * 1000000) with
  | some start => .ok (start, now)
  | none => .error .beforeFirstYear

end ChatAudit.Window
