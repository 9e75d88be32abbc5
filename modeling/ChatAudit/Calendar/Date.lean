/-! Days of the Gregorian calendar, counted from the first day of year 1. -/
namespace ChatAudit.Calendar

structure Date where
  year : Nat
  month : Nat
  day : Nat
deriving DecidableEq, Repr

def isLeap (year : Nat) : Bool := year % 4 == 0 && (year % 100 != 0 || year % 400 == 0)

def monthLengths (year : Nat) : List Nat :=
  [31, if isLeap year then 29 else 28, 31, 30, 31, 30, 31, 31, 30, 31, 30, 31]

/-- The number of days before a year. -/
def yearStart (year : Nat) : Nat :=
  let p := year - 1
  365 * p + p / 4 - p / 100 + p / 400

/-- The last year that has a date. -/
def maxYear : Nat := 9999

/-- Year zero counts as a year here. -/
def Date.isValid (d : Date) : Bool :=
  d.year ≤ maxYear && 1 ≤ d.month &&
    match (monthLengths d.year)[d.month - 1]? with
    | some n => 1 ≤ d.day && d.day ≤ n
    | none => false

def Date.toDays (d : Date) : Nat :=
  yearStart d.year + ((monthLengths d.year).take (d.month - 1)).foldl (· + ·) 0 + (d.day - 1)

/-- The month and the day that follow `n` days after the start of the month `month`. -/
def monthDay (month n : Nat) : List Nat → Nat × Nat
  | [] => (month, n + 1)
  | l :: ls => if n < l then (month, n + 1) else monthDay (month + 1) (n - l) ls

/-- Cycles of 400, 100, 4 and 1 years; the last one of a hundred or of a year may be longer. -/
def Date.ofDays (n : Nat) : Date :=
  let r := n % 146097
  let centuries := min (r / 36524) 3
  let r := r - centuries * 36524
  let quads := r / 1461
  let r := r % 1461
  let years := min (r / 365) 3
  let year := 400 * (n / 146097) + 100 * centuries + 4 * quads + years + 1
  let (month, day) := monthDay 1 (r - years * 365) (monthLengths year)
  ⟨year, month, day⟩

end ChatAudit.Calendar
