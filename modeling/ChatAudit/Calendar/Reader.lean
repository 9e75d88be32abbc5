import ChatAudit.Calendar.Timestamp
import ChatAudit.Binary64.Reader

/-! Timestamps from text and from counts of seconds. -/
namespace ChatAudit.Timestamp
open Calendar Text

inductive ReadFault
  | unreadable
  | outOfRange
deriving DecidableEq, Repr

/-- Exactly `n` ASCII digits in front, and the rest. -/
def digits? (n : Nat) (cs : List Char) : Option (Nat × List Char) := do
  let ds ← (cs.take n).mapM asciiDigit?
  if ds.length = n then some (ofDigits 10 ds, cs.drop n) else none

def expect? (p : Char → Bool) : List Char → Option (List Char)
  | c :: r => if p c then some r else none
  | [] => none

/-- A date `YYYY-MM-DD` in front. -/
def date? (cs : List Char) : Option (Date × List Char) := do
  let (year, cs) ← digits? 4 cs
  let cs ← expect? (· == '-') cs
  let (month, cs) ← digits? 2 cs
  let cs ← expect? (· == '-') cs
  let (day, cs) ← digits? 2 cs
  let d : Date := ⟨year, month, day⟩
  if d.isValid then some (d, cs) else none

/-- The first six digits of a fraction. -/
def fraction? (cs : List Char) : Option (Nat × List Char) :=
  match Binary64.digitRun cs with
  | ([], _) => none
  | (ds, rest) => some (ofDigits 10 ((ds ++ List.replicate 6 0).take 6), rest)

/-- Seconds and a fraction of a second, both in microseconds; a fraction needs seconds before it. -/
def seconds? (cs : List Char) : Option (Nat × List Char) :=
  match cs with
  | ':' :: cs => do
    let (s, cs) ← digits? 2 cs
    if 60 ≤ s then none
    else match cs with
      | c :: r =>
        if c == '.' || c == ',' then do
          let (f, r) ← fraction? r
          return (s * 1000000 + f, r)
        else return (s * 1000000, cs)
      | [] => return (s * 1000000, [])
  | cs => some (0, cs)

/-- A time of day `HH:MM[:SS[.fraction]]` in front, in microseconds. -/
def time? (cs : List Char) : Option (Nat × List Char) := do
  let (hour, cs) ← digits? 2 cs
  let cs ← expect? (· == ':') cs
  let (minute, cs) ← digits? 2 cs
  if 24 ≤ hour || 60 ≤ minute then none
  else do
    let (s, cs) ← seconds? cs
    return ((hour * 60 + minute) * 60000000 + s, cs)

def offsetSign? (c : Char) : Option Int :=
  if c == '+' then some 1
  else if c == '-' || c.toNat == 0x2212 then some (-1)
  else none

/-- The offset at the end of the text, if there is one. -/
def offset? : List Char → Option (Option Int)
  | [] => some none
  | c :: cs =>
    if c == 'Z' || c == 'z' then if cs.isEmpty then some (some 0) else none
    else do
      let sign ← offsetSign? c
      let (hour, cs) ← digits? 2 cs
      let (minute, cs) ← digits? 2 (match cs with | ':' :: r => r | r => r)
      if cs.isEmpty && hour < 24 && minute < 60 then
        some (some (sign * (hour * 60 + minute : Nat)))
      else none

/-- The time of day and the offset after a date, midnight if there is nothing. -/
def afterDate? : List Char → Option (Nat × Option Int)
  | [] => some (0, none)
  | c :: cs =>
    if c == 'T' || c == 't' || c == ' ' || c == '_' then do
      let (time, cs) ← time? cs
      return (time, ← offset? cs)
    else none

/-- A date alone or with a time of day. Year zero is read, but no timestamp has it. -/
def calendar? (cs : List Char) : Option (Except ReadFault Timestamp) := do
  let (d, cs) ← date? cs
  let (time, offset) ← afterDate? cs
  if d.year = 0 then return .error .outOfRange
  else
    match ofClock? (d.toDays * dayLength + time : Nat) offset with
    | some t => return .ok t
    | none => return .error .outOfRange

/-- The start of the year 1970, in microseconds. -/
def epoch : Int := (yearStart 1970 * dayLength : Nat)

/-- Counts up to here are seconds, larger ones milliseconds. -/
def secondsLimit : Nat := 20000000000

/-- Microseconds since the start of year 1 for a count and some microseconds more. -/
def ofCount (count : Int) (micros : Nat) : Int :=
  epoch + count * (if count.natAbs ≤ secondsLimit then 1000000 else 1000) + micros

def ofUnix? (n : Int) : Option Timestamp := ofClock? (ofCount n 0) (some 0)

/-- The whole number not above `num / den`, and what is left in units of `den`. -/
def floorRatio (negative : Bool) (num den : Nat) : Int × Nat :=
  let n : Int := if negative then -num else num
  (n.fdiv den, (n.fmod den).toNat)

/-- Microseconds of a fraction of a second, a half rounded up. -/
def microsOf (num den : Nat) : Nat :=
  match Binary64.ofRatio false num den with
  | .finite _ m e =>
    match Binary64.scale (.finite false m e) 1000000 0 with
    | .finite _ m e =>
      let (num, den) := Binary64.ratio m e
      (2 * num + den) / (2 * den)
    | _ => 0
  | _ => 0

/-- The microseconds of `x`, whose fraction is what `fraction` makes of the part above the whole
number below. -/
def clockOf? (fraction : Bool → (rest den : Nat) → Nat) : Binary64 → Option Int
  | .finite s m e =>
    let (num, den) := Binary64.ratio m e
    let (whole, rest) := floorRatio s num den
    some (ofCount whole (microsOf (fraction s rest den) den))
  | _ => none

/-- A count with a fraction. The fraction of a negative count is counted by its size. -/
def ofUnixFloat? (x : Binary64) : Option Timestamp := do
  let clock ← clockOf? (fun s rest den => if s && rest != 0 then den - rest else rest) x
  ofClock? clock (some 0)

/-- Counts in text may reach into year zero, which no timestamp has. -/
def ofTextClock (clock : Int) : Except ReadFault Timestamp :=
  match ofClock? clock (some 0) with
  | some t => .ok t
  | none =>
    .error (if clock < 0 && -((366 * dayLength : Nat) : Int) ≤ clock then .outOfRange
      else .unreadable)

/-- A plain decimal number. -/
def count? (cs : List Char) : Option (Except ReadFault Timestamp) :=
  let (negative, body) := splitSign cs
  match Binary64.digitRun body with
  | (ds, []) =>
    if ds.isEmpty then none
    else
      let n : Int := ofDigits 10 ds
      some (ofTextClock (ofCount (if negative then -n else n) 0))
  | (ds, '.' :: r) =>
    let (fs, rest) := Binary64.digitRun r
    if !rest.isEmpty || (ds.isEmpty && fs.isEmpty) then none
    else do
      let x ← Binary64.unsigned? negative body
      let clock ← clockOf? (fun _ rest _ => rest) x
      return ofTextClock clock
  | _ => none

/-- A date, a date with a time, or a count of seconds or milliseconds since 1970. -/
def read (s : String) : Except ReadFault Timestamp :=
  let cs := s.toList
  match calendar? cs with
  | some r => r
  | none => (count? cs).getD (.error .unreadable)

end ChatAudit.Timestamp
