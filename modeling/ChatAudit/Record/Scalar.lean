import ChatAudit.Record.Checked
import ChatAudit.Json.Basic
import ChatAudit.Calendar.Reader

/-! Texts, numbers, truth values and instants in JSON, taken as freely as their meaning is clear. -/
namespace ChatAudit.Record
open Text

def text : Json → Checked String
  | .str s => .accepted s
  | _ => .reject .notText

/-- The least number that a word of 64 bits does not hold. -/
def wordLimit : Int := Nat.pow 2 63

def fitsWord (n : Int) : Bool := -wordLimit ≤ n && n < wordLimit

/-- A text without its underscores, which stand alone and between other characters. -/
def withoutUnderscores? (cs : List Char) : Option (List Char) :=
  let doubled := (cs.zip cs.tail).contains ('_', '_')
  if cs.head? == some '_' || cs.getLast? == some '_' || doubled then none
  else some (cs.filter (· != '_'))

/-- What follows the zeros in front, together with the last zero if no digit does. -/
def afterZeros? (last : Char) : List Char → Option (List Char)
  | [] => some [last]
  | c :: r =>
    if c == '0' || c == '_' then afterZeros? c r
    else if c.isDigit then some (c :: r)
    else if c == '.' then some (last :: c :: r)
    else none

/-- A whole number without a fraction of zeros. -/
def withoutZeroFraction (cs : List Char) : List Char :=
  match cs.dropWhile (· != '.') with
  | '.' :: z :: zs => if (z :: zs).all (· == '0') then cs.takeWhile (· != '.') else cs
  | _ => cs

/-- The digits of a number without a sign. -/
def integerDigits? (cs : List Char) : Option (List Nat) := do
  let cs ← match cs with
    | '0' :: r => afterZeros? '0' r
    | c :: r => if c.isDigit then some (c :: r) else none
    | [] => none
  let cs ← withoutUnderscores? (withoutZeroFraction cs)
  cs.mapM asciiDigit?

def splitOneSign : List Char → Option (Bool × List Char)
  | '+' :: '-' :: _ => none
  | '-' :: '+' :: _ => none
  | cs => some (splitSign cs)

def integerText (s : String) : Checked Int :=
  match splitOneSign (stripBy isWhite s.toList) with
  | none => .reject .integerText
  | some (negative, body) =>
    match integerDigits? body with
    | none => .reject .integerText
    | some ds =>
      if maxDigits < ds.length then .reject .integerSize
      else
        let n : Int := ofDigits 10 ds
        .accepted (if negative then -n else n)

def integer : Json → Checked Int
  | .bool b => .accepted (if b then 1 else 0)
  | .int n => .accepted n
  | .float x =>
    match x, x.toInt? with
    | .finite .., some n =>
      if fitsWord n && n != -wordLimit then .accepted n else .reject .integerSize
    | .finite .., none => .reject .fraction
    | _, _ => .reject .notFinite
  | .str s => integerText s
  | _ => .reject .notInteger

def numberText? (s : String) : Option Binary64 :=
  let cs := s.toList
  (Binary64.read? (stripBy isWhite cs)).or (do Binary64.read? (← withoutUnderscores? cs))

def number : Json → Checked Binary64
  | .bool b => .accepted (Binary64.ofRatio false (if b then 1 else 0) 1)
  | .int n => .ofOption .notNumber (Binary64.ofInt? n)
  | .float x => .accepted x
  | .str s => .ofOption .numberText (numberText? s)
  | _ => .reject .notNumber

def falseWords : List String := ["0", "off", "f", "false", "n", "no"]
def trueWords : List String := ["1", "on", "t", "true", "y", "yes"]

def truth : Json → Checked Bool
  | .bool b => .accepted b
  | .int n =>
    if n = 0 then .accepted false
    else if n = 1 then .accepted true
    else .reject (if fitsWord n then .truthText else .notTruth)
  | .float x =>
    match x.toInt? with
    | some 0 => .accepted false
    | some 1 => .accepted true
    | _ => .reject .notTruth
  | .str s =>
    let word := String.ofList (s.toList.map Char.toLower)
    if falseWords.contains word then .accepted false
    else if trueWords.contains word then .accepted true
    else .reject .truthText
  | _ => .reject .notTruth

def instant : Json → Checked Timestamp
  | .int n =>
    if (Binary64.ofInt? n).isNone then .reject .notInstant
    else .ofOption .instantRange (Timestamp.ofUnix? n)
  | .float x => .ofOption .instantRange (Timestamp.ofUnixFloat? x)
  | .str s =>
    match Timestamp.read s with
    | .ok t => .accepted t
    | .error .outOfRange => .reject .instantRange
    | .error .unreadable => .reject .instantText
  | _ => .reject .notInstant

end ChatAudit.Record
