import ChatAudit.Binary64.Basic
import ChatAudit.Text.Integer

/-! Doubles read from text. -/
namespace ChatAudit.Binary64
open Text (asciiDigit? ofDigits splitSign)

/-- The ASCII digits in front, and the rest. -/
def digitRun : List Char → List Nat × List Char
  | [] => ([], [])
  | c :: r =>
    match asciiDigit? c with
    | some d => let (ds, rest) := digitRun r; (d :: ds, rest)
    | none => ([], c :: r)

/-- The exponent after its mark, nothing at the end of the text. -/
def exponentPart? : List Char → Option Int
  | [] => some 0
  | c :: r =>
    if c == 'e' || c == 'E' then
      let (negative, body) := splitSign r
      match digitRun body with
      | ([], _) => none
      | (ds, []) => some (if negative then -(ofDigits 10 ds : Nat) else (ofDigits 10 ds : Nat))
      | _ => none
    else none

/-- Digits with at most one point among them, and an exponent. -/
def unsigned? (negative : Bool) (cs : List Char) : Option Binary64 :=
  let (whole, rest) := digitRun cs
  let (fraction, rest) := match rest with
    | '.' :: r => digitRun r
    | r => ([], r)
  if whole.isEmpty && fraction.isEmpty then none
  else
    (exponentPart? rest).map fun e =>
      ofDecimal negative (ofDigits 10 (whole ++ fraction)) (e - fraction.length)

/-- A decimal number, or one of the names of infinity and of what is not a number. -/
def read? (cs : List Char) : Option Binary64 :=
  let (negative, body) := splitSign cs
  let name := String.ofList (body.map Char.toLower)
  if name == "inf" || name == "infinity" then some (.infinite negative)
  else if name == "nan" then some .nan
  else unsigned? negative body

end ChatAudit.Binary64
