import ChatAudit.Text.Blank
import ChatAudit.Text.Digit

/-! Integers as people type them. -/
namespace ChatAudit.Text

inductive IntegerFault
  | malformed
  | tooLong (digits : Nat)
deriving Repr, DecidableEq

/-- The longest number that is read. -/
def maxDigits : Nat := 4300

/-- Digits of any script, with single underscores between them. -/
def digitGroups? : List Char → Option (List Nat)
  | [] => none
  | [c] => (digitValue? c).map ([·])
  | c :: '_' :: r => do return (← digitValue? c) :: (← digitGroups? r)
  | c :: r => do return (← digitValue? c) :: (← digitGroups? r)

def splitSign : List Char → Bool × List Char
  | '-' :: r => (true, r)
  | '+' :: r => (false, r)
  | r => (false, r)

/-- An optional sign and digits, with blanks around them. -/
def readInteger (s : String) : Except IntegerFault Int :=
  let (negative, body) := splitSign (stripBy isBlank s.toList)
  match digitGroups? body with
  | none => .error .malformed
  | some ds =>
    if ds.length > maxDigits then .error (.tooLong ds.length)
    else
      let n : Int := ofDigits 10 ds
      .ok (if negative then -n else n)

end ChatAudit.Text
