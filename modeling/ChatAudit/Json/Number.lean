import ChatAudit.Json.Basic

/-! Arithmetic on values that may turn out to be no numbers. -/
namespace ChatAudit.Json

/-- What a value is called when it does not fit. -/
def typeName : Json → String
  | .null => "NoneType"
  | .bool _ => "bool"
  | .int _ => "int"
  | .float _ => "float"
  | .str _ => "str"
  | .arr _ => "list"
  | .obj _ => "dict"

/-- Whether `x` is above `n`. -/
def floatAbove (x : Binary64) (n : Int) : Bool :=
  match x with
  | .nan => false
  | .infinite negative => !negative
  | .finite s m e =>
    let (num, den) := Binary64.ratio m e
    n * den < (if s then -(num : Int) else num)

def above? (n : Int) : Json → Option Bool
  | .float x => some (floatAbove x n)
  | v => v.toInt?.map (n < ·)

/-- Whether a number is `n` or more. -/
def atLeast? (n : Int) : Json → Option Bool
  | .float x => some (floatAbove x n || x.toInt? == some n)
  | v => v.toInt?.map (n ≤ ·)

/-- The sum of a double and a small whole number. -/
def floatPlus (x : Binary64) (n : Int) : Binary64 :=
  match x with
  | .finite s m e =>
    let (num, den) := Binary64.ratio m e
    let sum := (if s then -(num : Int) else num) + n * den
    Binary64.ofRatio (sum < 0) sum.natAbs den
  | x => x

def plus? (n : Int) : Json → Option Json
  | .float x => some (.float (floatPlus x n))
  | v => v.toInt?.map fun m => .int (m + n)

end ChatAudit.Json
