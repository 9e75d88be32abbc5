import ChatAudit.Binary64.Basic
import ChatAudit.Dict

/-! JSON values. -/
namespace ChatAudit

/-- Whole numbers and doubles are kept apart, and objects keep the order of their keys. -/
inductive Json
  | null
  | bool (b : Bool)
  | int (n : Int)
  | float (x : Binary64)
  | str (s : String)
  | arr (items : List Json)
  | obj (entries : List (String × Json))
deriving Inhabited, Repr

namespace Json

/-- Whether the value is there and neither false, zero nor empty. -/
def present : Json → Bool
  | .null => false
  | .bool b => b
  | .int n => n != 0
  | .float x => !x.isZero
  | .str s => s != ""
  | .arr items => !items.isEmpty
  | .obj entries => !entries.isEmpty

/-- The first of two values that is present, else the second. -/
def orElse (a b : Json) : Json := if a.present then a else b

def entries? : Json → Option (Dict Json)
  | .obj entries => some entries
  | _ => none

def isNull : Json → Bool
  | .null => true
  | _ => false

/-- A whole number or a truth value, which counts as zero or one. -/
def toInt? : Json → Option Int
  | .bool b => some (if b then 1 else 0)
  | .int n => some n
  | _ => none

/-- Equality of the numbers that two values stand for. -/
def equalNumbers (a b : Json) : Option Bool :=
  match a, b with
  | .float x, .float y => some (x.equal y)
  | .float x, b => b.toInt?.map fun n => x.toInt? == some n
  | a, .float y => a.toInt?.map fun n => y.toInt? == some n
  | a, b => do return (← a.toInt?) == (← b.toInt?)

mutual

/-- Equality of values. Numbers count by what they stand for, and objects without the order of
their keys. -/
def equal : Json → Json → Bool
  | .null, .null => true
  | .str s, .str t => s == t
  | .arr xs, .arr ys => equalItems xs ys
  | .obj xs, .obj ys => xs.length == ys.length && equalEntries xs ys
  | a, b => (equalNumbers a b).getD false

def equalItems : List Json → List Json → Bool
  | [], [] => true
  | x :: xs, y :: ys => equal x y && equalItems xs ys
  | _, _ => false

def equalEntries : List (String × Json) → List (String × Json) → Bool
  | [], _ => true
  | (k, x) :: xs, ys =>
    (match Dict.lookup? k ys with
      | some y => equal x y
      | none => false) && equalEntries xs ys

end

mutual

/-- Whether every number in the value is finite. -/
def isFinite : Json → Bool
  | .float (.finite ..) => true
  | .float _ => false
  | .arr items => finiteItems items
  | .obj entries => finiteEntries entries
  | _ => true

def finiteItems : List Json → Bool
  | [] => true
  | x :: xs => isFinite x && finiteItems xs

def finiteEntries : List (String × Json) → Bool
  | [] => true
  | (_, x) :: xs => isFinite x && finiteEntries xs

end

end Json
end ChatAudit
