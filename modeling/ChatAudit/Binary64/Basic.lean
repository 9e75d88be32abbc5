/-! Double precision numbers and their exact rounding. -/
namespace ChatAudit

/-- A finite number is `significand * 2 ^ exponent` with a sign. Numbers from `ofRatio` have at
most 53 bits, and either all of them or the least exponent. -/
inductive Binary64
  | nan
  | infinite (negative : Bool)
  | finite (negative : Bool) (significand : Nat) (exponent : Int)
deriving DecidableEq, Repr

namespace Binary64

/-- The whole number nearest to `num / den`, the even one of two. -/
def roundEven (num den : Nat) : Nat :=
  let q := num / den
  let r := num % den
  if 2 * r < den then q else if den < 2 * r then q + 1 else q + q % 2

/-- The greatest `k` with `2 ^ k ≤ num / den`. -/
def floorLog2 (num den : Nat) : Int :=
  let k : Int := (num.log2 : Int) - den.log2
  if den * Nat.pow 2 k.toNat ≤ num * Nat.pow 2 (-k).toNat then k else k - 1

/-- The exponent of the smallest numbers. -/
def minExponent : Int := -1074

/-- The exponent of the largest numbers. -/
def maxExponent : Int := 971

def zero (negative : Bool) : Binary64 := .finite negative 0 minExponent

/-- The double nearest to `num / den`, with an even significand if two are. -/
def ofRatio (negative : Bool) (num den : Nat) : Binary64 :=
  if num = 0 then zero negative
  else
    let e := max (floorLog2 num den - 52) minExponent
    let m := roundEven (num * Nat.pow 2 (-e).toNat) (den * Nat.pow 2 e.toNat)
    let (m, e) := if m = Nat.pow 2 53 then (Nat.pow 2 52, e + 1) else (m, e)
    if maxExponent < e then .infinite negative else .finite negative m e

/-- The double nearest to `n`, if one is in range. -/
def ofInt? (n : Int) : Option Binary64 :=
  match ofRatio (n < 0) n.natAbs 1 with
  | .infinite _ => none
  | x => some x

/-- The double nearest to `digits * 10 ^ exponent`. -/
def ofDecimal (negative : Bool) (digits : Nat) (exponent : Int) : Binary64 :=
  if digits = 0 then zero negative
  else if 400 < exponent then .infinite negative
  else if exponent + digits.log2 + 1101 < 0 then zero negative
  else ofRatio negative (digits * Nat.pow 10 exponent.toNat) (Nat.pow 10 (-exponent).toNat)

/-- Numerator and denominator of the size of a finite number. -/
def ratio (significand : Nat) (exponent : Int) : Nat × Nat :=
  (significand * Nat.pow 2 exponent.toNat, Nat.pow 2 (-exponent).toNat)

/-- The product with `2 ^ k * n`, rounded once. -/
def scale (x : Binary64) (n : Nat) (k : Int) : Binary64 :=
  match x with
  | .finite s m e =>
    let (num, den) := ratio m (e + k)
    ofRatio s (num * n) den
  | x => x

def isZero : Binary64 → Bool
  | .finite _ 0 _ => true
  | _ => false

/-- Equality of numbers: zeros of both signs are equal, and `nan` is equal to nothing. -/
def equal : Binary64 → Binary64 → Bool
  | .nan, _ => false
  | x, y => x == y || (x.isZero && y.isZero)

/-- Whether the size is below `n`. -/
def absBelow (x : Binary64) (n : Nat) : Bool :=
  match x with
  | .finite _ m e => let (num, den) := ratio m e; num < n * den
  | _ => false

/-- The whole part of a finite number. -/
def truncate? : Binary64 → Option Int
  | .finite s m e =>
    let (num, den) := ratio m e
    some (if s then -(num / den : Nat) else (num / den : Nat))
  | _ => none

/-- The integer that the number is, if it is one. -/
def toInt? : Binary64 → Option Int
  | .finite s m e =>
    let (num, den) := ratio m e
    if num % den = 0 then some (if s then -(num / den : Nat) else (num / den : Nat)) else none
  | _ => none

end Binary64
end ChatAudit
