import ChatAudit.Binary64.Basic

/-! The shortest decimal that reads back as a given double. -/
namespace ChatAudit.Binary64

/-- The greatest `p` with `10 ^ p ≤ num / den`. -/
def floorLog10 (num den : Nat) : Int :=
  let p := floorLog2 num den * 1233 / 4096
  let reaches (p : Int) : Bool := den * Nat.pow 10 p.toNat ≤ num * Nat.pow 10 (-p).toNat
  if !reaches p then p - 1 else if reaches (p + 1) then p + 1 else p

/-- A positive double with the interval of reals that round to it, in units of
`2 ^ unit`. The ends belong to the interval when `closed`. -/
structure Neighbourhood where
  below : Nat
  value : Nat
  above : Nat
  unit : Int
  closed : Bool

/-- The step below a power of two is half the step above. -/
def neighbourhood (significand : Nat) (exponent : Int) : Neighbourhood where
  below := 4 * significand - (if significand = Nat.pow 2 52 ∧ minExponent < exponent then 1 else 2)
  value := 4 * significand
  above := 4 * significand + 2
  unit := exponent - 2
  closed := significand % 2 = 0

/-- The point of the grid `10 ^ q` that reads back as the double, the nearer of two and the even
one of two equally near. -/
def Neighbourhood.onGrid? (n : Neighbourhood) (q : Int) : Option Nat :=
  let unit := Nat.pow 2 n.unit.toNat * Nat.pow 10 (-q).toNat
  let step := Nat.pow 10 q.toNat * Nat.pow 2 (-n.unit).toNat
  let lower := n.value * unit / step
  let upper := lower + 1
  let lowerFits :=
    n.below * unit < lower * step || (n.closed && n.below * unit == lower * step)
  let upperFits :=
    upper * step < n.above * unit || (n.closed && upper * step == n.above * unit)
  let toLower := n.value * unit - lower * step
  let toUpper := upper * step - n.value * unit
  match lowerFits, upperFits with
  | false, false => none
  | true, false => some lower
  | false, true => some upper
  | true, true =>
    if toLower < toUpper then some lower
    else if toUpper < toLower then some upper
    else some (if lower % 2 = 0 then lower else upper)

/-- The first grid from `q` downwards with a point that reads back. -/
def Neighbourhood.coarsest (n : Neighbourhood) : (fuel : Nat) → (q : Int) → Nat × Int
  | 0, q => ((n.onGrid? q).getD 0, q)
  | fuel + 1, q =>
    match n.onGrid? q with
    | some d => (d, q)
    | none => n.coarsest fuel (q - 1)

/-- Digits and exponent of the shortest decimal that reads back; seventeen digits always do. -/
def shortest (significand : Nat) (exponent : Int) : Nat × Int :=
  let (num, den) := ratio significand exponent
  (neighbourhood significand exponent).coarsest 16 (floorLog10 num den)

end ChatAudit.Binary64
