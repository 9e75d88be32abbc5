import ChatAudit.Binary64.Shortest
import ChatAudit.Text.Digit

/-! Doubles as text. -/
namespace ChatAudit.Binary64

/-- How the shortest digits are laid out. -/
structure Layout where
  /-- The least exponent without an exponent mark. -/
  least : Int
  /-- The first exponent that takes an exponent mark again. -/
  beyond : Int
  exponentWidth : Nat

/-- Small and large numbers have an exponent of two digits or more, the others a point. -/
def layout : Layout := ⟨-4, 16, 2⟩

def trimZeros (ds : List Char) : List Char := (ds.reverse.dropWhile (· == '0')).reverse

/-- The digits `ds`, the first of which counts `10 ^ p`. -/
def Layout.place (l : Layout) (ds : List Char) (p : Int) : List Char :=
  if l.least ≤ p ∧ p < l.beyond then
    if p < 0 then '0' :: '.' :: List.replicate (-p - 1).toNat '0' ++ ds
    else
      let whole := p.toNat + 1
      let fraction := ds.drop whole
      ds.take whole ++ List.replicate (whole - ds.length) '0' ++
        '.' :: (if fraction.isEmpty then ['0'] else fraction)
  else
    let mantissa := match ds with
      | d :: e :: r => d :: '.' :: e :: r
      | ds => ds
    let sign := if p < 0 then '-' else '+'
    mantissa ++ 'e' :: sign :: (Text.padded l.exponentWidth p.natAbs).toList

def signed (negative : Bool) (s : String) : String := if negative then "-" ++ s else s

/-- The shortest text that reads back. -/
def format : Binary64 → String
  | .nan => "nan"
  | .infinite s => signed s "inf"
  | .finite s 0 _ => signed s "0.0"
  | .finite s m e =>
    let (d, q) := shortest m e
    let ds := Nat.toDigits 10 d
    signed s (String.ofList (layout.place (trimZeros ds) (q + ds.length - 1)))

/-- The number rounded to `places` digits after the point, a half to the even neighbour. -/
def formatFixed (places : Nat) : Binary64 → String
  | .nan => "nan"
  | .infinite s => signed s "inf"
  | .finite s m e =>
    let (num, den) := ratio m e
    let n := roundEven (num * Nat.pow 10 places) den
    let whole := toString (n / Nat.pow 10 places)
    let fraction := Text.padded places (n % Nat.pow 10 places)
    signed s (if places = 0 then whole else whole ++ "." ++ fraction)

end ChatAudit.Binary64
