/-! Sets of code points. -/
namespace ChatAudit.Text

/-- Inclusive ranges of code points, in ascending order. -/
structure CodeSet where
  ranges : Array (Nat × Nat)

def CodeSet.contains (s : CodeSet) (c : Char) : Bool :=
  s.ranges.any fun r => r.1 ≤ c.toNat && c.toNat ≤ r.2

end ChatAudit.Text
