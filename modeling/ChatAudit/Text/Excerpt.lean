/-! Texts cut to a length. -/
namespace ChatAudit.Text

/-- The characters up to `stop`, which counts from the end when it is negative. -/
def takeTo (stop : Int) (cs : List Char) : List Char :=
  if 0 ≤ stop then cs.take stop.toNat else cs.take (cs.length - (-stop).toNat)

/-- The text itself, or its beginning and three dots if it is longer than `limit`. -/
def excerpt (limit : Int) (s : String) : String :=
  if s.length ≤ limit then s
  else String.ofList (takeTo (limit - 3) s.toList) ++ "..."

end ChatAudit.Text
