import ChatAudit.Binary64.Format

/-! Sizes and shares as people read them. -/
namespace ChatAudit.Amount

/-- A share as a percentage with one decimal. -/
def percent (x : Binary64) : String := (x.scale 100 0).formatFixed 1 ++ "%"

/-- The percentage of a whole number, if it is not too large for a double. -/
def percentOfInt? (n : Int) : Option String :=
  (Binary64.ofInt? (n * 100)).map fun x => x.formatFixed 1 ++ "%"

/-- The units above single bytes, each 1024 times the one before. -/
def byteUnits : List String := ["KiB", "MiB", "GiB", "TiB"]

/-- A size in the first unit that keeps it below 1024, or in the last one. -/
def inUnits (x : Binary64) : List String → String
  | [] => x.formatFixed 1
  | [u] => x.formatFixed 1 ++ " " ++ u
  | u :: us => if x.absBelow 1024 then x.formatFixed 1 ++ " " ++ u else inUnits (x.scale 1 (-10)) us

def bytes (x : Binary64) : String :=
  match x.absBelow 1024, x.truncate? with
  | true, some n => toString n ++ " B"
  | _, _ => inUnits (x.scale 1 (-10)) byteUnits

/-- The text of a whole number of bytes, if it is not too large for a double. -/
def bytesOfInt? (n : Int) : Option String := (Binary64.ofInt? n).map bytes

end ChatAudit.Amount
