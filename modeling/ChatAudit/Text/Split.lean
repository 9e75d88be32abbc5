/-! Texts in parts. -/
namespace ChatAudit.Text

/-- The parts between the places where `c` stands; one more than there are places. -/
def splitOn (c : Char) : List Char → List (List Char)
  | [] => [[]]
  | d :: r =>
    if d == c then [] :: splitOn c r
    else match splitOn c r with
      | p :: ps => (d :: p) :: ps
      | [] => [[d]]

/-- The parts with `c` between them. -/
def joinWith (c : Char) : List (List Char) → List Char
  | [] => []
  | [p] => p
  | p :: ps => p ++ c :: joinWith c ps

/-- What stands before the first `c`, and what stands after it if there is one. -/
def cutAt (c : Char) : List Char → List Char × Option (List Char)
  | [] => ([], none)
  | d :: r =>
    if d == c then ([], some r)
    else let (before, after) := cutAt c r; (d :: before, after)

/-- What stands before the last `c` if there is one, and what stands after it. -/
def cutAtLast (c : Char) (cs : List Char) : Option (List Char) × List Char :=
  let (after, before) := cutAt c cs.reverse
  (before.map List.reverse, after.reverse)

/-- Whether `word` stands somewhere in a text. -/
def occurs (word : List Char) : List Char → Bool
  | [] => word.isEmpty
  | c :: r => word.isPrefixOf (c :: r) || occurs word r

end ChatAudit.Text
