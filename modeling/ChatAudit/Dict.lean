/-! Named values in order of insertion. -/
namespace ChatAudit

abbrev Dict (α : Type) := List (String × α)

namespace Dict
variable {α β : Type}

def lookup? (key : String) : Dict α → Option α
  | [] => none
  | e :: r => if e.1 == key then some e.2 else lookup? key r

def has (key : String) (d : Dict α) : Bool := (d.lookup? key).isSome

/-- A known key keeps its place, a new one goes to the end. -/
def put (key : String) (value : α) : Dict α → Dict α
  | [] => [(key, value)]
  | e :: r => if e.1 == key then (key, value) :: r else e :: put key value r

def without (key : String) (d : Dict α) : Dict α := List.filter (fun e => e.1 != key) d

/-- The pairs put one after the other, so that the last value of a key counts. -/
def ofPairs (pairs : List (String × α)) : Dict α :=
  pairs.foldl (fun d e => put e.1 e.2 d) []

def mapValues (f : α → β) (d : Dict α) : Dict β := List.map (fun e => (e.1, f e.2)) d

end Dict
end ChatAudit
