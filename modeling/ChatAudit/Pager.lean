import ChatAudit.Json.Number

/-! Pages of a list that is loaded one page at a time. -/
namespace ChatAudit.Pager

/-- The number of pages for `total` items, at least one. -/
def pageCount (total size : Int) : Int :=
  if size ≤ 0 ∨ total ≤ 0 then 1 else (total + size - 1) / size

def pageKey (key : String) : String := key ++ "_page"
def filtersKey (key : String) : String := key ++ "_filters"

/-- The stored page of a list, the first if none is stored. -/
def page (key : String) (state : Dict Json) : Json :=
  (state.lookup? (pageKey key)).getD (.int 1)

/-- Other filters than the stored ones start at the first page. -/
def sync (filters : Dict Json) (key : String) (state : Dict Json) : Dict Json :=
  let known := (state.lookup? (filtersKey key)).elim false (Json.equal (.obj filters))
  if known then state
  else (state.put (filtersKey key) (.obj filters)).put (pageKey key) (.int 1)

/-- The stored page is no number that `operator` could be applied to. -/
structure Fault where
  operator : String
  stored : Json

def Fault.message (f : Fault) : String :=
  "'" ++ f.operator ++ "' not supported between instances of '" ++ f.stored.typeName ++ "' and 'int'"

/-- A page after the last one becomes the last one; says whether it did. -/
def clamp (total size : Int) (key : String) (state : Dict Json) :
    Except Fault (Bool × Dict Json) :=
  let last := pageCount total size
  match (page key state).above? last with
  | none => .error ⟨">", page key state⟩
  | some false => .ok (false, state)
  | some true => .ok (true, state.put (pageKey key) (.int last))

end ChatAudit.Pager
