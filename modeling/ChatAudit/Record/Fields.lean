import ChatAudit.Record.Checked
import ChatAudit.Json.Basic

/-! Records read field by field. Keys that no field names are never looked at. -/
namespace ChatAudit.Record

abbrev Reader (α : Type) := Json → Checked α

variable {α β : Type}

def field (key : String) (absent : Checked α) (read : Reader α) (d : Dict Json) : Checked α :=
  match d.lookup? key with
  | none => absent.below (.key key)
  | some v => (read v).below (.key key)

def required (key : String) (read : Reader α) (d : Dict Json) : Checked α :=
  field key (.reject .missing) read d

def optional (key : String) (default : α) (read : Reader α) (d : Dict Json) : Checked α :=
  field key (.accepted default) read d

/-- Null stands for nothing. -/
def orNull (read : Reader α) : Reader (Option α)
  | .null => .accepted none
  | v => (read v).map some

def nullable (key : String) (read : Reader α) (d : Dict Json) : Checked (Option α) :=
  optional key none (orNull read) d

/-- The checks of the items from position `n` on. -/
def items (read : Reader α) (n : Nat) : List Json → Checked (List α)
  | [] => .accepted []
  | v :: vs => List.cons <$> (read v).below (.index n) <*> items read (n + 1) vs

def list (read : Reader α) : Reader (List α)
  | .arr vs => items read 0 vs
  | _ => .reject .notList

/-- A list where null stands for none. -/
def listOrNull (read : Reader α) : Reader (List α)
  | .null => .accepted []
  | v => list read v

def entries (read : Reader α) : List (String × Json) → Checked (Dict α)
  | [] => .accepted []
  | (k, v) :: es => (fun a d => (k, a) :: d) <$> (read v).below (.key k) <*> entries read es

def dict (read : Reader α) : Reader (Dict α)
  | .obj es => entries read es
  | _ => .reject .notDict

def record (read : Dict Json → Checked α) : Reader α
  | .obj es => read es
  | _ => .reject .notRecord

end ChatAudit.Record
