import ChatAudit.Payload.Turn

/-! The fields that requests declare. -/
namespace ChatAudit.Payload
open Record

inductive Kind
  | integer
  | text
  | truth
  | instant
  | texts
  | turns
deriving DecidableEq, Repr

inductive Value
  | integer (n : Int)
  | text (s : String)
  | truth (b : Bool)
  | instant (t : Timestamp)
  | texts (ss : List String)
  | turns (ts : List Turn)
deriving Repr

def Kind.read : Kind → Reader Value
  | .integer, v => (Record.integer v).map .integer
  | .text, v => (Record.text v).map .text
  | .truth, v => (Record.truth v).map .truth
  | .instant, v => (Record.instant v).map .instant
  | .texts, v => (list Record.text v).map .texts
  | .turns, v => (list (record Turn.read) v).map .turns

def Value.wire : Value → Json
  | .integer n => .int n
  | .text s => .str s
  | .truth b => .bool b
  | .instant t => .str t.wire
  | .texts ss => .arr (ss.map .str)
  | .turns ts => .arr (ts.map fun t => .obj t.wire)

structure Field where
  /-- The keys under which the field is looked for; the first is the one that is sent. -/
  key : String
  alternative : Option String := none
  kind : Kind
  /-- The value of an absent field. Without one null stands for no value. -/
  default : Option Value := none

def Field.name (f : Field) : String := f.alternative.getD f.key

/-- The key under which `d` has the field. -/
def Field.keyIn? (f : Field) (d : Dict Json) : Option String :=
  if d.has f.key then some f.key else f.alternative.filter d.has

def Field.read (f : Field) (d : Dict Json) : Checked (Option Value) :=
  let key := (f.keyIn? d).getD f.key
  match f.default with
  | none => nullable key f.kind.read d
  | some v => some <$> optional key v f.kind.read d

end ChatAudit.Payload
