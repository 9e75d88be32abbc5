import ChatAudit.Payload.Form

/-! Request records: declared fields, and whatever else the caller wants sent. -/
namespace ChatAudit
open Record

structure Payload where
  fields : List (Payload.Field × Option Payload.Value)
  extras : Dict Json

namespace Payload

def readFields (d : Dict Json) : List Field → Checked (List (Field × Option Value))
  | [] => .accepted []
  | f :: fs => (fun v rest => (f, v) :: rest) <$> f.read d <*> readFields d fs

/-- The entries that no field takes. -/
def extrasOf (fields : List Field) (d : Dict Json) : Dict Json :=
  List.filter (fun e => !(fields.filterMap fun f => f.keyIn? d).contains e.1) d

def read (form : Form) (d : Dict Json) : Checked Payload :=
  (fun fields => ⟨fields, extrasOf form.fields d⟩) <$> readFields d form.fields

/-- Declared fields in their order, then the extras; what has no value is left out. -/
def wire (p : Payload) : Dict Json :=
  (p.fields.filterMap fun (f, v) => v.map fun v => (f.key, v.wire)) ++ sentExtras p.extras

end Payload
end ChatAudit
