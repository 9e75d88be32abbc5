import ChatAudit.Payload.Extra
import ChatAudit.Record.Scalar
import ChatAudit.Record.Fields

/-! Turns of a conversation with the assistant. -/
namespace ChatAudit
open Record Payload

structure Turn where
  role : String
  content : String
  extras : Dict Json := []
deriving Repr, Inhabited

namespace Turn

def keys : List String := ["role", "content"]

def read (d : Dict Json) : Checked Turn :=
  (fun role content => ⟨role, content, List.filter (fun e => !keys.contains e.1) d⟩) <$>
    optional "role" "user" text d <*> required "content" text d

def wire (t : Turn) : Dict Json :=
  [("role", .str t.role), ("content", .str t.content)] ++ sentExtras t.extras

end Turn
end ChatAudit
