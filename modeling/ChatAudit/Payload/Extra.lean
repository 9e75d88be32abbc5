import ChatAudit.Json.Basic

/-! Values that a request carries along under keys of the caller's own. -/
namespace ChatAudit.Payload

mutual

/-- The value as it is sent. Numbers that are not finite become null. -/
def sendable : Json → Json
  | .float (.finite s m e) => .float (.finite s m e)
  | .float _ => .null
  | .arr vs => .arr (sendableItems vs)
  | .obj es => .obj (sendableEntries es)
  | v => v

def sendableItems : List Json → List Json
  | [] => []
  | v :: vs => sendable v :: sendableItems vs

def sendableEntries : List (String × Json) → List (String × Json)
  | [] => []
  | (k, v) :: es => (k, sendable v) :: sendableEntries es

end

/-- The extra entries that are sent: null stands for nothing. -/
def sentExtras (d : Dict Json) : Dict Json :=
  (List.filter (fun e => !e.2.isNull) d).map fun e => (e.1, sendable e.2)

end ChatAudit.Payload
