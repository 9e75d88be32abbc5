import ChatAudit.Text.Case
import ChatAudit.Text.Blank
import ChatAudit.Dict

/-! Labels for the roles in a conversation. -/
namespace ChatAudit.Role

def labels : Dict String :=
  [("system", "System"), ("user", "User"), ("assistant", "Assistant"), ("tool", "Tool")]

/-- An unknown role is its own label, no role that of the user. -/
def label (role : String) : String :=
  let role := Text.lower (Text.strip role)
  match labels.lookup? role with
  | some l => l
  | none => if role == "" then "User" else Text.capitalize role

end ChatAudit.Role
