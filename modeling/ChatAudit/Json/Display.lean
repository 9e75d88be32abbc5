import ChatAudit.Json.Basic
import ChatAudit.Binary64.Format
import ChatAudit.Text.Quoted

/-! Values inside messages and query strings. -/
namespace ChatAudit.Json

mutual

/-- A value as a literal, texts between quotes. -/
def literal : Json → String
  | .null => "None"
  | .bool true => "True"
  | .bool false => "False"
  | .int n => toString n
  | .float x => x.format
  | .str s => Text.quoted s
  | .arr items => "[" ++ ", ".intercalate (literalItems items) ++ "]"
  | .obj entries => "\x7b" ++ ", ".intercalate (literalEntries entries) ++ "\x7d"

def literalItems : List Json → List String
  | [] => []
  | v :: vs => literal v :: literalItems vs

def literalEntries : List (String × Json) → List String
  | [] => []
  | (k, v) :: es => (Text.quoted k ++ ": " ++ literal v) :: literalEntries es

end

/-- A text as it is, anything else as a literal. -/
def display : Json → String
  | .str s => s
  | v => v.literal

end ChatAudit.Json
