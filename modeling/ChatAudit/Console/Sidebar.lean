import ChatAudit.Console.KeyChoice

/-! The filters in the sidebar. -/
namespace ChatAudit.Console
open Panel

def timeRanges : List String := ["1h", "6h", "24h", "7d", "30d"]

def platforms : List String :=
  ["", "anthropic", "openai", "gemini", "antigravity", "opencode", "codex"]

/-- The place of the range that is chosen at first. -/
def rangeIndex (default : String) : Nat :=
  if timeRanges.contains default then timeRanges.idxOf default else 2

/-- A positive number; of anything else but blanks and numbers the user is told. -/
def readId (raw : String) : Panel (Option Int) := do
  let raw := Text.strip raw
  if raw == "" then return none
  match Text.readInteger raw with
  | .ok n => return if 0 < n then some n else none
  | .error _ =>
    post {
      target := "sidebar", function := "warning"
      arguments := [.value (.str ("Ignoring invalid id: " ++ raw))] }
    return none

/-- Whether a filter value restricts anything. -/
def isSet : Json → Bool
  | .null => false
  | .str s => s != ""
  | _ => true

def ofId (id : Option Int) : Json := id.elim .null .int

/-- The filters that the user has set. -/
def sidebar (keys : List ApiKey) (defaultRange : String := "24h") : Panel Filters := do
  post { target := "sidebar", function := "subheader", arguments := [.value (.str "Filters")] }
  let index := rangeIndex defaultRange
  let range ← selectbox "sidebar" "Time range" timeRanges index none [("index", .int index)]
  let keyword ← textInput "Keyword" [("placeholder", .str "Search message previews")]
  let platform ← selectbox "sidebar" "Platform" platforms 0 none
    [("format_func", .arr (platforms.map fun p => .str (if p == "" then "All" else p)))]
  let model ← textInput "Model"
  let userId ← readId (← textInput "User ID")
  let keyId ← chooseKey "sidebar" "API key" "All keys" keys
  let filters : Filters := [
    ("time_range", .str range), ("q", .str (Text.strip keyword)), ("platform", .str platform),
    ("model", .str (Text.strip model)), ("user_id", ofId userId), ("api_key_id", ofId keyId)]
  return List.filter (fun f => isSet f.2) filters

end ChatAudit.Console
