import ChatAudit.Console.Panel

/-! Choices between API keys. -/
namespace ChatAudit.Console

def keyLabel (k : ApiKey) : String := k.name ++ " (#" ++ toString k.id ++ ")"

/-- The keys by their labels, after a default that stands for none. -/
def keyChoices (default : String) (keys : List ApiKey) : Dict (Option Int) :=
  Dict.ofPairs ((default, none) :: keys.map fun k => (keyLabel k, some k.id))

/-- The key that is chosen in a box. -/
def chooseKey (target label default : String) (keys : List ApiKey) (key : Option String := none) :
    Panel (Option Int) := do
  let choices := keyChoices default keys
  let choice ← Panel.selectbox target label (choices.map (·.1)) 0 key
  return (choices.lookup? choice).getD none

/-- The active key that pays for the assistant; none leaves it to the server. -/
def chooseAssistantKey (keys : List ApiKey) (key : String := "ai_api_key") : Panel (Option Int) :=
  chooseKey "" "AI API key" "Server default" (keys.filter (·.status == "active")) (some key)

end ChatAudit.Console
