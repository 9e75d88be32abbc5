import ChatAudit.Console.Panel

/-! Summaries and the conversation with the assistant. -/
namespace ChatAudit.Console
open Panel

def riskColors : Dict String :=
  [("low", "green"), ("medium", "orange"), ("high", "red"), ("critical", "red")]

/-- A list under a heading, unless it is empty. -/
def showItems (heading : String) (items : List String) : Panel Unit := do
  if !items.isEmpty then
    write "markdown" ["**" ++ heading ++ "**"]
    items.forM fun i => write "markdown" ["- " ++ i]

def showSummary (s : Summary) : Panel Unit := do
  let risk := s.riskLevel.getD ""
  if risk != "" then
    let color := (riskColors.lookup? (Text.lower risk)).getD "gray"
    write "markdown" ["Risk level: :" ++ color ++ "[**" ++ Text.upper risk ++ "**]"]
  write "markdown" [s.summary]
  showItems "Sensitive findings" (s.sensitiveFindings.getD [])
  showItems "Recommended actions" (s.recommendedActions.getD [])

def showTurn (t : Turn) : Panel Unit := do
  let c ← container "chat_message" [t.role]
  within c (write "markdown" [t.content])

/-- A turn that the user typed. -/
def userTurn (content : Json) : Panel Turn :=
  match Turn.read [("role", .str "user"), ("content", content)] with
  | .accepted t => pure t
  | .rejected issues => fail (.turn issues)

def setTurns (turns : List Turn) : Panel Unit := modifyState fun s => { s with turns := some turns }

/-- The body of a request for the next turn. -/
def conversationBody (turns : List Turn) (context : String) (keyId : Option Int) : Dict Json := [
  ("messages", .arr (turns.map fun t =>
    .obj ([("role", .str t.role), ("content", .str t.content)] ++ t.extras))),
  ("context", if context == "" then .null else .str context),
  ("ai_api_key_id", keyId.elim .null .int)]

/-- Asks for the next turn; a failure is told. -/
def askAssistant (turns : List Turn) (context : String) (keyId : Option Int) :
    Panel (Option String) := do
  let spinner ← container "spinner" ["Thinking..."]
  within spinner do
    match ← ask (.converse (.entries (conversationBody turns context keyId))) with
    | .ok reply => return some reply.summary
    | .error f =>
      error "AI request failed" f
      return none

/-- The conversation so far and its next turn. A turn without a reply is taken back. -/
def conversation (context : String) (keyId : Option Int) : Panel Unit := do
  let turns := (← getState).turns.getD []
  turns.forM showTurn
  post {
    target := "", function := "chat_input"
    options := textOptions [("placeholder", .str "Ask about this session..."),
      ("key", .str "ai_chat_input")] }
  let typed ← input "ai_chat_input"
  if typed.present then
    let asked := turns ++ [← userTurn typed]
    setTurns asked
    asked.getLast?.forM showTurn
    let c ← container "chat_message" ["assistant"]
    let reply ← within c do
      let reply ← askAssistant asked context keyId
      match reply with
      | some text => write "markdown" [text]
      | none => setTurns turns
      return reply
    if let some text := reply then setTurns (asked ++ [{ role := "assistant", content := text }])

end ChatAudit.Console
