import ChatAudit.Api.Exchange
import ChatAudit.Calendar.Zone
import ChatAudit.Console.State
import ChatAudit.Filters
import ChatAudit.Pager
import ChatAudit.Settings

/-! Panels: what is shown, what the user puts in, and what is asked of the gateway. -/
namespace ChatAudit.Console

/-- A value that a call shows. -/
inductive Shown
  | value (v : Json)
  | bytes (bs : List UInt8)

/-- A call on the page (`target` is empty), the sidebar or a container. -/
structure Event where
  target : String
  function : String
  arguments : List Shown := []
  options : List (String × Shown) := []

/-- Why a run breaks off other than for a new run. -/
inductive Fault
  | call (fault : Api.Fault)
  | filters (fault : Filters.Fault)
  | shift (fault : Timestamp.ShiftFault)
  /-- A whole number is too large for a double. -/
  | tooLarge
  /-- What was typed is no turn of a conversation. -/
  | turn (issues : List Record.Issue)
  | page (fault : Pager.Fault)
  /-- The filters already say whether all are selected. -/
  | selectionTwice
  /-- The session to delete has no text for a name. -/
  | sessionId

def Fault.message : Fault → String
  | .call f => f.message
  | .filters f => f.message
  | .shift f => f.message
  | .tooLarge => "int too large to convert to float"
  | .turn issues => Api.Failure.issueCount issues.length
  | .page f => f.message
  | .selectionTwice =>
    "security_console.api.models.BulkDeleteRequest() got multiple values for keyword argument " ++
      "'select_all'"
  | .sessionId => "quote_from_bytes() expected bytes"

inductive Stop
  /-- The console is to run again from the top. -/
  | rerun
  | fault (fault : Fault)

/-- What a run works with. -/
structure Env where
  client : Api.Client
  settings : Settings
  now : Timestamp
  /-- The zone that the process runs in. -/
  zone : Zone := .utc
  /-- The user's input by widget. -/
  widgets : Dict Json
  /-- The replies to the requests of the run, in order. -/
  gateway : Nat → Api.Reply

/-- What a run has done so far, latest first. -/
structure Screen where
  state : State
  events : List Event := []
  requests : List Api.Request := []
  /-- How many containers of each kind there are. -/
  containers : Dict Nat := []

abbrev Panel := ReaderT Env (ExceptT Stop (StateM Screen))

namespace Panel
variable {α : Type}

def fail (f : Fault) : Panel α := throw (.fault f)

def ofExcept {ε : Type} (wrap : ε → Fault) : Except ε α → Panel α
  | .ok a => pure a
  | .error e => fail (wrap e)

def getState : Panel State := return (← getThe Screen).state

def modifyState (f : State → State) : Panel Unit :=
  modifyThe Screen fun s => { s with state := f s.state }

def post (e : Event) : Panel Unit := modifyThe Screen fun s => { s with events := e :: s.events }

def textOptions (options : List (String × Json)) : List (String × Shown) :=
  options.map fun o => (o.1, .value o.2)

/-- A call on the page with texts. -/
def write (function : String) (texts : List String := []) : Panel Unit :=
  post { target := "", function, arguments := texts.map fun t => .value (.str t) }

def metric (column label : String) (value : Json) : Panel Unit :=
  post { target := column, function := "metric", arguments := [.value (.str label), .value value] }

/-- The name of the next container of a kind. -/
def nextContainer (kind : String) : Panel String := do
  let n := ((← getThe Screen).containers.lookup? kind).getD 0
  modifyThe Screen fun s => { s with containers := s.containers.put kind (n + 1) }
  return kind ++ "#" ++ toString n

/-- A container that a call opens. -/
def container (kind : String) (texts : List String := []) (options : List (String × Json) := []) :
    Panel String := do
  post {
    target := "", function := kind
    arguments := texts.map fun t => .value (.str t), options := textOptions options }
  nextContainer kind

/-- Containers side by side. -/
def row (kind : String) (layout : Json) (n : Nat) : Panel (List String) := do
  post { target := "", function := kind, arguments := [.value layout] }
  let name ← nextContainer kind
  return (List.range n).map fun i => name ++ "[" ++ toString i ++ "]"

def columns (n : Nat) : Panel (List String) := row "columns" (.int n) n

def columnsBy (widths : List Int) : Panel (List String) :=
  row "columns" (.arr (widths.map .int)) widths.length

/-- The body inside a container, which is left again whatever becomes of the body. -/
def within (name : String) (body : Panel α) : Panel α := do
  post { target := name, function := "enter" }
  let result ← fun env => ExceptT.mk (do return .ok (← (body env).run))
  post { target := name, function := "exit" }
  match result with
  | .ok a => return a
  | .error stop => throw stop

/-- Asks for a new run. -/
def rerun : Panel α := do
  write "rerun"
  throw .rerun

/-- What the user put into a widget. -/
def input (widget : String) : Panel Json := return ((← read).widgets.lookup? widget).getD .null

/-- Whether a button is pressed, known by its key if it has one; never while it is disabled. -/
def button (label : String) (key : Option String := none) (disabled : Option Bool := none)
    (options : List (String × Json) := []) : Panel Bool := do
  let shown := (key.map fun k => ("key", Json.str k)).toList ++
    (disabled.map fun d => ("disabled", Json.bool d)).toList ++ options
  post {
    target := "", function := "button"
    arguments := [.value (.str label)], options := textOptions shown }
  let pressed := (← input (key.getD label)).present
  return pressed && !disabled.getD false

/-- Whether a box is ticked; a box with a key remembers it. -/
def checkbox (label : String) (key : Option String := none) (options : List (String × Json) := []) :
    Panel Bool := do
  let shown := (key.map fun k => ("key", Json.str k)).toList ++ options
  post {
    target := "", function := "checkbox"
    arguments := [.value (.str label)], options := textOptions shown }
  let ticked := (← input (key.getD label)).present
  if let some k := key then modifyState (·.put k (.bool ticked))
  return ticked

/-- The option that is chosen, the one at `index` unless the user chose another. A box with a key
remembers the choice. -/
def selectbox (target label : String) (choices : List String) (index : Nat := 0)
    (key : Option String := none) (options : List (String × Json) := []) : Panel String := do
  let shown := (key.map fun k => ("key", Json.str k)).toList ++ options
  post {
    target, function := "selectbox"
    arguments := [.value (.str label), .value (.arr (choices.map .str))]
    options := textOptions shown }
  let default := choices.getD index ""
  let choice := match ← input (key.getD label) with
    | .str s => if choices.contains s then s else default
    | _ => default
  if let some k := key then modifyState (·.put k (.str choice))
  return choice

/-- The text in a field of the sidebar. -/
def textInput (label : String) (options : List (String × Json) := []) : Panel String := do
  post {
    target := "sidebar", function := "text_input"
    arguments := [.value (.str label)], options := textOptions options }
  match ← input label with
  | .str s => return s
  | _ => return ""

/-- Carries out an operation; its failure is for the panel to tell. -/
def ask (op : Api.Operation) : Panel (Except Api.Failure op.Answer) := do
  let env ← read
  let exchange := env.client.perform op (env.gateway (← getThe Screen).requests.length)
  if let some request := exchange.request then
    modifyThe Screen fun s => { s with requests := request :: s.requests }
  match exchange.outcome with
  | .ok a => return .ok a
  | .error (.failed f) => return .error f
  | .error f => fail (.call f)

/-- Tells a failure. -/
def error (what : String) (f : Api.Failure) : Panel Unit :=
  write "error" [what ++ ": " ++ f.message.display]

end Panel
end ChatAudit.Console
