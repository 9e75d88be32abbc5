import ChatAudit.Proofs.Console.Sidebar

/-! What the sidebar shows, box after box. -/
namespace ChatAudit.Console

namespace Screen

/-- The screen with one more thing shown. -/
def shown (e : Event) (s : Screen) : Screen := { s with events := e :: s.events }

/-- The screen after a choice, which a box with a key remembers. -/
def remembered (key : Option String) (choice : String) (s : Screen) : Screen :=
  key.elim s fun k => s.store (·.put k (.str choice))

theorem events_remembered (key : Option String) (choice : String) (s : Screen) :
    (s.remembered key choice).events = s.events := by
  cases key <;> rfl

end Screen

namespace Panel
variable {env : Env} {s : Screen}

/-- A box with options. -/
def choiceBox (target label : String) (choices : List String) (key : Option String := none)
    (options : List (String × Json) := []) : Event where
  target
  function := "selectbox"
  arguments := [.value (.str label), .value (.arr (choices.map .str))]
  options := textOptions ((key.map fun k => ("key", Json.str k)).toList ++ options)

/-- A field for text. -/
def textBox (label : String) (options : List (String × Json) := []) : Event where
  target := "sidebar"
  function := "text_input"
  arguments := [.value (.str label)]
  options := textOptions options

theorem exec_input (widget : String) : exec (input widget) env s = (.ok (env.entered widget), s) :=
  rfl

theorem exec_textInput (label : String) (options : List (String × Json)) :
    exec (textInput label options) env s =
      (.ok (env.typed label), s.shown (textBox label options)) := by
  rw [textInput, exec_bind, exec_post]
  dsimp only
  rw [exec_bind, exec_input, Env.typed]
  cases env.entered label <;> rfl

theorem exec_selectbox (target label : String) (choices : List String) (index : Nat)
    (key : Option String) (options : List (String × Json)) :
    exec (selectbox target label choices index key options) env s =
      (.ok (env.chosen (key.getD label) choices index),
        (s.shown (choiceBox target label choices key options)).remembered key
          (env.chosen (key.getD label) choices index)) := by
  unfold selectbox
  dsimp only
  rw [exec_bind, exec_post]
  dsimp only
  rw [exec_bind, exec_input, Env.chosen]
  cases key <;> cases env.entered _ <;> rfl

end Panel

open Panel
variable {env : Env} {s : Screen}

/-- What is told of a text that is neither blank nor a number. -/
def ignoredId (raw : String) : Event where
  target := "sidebar"
  function := "warning"
  arguments := [.value (.str ("Ignoring invalid id: " ++ Text.strip raw))]

/-- Whether the user is told that an id is ignored. -/
def isIgnored (raw : String) : Bool :=
  Text.strip raw != "" && !(Text.readInteger (Text.strip raw)).isOk

theorem exec_readId (raw : String) : exec (readId raw) env s =
    (.ok (idOf raw), if isIgnored raw then s.shown (ignoredId raw) else s) := by
  unfold readId idOf isIgnored
  by_cases hblank : Text.strip raw = ""
  · simp only [hblank]
    rfl
  · simp only [beq_eq_false_iff_ne.mpr hblank, bne, Bool.false_eq_true, if_false]
    cases Text.readInteger (Text.strip raw) with
    | ok n => rfl
    | error f => rfl

theorem exec_chooseKey (target label default : String) (keys : List ApiKey) (key : Option String) :
    exec (chooseKey target label default keys key) env s =
      (.ok (env.chosenKey (key.getD label) default keys),
        (s.shown (choiceBox target label (keyChoices default keys).keys key)).remembered key
          (env.chosen (key.getD label) (keyChoices default keys).keys 0)) := by
  unfold chooseKey
  dsimp only
  rw [exec_bind, exec_selectbox]
  rfl

/-- The boxes of the sidebar above the one for the user's id, latest first. -/
def upperBoxes (defaultRange : String) : List Event := [
  textBox "User ID",
  textBox "Model",
  choiceBox "sidebar" "Platform" platforms none
    [("format_func", .arr (platforms.map fun p => .str (if p == "" then "All" else p)))],
  textBox "Keyword" [("placeholder", .str "Search message previews")],
  choiceBox "sidebar" "Time range" timeRanges none [("index", .int (rangeIndex defaultRange))],
  { target := "sidebar", function := "subheader", arguments := [.value (.str "Filters")] }]

/-- What the sidebar shows, latest first. -/
def Env.sidebarEvents (env : Env) (keys : List ApiKey) (defaultRange : String) : List Event :=
  choiceBox "sidebar" "API key" (keyChoices "All keys" keys).keys ::
    ((if isIgnored (env.typed "User ID") then [ignoredId (env.typed "User ID")] else []) ++
      upperBoxes defaultRange)

theorem exec_sidebar_eq (keys : List ApiKey) (defaultRange : String) :
    exec (sidebar keys defaultRange) env s =
      (.ok (env.selection keys defaultRange).filters,
        { s with events := env.sidebarEvents keys defaultRange ++ s.events }) := by
  simp only [sidebar, exec_bind, exec_post, exec_selectbox, exec_textInput, exec_readId,
    exec_chooseKey, exec_pure, Env.sidebarEvents, Env.selection, Selection.filters]
  cases isIgnored (env.typed "User ID") <;> rfl

end ChatAudit.Console
