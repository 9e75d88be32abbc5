import ChatAudit.Json.Display
import ChatAudit.Text.Case

/-! Loggers, each with one handler on the console. -/
namespace ChatAudit.Logging

inductive Level
  | number (n : Int)
  | flag (b : Bool)
deriving DecidableEq, Repr

structure Logger where
  level : Level
  /-- The levels of its handlers. -/
  handlers : List Level
deriving DecidableEq, Repr

/-- What a handler writes for a record. -/
def lineFormat : String := "%(asctime)s [%(levelname)s] %(name)s: %(message)s"

def defaultLevel : Level := .number 20
def defaultName : String := "security_console"

def levels : Dict Int :=
  [("CRITICAL", 50), ("FATAL", 50), ("ERROR", 40), ("WARN", 30), ("WARNING", 30), ("INFO", 20),
    ("DEBUG", 10), ("NOTSET", 0)]

/-- The level that a name in any case or a number stands for. An unknown name stands for the
default level, anything else for none. -/
def levelOf? : Json → Option Level
  | .str s => some ((levels.lookup? (Text.upper s)).elim defaultLevel .number)
  | .int n => some (.number n)
  | .bool b => some (.flag b)
  | _ => none

/-- What is said of a value that stands for no level. -/
def noLevel (v : Json) : String := "Level not an integer or a valid string: " ++ v.literal

/-- The root logger has no name of its own. -/
def loggerName (name : String) : String := if name == "" then "root" else name

/-- Sets the level of a logger, and of its handler if this is its first setup. -/
def setup (level : Level) (name : String) (loggers : Dict Logger) : Dict Logger :=
  let handlers := match loggers.lookup? (loggerName name) with
    | some l => if l.handlers.isEmpty then [level] else l.handlers
    | none => [level]
  loggers.put (loggerName name) ⟨level, handlers⟩

end ChatAudit.Logging
