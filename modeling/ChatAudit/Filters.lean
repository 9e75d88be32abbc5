import ChatAudit.Calendar.Window
import ChatAudit.Json.Number

/-! Filter values, by the names that requests use. -/
namespace ChatAudit

abbrev Filters := Dict Json

namespace Filters

inductive Fault
  | window (fault : Window.Fault)
  /-- The time range is no text. -/
  | notText (value : Json)

def Fault.message : Fault → String
  | .window f => f.message
  | .notText v => "'" ++ v.typeName ++ "' object has no attribute 'strip'"

/-- What statistics and logs are asked for: they know no keyword. -/
def forLogs (filters : Filters) : Filters := filters.without "q"

/-- What bodies carry: instead of a time range its two ends, up to `now`. -/
def forBody (now : Timestamp) (filters : Filters) : Except Fault Filters :=
  let rest := filters.without "time_range"
  match (filters.lookup? "time_range").getD .null with
  | .str "" => .ok rest
  | .str range =>
    match Window.bounds range now with
    | .ok (start, stop) =>
      .ok ((rest.put "start_time" (.str (Timestamp.iso start))).put "end_time"
        (.str (Timestamp.iso stop)))
    | .error f => .error (.window f)
  | v => if v.present then .error (.notText v) else .ok rest

end Filters
end ChatAudit
