import ChatAudit.Console.Panel
import ChatAudit.Report.Amount

/-! Statistics and the shares of the platforms. -/
namespace ChatAudit.Console
open Panel

def bytesText (n : Int) : Panel String :=
  match Amount.bytesOfInt? n with
  | some s => pure s
  | none => fail .tooLarge

def showShare (column name : String) (share : PlatformShare) : Panel Unit :=
  post {
    target := column, function := "metric"
    arguments := [.value (.str name), .value (.int share.count),
      .value (.str (Amount.percent share.ratio))]
    options := [("delta_color", .value (.str "off"))] }

/-- The shares of the platforms, by name. -/
def showShares (shares : Dict PlatformShare) : Panel Unit := do
  let columns ← columns shares.length
  (columns.zip (List.mergeSort shares fun a b => a.1 ≤ b.1)).forM fun c =>
    showShare c.1 c.2.1 c.2.2

def showStatistics (s : Statistics) : Panel Unit := do
  write "caption" [s.startTime.display ++ " - " ++ s.endTime.display]
  let columns ← columns 4
  let values : List (String × Json) := [
    ("Requests", .int s.requestCount), ("Sessions", .int s.sessionCount),
    ("Requests / day", .str (s.requestsPerDay.formatFixed 1)),
    ("Sessions / day", .str (s.sessionsPerDay.formatFixed 1))]
  (columns.zip values).forM fun c => metric c.1 c.2.1 c.2.2
  let estimated ← bytesText s.estimatedBytes
  let table ← bytesText s.tableBytes
  write "caption" ["Estimated log size: " ++ estimated ++ " | Table size: " ++ table]
  if !List.isEmpty s.platformShare then
    write "markdown" ["**Platform share** (by " ++ s.shareBasis ++ ")"]
    showShares s.platformShare

end ChatAudit.Console
