import ChatAudit.Proofs.Console.Run

/-! Views only draw. -/
namespace ChatAudit.Console
open Panel

variable {env : Env}

theorem draws_showItems (heading : String) (items : List String) :
    Draws env (showItems heading items) fun _ => True := by
  unfold showItems
  split_ifs
  · exact (Draws.write _ _).bind fun _ _ => .forM fun _ _ => .write _ _
  · exact .returns _

theorem draws_showSummary (s : Summary) : Draws env (showSummary s) fun _ => True := by
  have hrest : Draws env (do
      write "markdown" [s.summary]
      showItems "Sensitive findings" (s.sensitiveFindings.getD [])
      showItems "Recommended actions" (s.recommendedActions.getD [])) fun _ => True :=
    (Draws.write _ _).bind fun _ _ => (draws_showItems _ _).bind fun _ _ => draws_showItems _ _
  unfold showSummary
  dsimp only
  split_ifs
  · exact (Draws.write _ _).bind fun _ _ => hrest
  · exact hrest

theorem draws_showTurn (t : Turn) : Draws env (showTurn t) fun _ => True :=
  (Draws.container _ _ _).bind fun _ _ => .within _ (.write _ _)

theorem draws_showMessage (m : Message) : Draws env (showMessage m) fun _ => True :=
  (Draws.container _ _ _).bind fun _ _ => .within _ ((Draws.write _ _).bind fun _ _ => .write _ _)

theorem draws_showLog (l : Log) : Draws env (showLog l) fun _ => True := by
  unfold showLog
  refine (Draws.container _ _ _).bind fun c _ => .within _ ?_
  refine (Draws.write _ _).bind fun _ _ => ?_
  refine (Draws.forM fun m _ => draws_showMessage m).bind fun _ _ => ?_
  split_ifs
  · exact (Draws.write _ _).bind fun _ _ => .forM fun m _ => draws_showMessage m
  · exact .returns _

theorem draws_showLogs (logs : List Log) (total : Int) :
    Draws env (showLogs logs total) fun _ => True := by
  unfold showLogs
  split_ifs
  · exact .write _ _
  · exact (Draws.write _ _).bind fun _ _ => .forM fun l _ => draws_showLog l

theorem draws_download (f : File) (label : String) :
    Draws env (download f label) fun _ => True := by
  unfold download
  split_ifs
  · exact (Draws.write _ _).bind fun _ _ => .post _
  · exact .post _

end ChatAudit.Console
