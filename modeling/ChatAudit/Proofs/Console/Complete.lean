import ChatAudit.Proofs.Api.Escape
import ChatAudit.Proofs.Console.Deletion
import ChatAudit.Proofs.Console.Isolation

/-! All that a run asks for can be put together, but for its address. -/
namespace ChatAudit.Console
open Api Panel

section Operations
variable {id : Json} {name : String}

theorem plain_logs (sel : Selection) : Payload.Plain .logs (Filters.forLogs sel.filters) := by
  have hnodup : (Filters.forLogs sel.filters).keys.Nodup :=
    ((Dict.keys_without "q" sel.filters).trans sel.keys_sublist).nodup (by decide)
  exact plain_of_nodup hnodup (by decide)

theorem fits_logs (sel : Selection) :
    Payload.Fits .logs (Filters.forLogs sel.filters) (Filters.forLogs sel.filters) := by
  have htext : ∀ key ∈ ["time_range", "q", "platform", "model"], key ≠ "q" →
      Payload.Form.logs.Takes .text key := by decide
  have hint : ∀ key ∈ ["user_id", "api_key_id"], Payload.Form.logs.Takes .integer key := by decide
  exact fits_of_takes (fun _ he => (mem_forLogs.mp he).1)
    (fun e he hkey => htext e.1 hkey (mem_forLogs.mp he).2) fun e _ => hint e.1

/-- The statistics are asked for with all filters but the keyword. -/
theorem gets_statistics (sel : Selection) :
    ∃ params, (statisticsFor sel.filters).Gets "/stats" params ∧
      params.Perm (Filters.forLogs sel.filters) :=
  gets_of_fits rfl (fits_logs sel) (plain_logs sel)

theorem complete_exportLogs (sel : Selection) :
    (Operation.exportLogs (.entries (Filters.forLogs sel.filters))).Complete := by
  obtain ⟨p, hread, -⟩ := Payload.exists_read (fits_logs sel) (plain_logs sel)
  have hcall : (Operation.exportLogs (.entries (Filters.forLogs sel.filters))).call =
      .ok { method := "GET", path := Operation.root ++ "/logs/export", params := some p.wire,
            patient := true } := by
    simp only [Operation.call, Operation.get, resolve_of_accepted hread]
    rfl
  exact Operation.complete_of_call hcall rfl

/-- The messages of a session are asked for by its name. -/
theorem gets_messagesOf (env : Env) (name : String) :
    ∃ params, (messagesOf env (.str name)).Gets "/messages" params ∧ params.Perm
      [("session_id", .str name), ("page_size", .int env.settings.messagesPageSize)] := by
  have hfit : Payload.Fits .messages
      [("session_id", .str name), ("page_size", .int env.settings.messagesPageSize)]
      [("session_id", .str name), ("page_size", .int env.settings.messagesPageSize)] :=
    .cons (by decide) (fun _ hf => Payload.sends_text hf name)
      (.cons (by decide) (fun _ hf => Payload.sends_integer hf _) .nil)
  have hnodup : ["session_id", "page_size"].Nodup := by decide
  exact gets_of_fits rfl hfit (plain_of_nodup hnodup (by decide))

theorem posts_summaryOf (name : String) (keyId : Option Int) :
    ∃ wire, (summaryOf (.str name) keyId).Posts "/summarize" wire ∧
      wire.Perm (("session_id", .str name) :: idEntry "ai_api_key_id" keyId) := by
  have hfit : Payload.Fits .summary [("session_id", .str name), ("ai_api_key_id", ofId keyId)]
      (("session_id", .str name) :: idEntry "ai_api_key_id" keyId) :=
    .cons (by decide) (fun _ hf => Payload.sends_text hf name)
      (fits_id (by decide) (by decide) keyId)
  have hop : (summaryOf (.str name) keyId).call =
      Operation.post "/summarize" .summary (.entries _) := rfl
  have hnodup : ["session_id", "ai_api_key_id"].Nodup := by decide
  exact posts_of_fits hop hfit (plain_of_nodup hnodup (by decide))

end Operations

section Runs
variable {env : Env} {envs : List Env} {id : Json} {w : Screen} {op : Operation}

theorem Tells.exists_name {turns : List Turn} {summary : Option Summary}
    (h : Tells id envs turns summary) : ∃ name, id = .str name := by
  induction h with
  | selected hid => exact ⟨_, hid⟩
  | idle _ _ _ ih | opened _ _ _ _ _ ih => exact ih

theorem complete_of_browses (h : Browses env (runs {} envs) op) : op.Complete := by
  cases h with
  | statistics sel =>
    obtain ⟨params, hgets, -⟩ := gets_statistics sel
    exact Operation.complete_of_gets hgets
  | list hlists =>
    obtain ⟨p, hp, -⟩ := startPage_of_runs envs
    obtain ⟨⟨sel, rfl⟩, q, -, rfl, -⟩ :=
      query_of_lists (follows_runs envs follows_start) hlists hp
    obtain ⟨params, hgets, -⟩ := gets_listQuery sel q env.settings.sessionsPageSize
    exact Operation.complete_of_gets hgets

theorem complete_of_removes (hnow : ∀ o ∈ env.now.offset, Timestamp.Offset o)
    (h : Removes env (runs {} envs) w op) : op.Complete := by
  cases h with
  | one => exact Operation.complete_of_call rfl rfl
  | selected => exact Operation.complete_of_posts (posts_selected _)
  | @all sel start _ _ hstart =>
    obtain ⟨wire, hposts, -⟩ := posts_deletionBody sel (hstart ▸ hnow) hnow
    exact Operation.complete_of_posts hposts

theorem complete_of_inspects (h : Inspects env (runs {} envs) w op) : op.Complete := by
  cases h with
  | messages hopens =>
    obtain ⟨name, rfl⟩ := (tells_of_opens hopens).1.exists_name
    obtain ⟨params, hgets, -⟩ := gets_messagesOf env name
    exact Operation.complete_of_gets hgets
  | summary keyId hopens =>
    obtain ⟨name, rfl⟩ := (tells_of_opens hopens).1.exists_name
    obtain ⟨wire, hposts, -⟩ := posts_summaryOf name keyId
    exact Operation.complete_of_posts hposts
  | @turn id logs context text keyId hopens =>
    have hplain := (tells_of_opens hopens).1.plain
    have hturns : ∀ t ∈ (runs {} envs).history ++ [{ role := "user", content := text }],
        t.extras = [] := by
      simp only [List.forall_mem_append, List.forall_mem_singleton, and_true]
      exact hplain
    obtain ⟨wire, hposts, -⟩ := posts_converse hturns context keyId
    exact Operation.complete_of_posts hposts

theorem complete_of_upkeep {sel : Selection} (hnow : ∀ o ∈ env.now.offset, Timestamp.Offset o)
    (h : Upkeep env sel op) : op.Complete := by
  cases h with
  | summarize keyId hstart =>
    obtain ⟨wire, hposts, -⟩ := posts_summary sel keyId (hstart ▸ hnow) hnow
    exact Operation.complete_of_posts hposts
  | exportSessions =>
    obtain ⟨params, hgets, -⟩ := gets_exportSessions sel
    exact Operation.complete_of_gets hgets
  | exportLogs => exact complete_exportLogs sel
  | deleteLogs _ _ hstart =>
    obtain ⟨wire, hposts, -⟩ := posts_deleteLogs sel (hstart ▸ hnow) hnow
    exact Operation.complete_of_posts hposts

theorem complete_of_asked (hnow : ∀ o ∈ env.now.offset, Timestamp.Offset o)
    (h : Asked env (runs {} envs) w op) : op.Complete := by
  cases h with
  | keys => exact Operation.complete_of_call rfl rfl
  | browsed h => exact complete_of_browses h
  | removed h => exact complete_of_removes hnow h
  | inspected h => exact complete_of_inspects h
  | upkeep h => exact complete_of_upkeep hnow h

end Runs
end ChatAudit.Console
