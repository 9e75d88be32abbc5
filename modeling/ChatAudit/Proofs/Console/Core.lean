import ChatAudit.Proofs.Console.Conversation

/-! The part of the state that decides how later runs go. -/
namespace ChatAudit.Console

/-- The stored page and the filters that it belongs to, the selected session, and what was said and
summarized about it. -/
structure Core where
  page : Option Json
  filters : Option Json
  current : Json
  history : List Turn
  summary : Option Summary

def State.core (s : State) : Core where
  page := s.values.lookup? "sessions_page"
  filters := s.values.lookup? "sessions_filters"
  current := s.value "current_session_id"
  history := s.history
  summary := s.summary.join

/-- The core once the list of sessions is asked for. -/
def Core.synced (filters : Filters) (c : Core) : Core :=
  if c.filters.elim false (Json.equal (.obj filters)) then c
  else { c with page := some (.int 1), filters := some (.obj filters) }

/-- Asking for the list leaves what belongs to a session as it is. -/
theorem Core.synced_eq (filters : Filters) (c : Core) : c.synced filters =
    { c with page := (c.synced filters).page, filters := (c.synced filters).filters } := by
  unfold Core.synced
  split_ifs <;> rfl

theorem Core.current_synced (filters : Filters) (c : Core) :
    (c.synced filters).current = c.current := by
  rw [Core.synced_eq]

theorem Core.history_synced (filters : Filters) (c : Core) :
    (c.synced filters).history = c.history := by
  rw [Core.synced_eq]

theorem pageKey_sessions : Pager.pageKey sessionsKey = "sessions_page" := rfl

theorem filtersKey_sessions : Pager.filtersKey sessionsKey = "sessions_filters" := rfl

namespace State

theorem core_put_current (v : Json) (s : State) :
    (s.put "current_session_id" v).core = { s.core with current := v } := by
  simp [core, put, value, Dict.lookup?_put, history]

theorem core_put_page (v : Json) (s : State) :
    (s.put (Pager.pageKey sessionsKey) v).core = { s.core with page := some v } := by
  simp [core, put, value, Dict.lookup?_put, history, pageKey_sessions]

/-- Whether an entry is none of those in the core. -/
def Apart (key : String) : Prop :=
  key ∉ ["sessions_page", "sessions_filters", "current_session_id"]

instance : DecidablePred Apart := fun _ => inferInstanceAs (Decidable (_ ∉ _))

theorem core_put_of_apart {key : String} (h : Apart key) (v : Json) (s : State) :
    (s.put key v).core = s.core := by
  simp only [Apart, List.mem_cons, List.not_mem_nil, or_false, not_or] at h
  simp [core, put, value, Dict.lookup?_put, history, h]

theorem apart_bulkKey (id : String) : Apart (bulkKey id) := by
  have hhead : ∀ key ∈ ["sessions_page", "sessions_filters", "current_session_id"],
      key.toList.head? ≠ some 'b' := by decide
  intro hm
  exact hhead _ hm (by simp [bulkKey])

theorem core_init (s : State) :
    s.init.core = { s.core with page := some (s.core.page.getD (.int 1)) } := by
  have hsummary : (some (s.summary.getD none)).join = s.summary.join := by
    cases s.summary <;> rfl
  cases hcurrent : s.values.lookup? "current_session_id" <;>
    cases hpage : s.values.lookup? "sessions_page" <;>
    simp [core, init, value, history, Dict.has, Dict.lookup?_put, hcurrent, hpage] <;>
    exact hsummary

theorem core_sync (filters : Filters) (s : State) :
    { s with values := Pager.sync filters sessionsKey s.values : State }.core =
      s.core.synced filters := by
  unfold Pager.sync Core.synced
  rw [filtersKey_sessions, pageKey_sessions]
  by_cases hknown : (s.values.lookup? "sessions_filters").elim false (Json.equal (.obj filters))
  · simp [core, hknown, value, history]
  · simp [core, hknown, value, history, Dict.lookup?_put]

end State

section Screen
variable {env : Env} {s : Screen}

theorem core_sent (op : Api.Operation) : (s.sent env op).state.core = s.state.core :=
  congrArg State.core Screen.state_sent

theorem core_put_page (v : Json) : (s.store (·.put (Pager.pageKey sessionsKey) v)).state.core =
    { s.state.core with page := some v } := State.core_put_page v s.state

theorem core_put_current (v : Json) : (s.store (·.put "current_session_id" v)).state.core =
    { s.state.core with current := v } := State.core_put_current v s.state

theorem core_summarized (summary : Summary) :
    (s.store fun st => { st with summary := some (some summary) }).state.core =
      { s.state.core with summary := some summary } := rfl

theorem core_withHistory (turns : List Turn) :
    (s.store (.withHistory turns)).state.core = { s.state.core with history := turns } := rfl

end Screen
end ChatAudit.Console
