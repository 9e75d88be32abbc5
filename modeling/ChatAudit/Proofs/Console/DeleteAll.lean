import ChatAudit.Proofs.Api.Body
import ChatAudit.Proofs.Api.Outcome
import ChatAudit.Proofs.Console.Sidebar

/-! Deletion of all matching sessions: what is deleted is what is listed. -/
namespace ChatAudit.Console
open Api Panel

/-- What deletes all sessions between two points in time that the filters select. -/
def deletionBody (filters : Filters) (start stop : Timestamp) : Dict Json :=
  ("select_all", .bool true) :: filters.between start stop

/-- What is sent for it. -/
def deletionWire (filters : Filters) (start stop : Timestamp) : Dict Json :=
  ("select_all", .bool true) :: sentBetween start stop filters

section Body
variable {env : Env} {sel : Selection} {start stop : Timestamp} {s : Screen}

theorem keys_deletionBody (sel : Selection) (start stop : Timestamp) :
    (deletionBody sel.filters start stop).keys.Sublist
      ("select_all" :: (["time_range", "q", "platform", "model", "user_id", "api_key_id"] ++
        ["start_time", "end_time"])) :=
  (keys_between sel.keys_sublist).cons_cons _

theorem plain_deletionBody (sel : Selection) (start stop : Timestamp) :
    Payload.Plain .sessionDeletion (deletionBody sel.filters start stop) := by
  have hkeys := keys_deletionBody sel start stop
  have hdefaults : ∀ f ∈ Payload.Form.fields .sessionDeletion, f.default.isSome →
      f.key = "select_all" := by decide
  have halternatives : ∀ f ∈ Payload.Form.fields .sessionDeletion, ∀ a ∈ f.alternative,
      a = "query" := by decide
  constructor
  · exact hkeys.nodup (by decide)
  · intro f hf hdefault
    rw [hdefaults f hf hdefault]
    exact List.mem_cons_self
  · intro f hf a ha hm
    rw [halternatives f hf a ha] at hm
    exact absurd (hkeys.subset hm) (by decide)

theorem fits_deletionBody (hstart : ∀ o ∈ start.offset, Timestamp.Offset o)
    (hstop : ∀ o ∈ stop.offset, Timestamp.Offset o) :
    Payload.Fits .sessionDeletion (deletionBody sel.filters start stop)
      (deletionWire sel.filters start stop) := by
  have htext : ∀ key ∈ ["q", "platform", "model"],
      Payload.Form.sessionDeletion.Takes .text key := by decide
  refine .cons (by decide) (fun _ hf => Payload.sends_truth hf true) ?_
  exact fits_between (fun _ he => he) (fun e _ => htext e.1) (by decide) (by decide) hstart hstop

theorem exec_deleteAllBody (h : sel.filters.forBody env.now = .ok (sel.filters.between start stop)) :
    exec (deleteAllBody sel.filters) env s = (.ok (deletionBody sel.filters start stop), s) := by
  have hhas : Dict.has "select_all" (sel.filters.between start stop) = false := by
    refine Bool.eq_false_iff.mpr (mt Dict.has_iff.mp fun hm => ?_)
    have hnodup := (plain_deletionBody sel start stop).nodup
    exact (List.nodup_cons.mp hnodup).1 hm
  rw [deleteAllBody, exec_bind, exec_read]
  dsimp only
  rw [h, exec_bind, exec_ofExcept]
  dsimp only [Except.mapError]
  rw [hhas]
  rfl

theorem exec_deleteAllBody_error {filters : Filters} {fault : Filters.Fault}
    (h : filters.forBody env.now = .error fault) :
    exec (deleteAllBody filters) env s = (.error (.fault (.filters fault)), s) := by
  rw [deleteAllBody, exec_bind, exec_read]
  dsimp only
  rw [h, exec_bind, exec_ofExcept]
  rfl

end Body

section List
variable {env : Env} {sel : Selection} {s : Screen}

/-- What the list of sessions is asked for. -/
def listQuery (filters : Filters) (page : Json) (size : Int) : Filters :=
  filters ++ [("page", page), ("page_size", .int size)]

theorem listQuery_eq (sel : Selection) (page : Json) (size : Int) :
    (sel.filters.put "page" page).put "page_size" (.int size) = listQuery sel.filters page size := by
  have hpage : sel.filters.put "page" page = sel.filters ++ [("page", page)] :=
    Dict.put_of_not_mem (sel.not_mem_keys (by decide))
  have hsize : "page_size" ∉ Dict.keys (sel.filters ++ [("page", page)]) := by
    have hfilters := sel.not_mem_keys (by decide : "page_size" ∉
      ["time_range", "q", "platform", "model", "user_id", "api_key_id"])
    simpa [Dict.keys_append, Dict.keys] using hfilters
  rw [hpage, Dict.put_of_not_mem hsize, List.append_assoc]
  rfl

theorem exec_sessionsQuery (sel : Selection) (size : Int) (env : Env) (s : Screen) :
    ∃ t, exec (sessionsQuery sel.filters size) env s =
      (.ok (listQuery sel.filters (t.state.value (Pager.pageKey sessionsKey)) size), t) := by
  let t := s.store fun st => { st with values := Pager.sync sel.filters sessionsKey st.values }
  let page := t.state.value (Pager.pageKey sessionsKey)
  have hexec : exec (sessionsQuery sel.filters size) env s =
      (.ok ((sel.filters.put "page" page).put "page_size" (.int size)), t) := rfl
  exact ⟨t, by rw [hexec, listQuery_eq]⟩

theorem plain_sessions {d : Dict Json}
    (hkeys : d.keys.Sublist (["time_range", "q", "platform", "model", "user_id", "api_key_id"] ++
      ["page", "page_size"])) : Payload.Plain .sessions d := by
  have hdefaults : ∀ f ∈ Payload.Form.fields .sessions, f.default.isSome = false := by decide
  have halternatives : ∀ f ∈ Payload.Form.fields .sessions, ∀ a ∈ f.alternative,
      a = "query" := by decide
  refine ⟨hkeys.nodup (by decide), fun f hf h => ?_, fun f hf a ha hm => ?_⟩
  · rw [hdefaults f hf] at h
    cases h
  · rw [halternatives f hf a ha] at hm
    exact absurd (hkeys.subset hm) (by decide)

theorem fits_sessions (sel : Selection) : Payload.Fits .sessions sel.filters sel.filters := by
  have htext : ∀ key ∈ ["time_range", "q", "platform", "model"],
      Payload.Form.sessions.Takes .text key := by decide
  have hint : ∀ key ∈ ["user_id", "api_key_id"],
      Payload.Form.sessions.Takes .integer key := by decide
  exact fits_of_takes (fun _ he => he) (fun e _ => htext e.1) fun e _ => hint e.1

/-- All filters are sent, and besides them only the page and its size. -/
theorem gets_listQuery (sel : Selection) (page size : Int) :
    ∃ params, (Operation.listSessions (.entries (listQuery sel.filters (.int page) size))).Gets
      "/sessions" params ∧ params.Perm (listQuery sel.filters (.int page) size) := by
  have hkeys : (listQuery sel.filters (.int page) size).keys.Sublist
      (["time_range", "q", "platform", "model", "user_id", "api_key_id"] ++
        ["page", "page_size"]) := by
    rw [listQuery, Dict.keys_append]
    exact sel.keys_sublist.append (.refl _)
  have hpage : Payload.Fits .sessions [("page", .int page), ("page_size", .int size)]
      [("page", .int page), ("page_size", .int size)] :=
    .cons (by decide) (fun _ hf => Payload.sends_integer hf page)
      (.cons (by decide) (fun _ hf => Payload.sends_integer hf size) .nil)
  exact gets_of_fits rfl ((fits_sessions sel).append hpage) (plain_sessions hkeys)

/-- The export of sessions is asked for with the filters as they are. -/
theorem gets_exportSessions (sel : Selection) :
    ∃ params, (Operation.exportSessions (.entries sel.filters)).Gets "/sessions/export" params ∧
      params.Perm sel.filters :=
  gets_of_fits rfl (fits_sessions sel)
    (plain_sessions (sel.keys_sublist.trans (List.sublist_append_left _ _)))

end List

section Action
variable {env : Env} {filters : Filters} {body : Dict Json}

theorem asks_deleteSessions (body : Dict Json) :
    Asks env (deleteSessions body) (.deleteSessions (.entries body)) :=
  .ask fun answer => by
    cases answer with
    | ok d => exact ((Draws.write _ _).bind fun _ _ => .returns _).calm
    | error f => exact ((Draws.write _ _).bind fun _ _ => .returns _).calm

/-- Whether the user confirms and presses the button for all matching sessions, and not the one for
the ticked ones. -/
def Env.DeletesAll (env : Env) : Prop :=
  env.pressed "Confirm delete of all matching sessions" ∧ env.pressed "Delete all matching" ∧
    ∀ n : Nat, env.pressed ("Delete selected (" ++ toString n ++ ")") = false

theorem asks_bulkActions (henv : env.DeletesAll) (sessions : List Session)
    (hbody : ∀ s, exec (deleteAllBody filters) env s = (.ok body, s)) :
    Asks env (bulkActions sessions filters) (.deleteSessions (.entries body)) := by
  obtain ⟨hbox, hall, hselected⟩ := henv
  unfold bulkActions
  refine .bind (Draws.getState.bind fun _ _ => .returns _).calm fun ids _ => ?_
  refine .bind (Draws.row _ _ _).calm fun columns _ => ?_
  have hfirst : Draws env (within (columns.getD 0 "") do
      let pressed ← button ("Delete selected (" ++ toString ids.length ++ ")") none
        (some ids.isEmpty)
      if !pressed then return none
      return some (← deleteSessions [("session_ids", .arr (ids.map .str))])) (· = none) := by
    refine .within _ ((Draws.button _ _ _ _).bind fun pressed hpressed => ?_)
    have hoff : pressed = false := by
      rw [hpressed, Option.getD_none, hselected, Bool.false_and]
    rw [hoff]
    exact .pure rfl
  refine .bind hfirst.calm fun r hr => ?_
  rw [hr]
  refine .within _ ?_
  refine .bind (Draws.checkbox _ _).calm fun confirmed hconfirmed => ?_
  refine .bind (Draws.button _ _ _ _).calm fun pressed hpressed => ?_
  have hon : pressed = true := by
    rw [hpressed, hconfirmed, Option.getD_none, hall, hbox]
    rfl
  rw [hon]
  have hcalm : Calm env (deleteAllBody filters) (· = body) :=
    fun s => ⟨body, s, hbody s, rfl, rfl⟩
  refine .bind hcalm fun _ heq => ?_
  rw [heq]
  exact asks_deleteSessions body

end Action

section Match
variable {env : Env} (hnow : ∀ o ∈ env.now.offset, Timestamp.Offset o)

include hnow

/-- Deleting all matching sessions posts every filter as it is set, with the two ends of the chosen
range instead of the range. The list is asked for with the same filters. Only a range that reaches
back before the first year has no body. -/
theorem deleteAll_matches_list (keys : List ApiKey) (defaultRange : String) :
    ∃ filters range seconds, (∀ s, ∃ t, exec (sidebar keys defaultRange) env s = (.ok filters, t)) ∧
      filters.lookup? "time_range" = some (.str range) ∧ (range, seconds) ∈ rangeLengths ∧
      (seconds * 1000000 ≤ env.now.clock → ∃ start body wire,
        start.Before (seconds * 1000000) env.now ∧
        (∀ u, exec (deleteAllBody filters) env u = (.ok body, u)) ∧
        (Operation.deleteSessions (.entries body)).Posts "/sessions/bulk-delete" wire ∧
        wire.Perm (deletionWire filters start env.now) ∧
        (env.DeletesAll → ∀ sessions,
          Asks env (bulkActions sessions filters) (.deleteSessions (.entries body)))) ∧
      (env.now.clock < seconds * 1000000 → ∀ u, exec (deleteAllBody filters) env u =
        (.error (.fault (.filters (.window .beforeFirstYear))), u)) ∧
      ∀ size u, ∃ query v, exec (sessionsQuery filters size) env u = (.ok query, v) ∧
        ∀ page, v.state.value (Pager.pageKey sessionsKey) = .int page →
          ∃ params, (Operation.listSessions (.entries query)).Gets "/sessions" params ∧
            params.Perm (filters ++ [("page", .int page), ("page_size", .int size)]) := by
  let sel := env.selection keys defaultRange
  obtain ⟨seconds, hmem, hlength⟩ := sel.exists_length
  refine ⟨sel.filters, sel.range, seconds, exec_sidebar env keys defaultRange, sel.lookup?_range, hmem,
    fun hle => ?_, fun hlt u => ?_, fun size u => ?_⟩
  · obtain ⟨start, hbounds, hbefore⟩ := Window.bounds_of_le hlength hle
    have hbody : sel.filters.forBody env.now = .ok (sel.filters.between start env.now) :=
      Filters.forBody_of_bounds sel.lookup?_range sel.range_ne (sel.not_mem_keys (by decide))
        (sel.not_mem_keys (by decide)) hbounds
    have hstart : ∀ o ∈ start.offset, Timestamp.Offset o := hbefore.2 ▸ hnow
    have hop : (Operation.deleteSessions (.entries (deletionBody sel.filters start env.now))).call =
        Operation.post "/sessions/bulk-delete" .sessionDeletion (.entries _) := rfl
    obtain ⟨wire, hposts, hperm⟩ := posts_of_fits hop (fits_deletionBody hstart hnow)
      (plain_deletionBody sel start env.now)
    exact ⟨start, _, wire, hbefore, fun u => exec_deleteAllBody hbody, hposts, hperm,
      fun henv sessions => asks_bulkActions henv sessions fun u => exec_deleteAllBody hbody⟩
  · exact exec_deleteAllBody_error
      (Filters.forBody_of_error sel.lookup?_range sel.range_ne (Window.bounds_of_lt hlength hlt))
  · obtain ⟨v, hquery⟩ := exec_sessionsQuery sel size env u
    refine ⟨_, v, hquery, fun page hpage => ?_⟩
    rw [hpage]
    exact gets_listQuery sel page size

end Match

theorem limit_pos : 0 < Calendar.limit := by decide

/-- The first moment of the calendar. -/
def firstMoment : Timestamp := ⟨0, some 0, limit_pos⟩

def noon : Timestamp :=
  ⟨Calendar.Date.toDays ⟨2026, 10, 19⟩ * Calendar.dayLength + 43200000000, some 0, by decide⟩

theorem offset_noon : ∀ o ∈ noon.offset, Timestamp.Offset o := by
  rintro o ⟨⟩
  exact (by decide : (0 : Int).natAbs < 1440)

def dayBefore : Timestamp :=
  ⟨Calendar.Date.toDays ⟨2026, 10, 18⟩ * Calendar.dayLength + 43200000000, some 0, by decide⟩

/-- A user who looks for a keyword and has all matching sessions deleted. -/
def searchAt (now : Timestamp) : Env where
  client := gateway
  settings := .ofEnvironment []
  now
  widgets := [("Keyword", .str " ssh key "), ("User ID", .str "42"),
    ("Confirm delete of all matching sessions", .bool true), ("Delete all matching", .bool true)]
  gateway _ := .lost ""

def searchFilters : Filters :=
  [("time_range", .str "24h"), ("q", .str "ssh key"), ("user_id", .int 42)]

theorem selection_searchAt (now : Timestamp) : (searchAt now).selection [] "24h" =
    ⟨"24h", "ssh key", "", "", some 42, none, by decide⟩ := by
  have hkeyword : Text.strip " ssh key " = "ssh key" := by decide +kernel
  have hmodel : Text.strip "" = "" := by decide +kernel
  have hid : idOf "42" = some 42 := by decide +kernel
  simp [Env.selection, Env.typed, Env.chosen, Env.chosenKey, Env.entered, searchAt, Dict.lookup?,
    hkeyword, hmodel, hid, timeRanges, platforms, keyChoices, Dict.ofPairs, Dict.put, rangeIndex]

theorem exec_sidebar_searchAt (now : Timestamp) (s : Screen) :
    ∃ t, exec (sidebar [] "24h") (searchAt now) s = (.ok searchFilters, t) := by
  obtain ⟨t, hexec⟩ := exec_sidebar (searchAt now) [] "24h" s
  rw [selection_searchAt] at hexec
  exact ⟨t, hexec⟩

theorem deletesAll_searchAt (now : Timestamp) : (searchAt now).DeletesAll := by
  have hkeys : ∀ key ∈ Dict.keys (searchAt noon).widgets,
      key.toList.take 17 ≠ "Delete selected (".toList := by decide +kernel
  refine ⟨?_, ?_, fun n => ?_⟩
  · simp [Env.pressed, Env.entered, searchAt, Dict.lookup?, Json.present]
  · simp [Env.pressed, Env.entered, searchAt, Dict.lookup?, Json.present]
  · have hnone : (searchAt now).widgets.lookup? ("Delete selected (" ++ toString n ++ ")") = none :=
      Dict.lookup?_eq_none_iff.mpr fun hm => hkeys _ hm (by simp)
    rw [Env.pressed, Env.entered, hnone]
    rfl

theorem search_deleteAll :
    (∀ o ∈ (searchAt noon).now.offset, Timestamp.Offset o) ∧ (searchAt noon).DeletesAll ∧
      ∃ body wire, (Operation.deleteSessions (.entries body)).Posts "/sessions/bulk-delete" wire ∧
        wire.Perm [("select_all", .bool true), ("q", .str "ssh key"), ("user_id", .int 42),
          ("start_time", .str "2026-10-18T12:00:00Z"), ("end_time", .str "2026-10-19T12:00:00Z")] ∧
        ∀ sessions, Asks (searchAt noon) (bulkActions sessions searchFilters)
          (.deleteSessions (.entries body)) := by
  have hnow : ∀ o ∈ (searchAt noon).now.offset, Timestamp.Offset o := offset_noon
  obtain ⟨filters, range, seconds, hexec, hrange, hmem, hbody, -, -⟩ :=
    deleteAll_matches_list hnow [] "24h"
  obtain ⟨t, hfilters⟩ := exec_sidebar_searchAt noon { state := {} }
  obtain ⟨t', hfilters'⟩ := hexec { state := {} }
  obtain rfl : searchFilters = filters :=
    Except.ok.inj (Prod.mk.inj (hfilters.symm.trans hfilters')).1
  obtain rfl : "24h" = range := Json.str.inj (Option.some.inj hrange)
  obtain rfl : 86400 = seconds := by simpa [rangeLengths, eq_comm] using hmem
  obtain ⟨start, body, wire, ⟨hclock, hoffset⟩, -, hposts, hperm, hasks⟩ := hbody (by decide)
  have hstart : start = dayBefore := by
    obtain ⟨clock, offset, hlt⟩ := start
    obtain rfl : offset = some 0 := hoffset
    obtain rfl : clock = dayBefore.clock := by
      have hnoon : (searchAt noon).now.clock = dayBefore.clock + 86400 * 1000000 := by decide
      dsimp only at hclock
      omega
    rfl
  have hfrom : dayBefore.wire = "2026-10-18T12:00:00Z" := by decide +kernel
  have hto : noon.wire = "2026-10-19T12:00:00Z" := by decide +kernel
  rw [hstart, deletionWire, sentBetween, hfrom, show (searchAt noon).now = noon from rfl, hto] at hperm
  exact ⟨hnow, deletesAll_searchAt noon, body, wire, hposts, hperm, hasks (deletesAll_searchAt noon)⟩

/-- On the first day no range has a start, so nothing can be deleted. -/
theorem search_deleteAll_firstMoment : ∃ filters t fault,
    exec (sidebar [] "24h") (searchAt firstMoment) { state := {} } = (.ok filters, t) ∧
      (searchAt firstMoment).DeletesAll ∧
      (exec (deleteAllBody filters) (searchAt firstMoment) t).1 = .error (.fault fault) := by
  obtain ⟨t, hexec⟩ := exec_sidebar_searchAt firstMoment { state := {} }
  have hlength : Window.length "24h" = .ok 86400 := by decide +kernel
  have hbounds : Window.bounds "24h" firstMoment = .error .beforeFirstYear :=
    Window.bounds_of_lt hlength (by decide)
  have hbody : exec (deleteAllBody searchFilters) (searchAt firstMoment) t =
      (.error (.fault (.filters (.window .beforeFirstYear))), t) :=
    exec_deleteAllBody_error (Filters.forBody_of_error rfl (by decide) hbounds)
  exact ⟨_, t, _, hexec, deletesAll_searchAt _, congrArg Prod.fst hbody⟩

end ChatAudit.Console
