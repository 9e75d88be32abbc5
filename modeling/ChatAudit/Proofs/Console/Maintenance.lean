import ChatAudit.Proofs.Console.DeleteAll
import ChatAudit.Proofs.Console.Views

/-! Which filters the deletion of logs and the summary of a window keep to. -/
namespace ChatAudit.Console
open Api Panel

/-- Whether what is sent is restricted by a filter; a range stands for its two ends. -/
def Restricts (wire : Dict Json) (filter : String × Json) : Prop :=
  if filter.1 = "time_range" then "start_time" ∈ wire.keys ∧ "end_time" ∈ wire.keys
  else filter ∈ wire

section Restricts
variable {w wire : Dict Json} {filter : String × Json} {start stop : Timestamp} {d : Filters}

theorem restricts_congr (h : wire.Perm w) : Restricts wire filter ↔ Restricts w filter := by
  have hkeys (key : String) : key ∈ wire.keys ↔ key ∈ w.keys := (h.map Prod.fst).mem_iff
  unfold Restricts
  split_ifs
  · rw [hkeys, hkeys]
  · exact h.mem_iff

theorem keys_ends (d : Filters) (start stop : Timestamp) :
    "start_time" ∈ (sentBetween start stop d).keys ∧ "end_time" ∈ (sentBetween start stop d).keys := by
  simp [sentBetween, Dict.keys]

/-- Between its ends a request keeps to the filters that it was made from. -/
theorem restricts_sentBetween (h : filter.1 ∉ ["start_time", "end_time"]) :
    Restricts (sentBetween start stop d) filter ↔ filter.1 = "time_range" ∨ filter ∈ d := by
  simp only [List.mem_cons, List.not_mem_nil, or_false, not_or] at h
  unfold Restricts
  split_ifs with hrange
  · exact iff_of_true (keys_ends d start stop) (.inl hrange)
  · have hends : filter ∉
        [("start_time", Json.str start.wire), ("end_time", Json.str stop.wire)] := by
      rintro hm
      simp only [List.mem_cons, List.not_mem_nil, or_false] at hm
      rcases hm with rfl | rfl
      · exact h.1 rfl
      · exact h.2 rfl
    rw [sentBetween, List.mem_append, Dict.mem_without]
    simp [hrange, hends]

end Restricts

section Bodies
variable {env : Env} {sel : Selection} {start stop : Timestamp} {filter : String × Json}

theorem mem_forLogs {filters : Filters} :
    filter ∈ filters.forLogs ↔ filter ∈ filters ∧ filter.1 ≠ "q" := Dict.mem_without

theorem lookup?_forLogs (sel : Selection) :
    (Filters.forLogs sel.filters).lookup? "time_range" = some (.str sel.range) :=
  (Dict.lookup?_without (by decide)).trans sel.lookup?_range

theorem keys_logs (sel : Selection) (start stop : Timestamp) :
    (Filters.between start stop (Filters.forLogs sel.filters)).keys.Sublist
      (["time_range", "q", "platform", "model", "user_id", "api_key_id"] ++
        ["start_time", "end_time"]) :=
  keys_between ((Dict.keys_without "q" sel.filters).trans sel.keys_sublist)

/-- A form without defaults and other names takes all entries as they are. -/
theorem plain_of_nodup {form : Payload.Form} {d : Dict Json} (hd : d.keys.Nodup)
    (hform : ∀ f ∈ form.fields, f.default.isNone ∧ f.alternative = none) :
    Payload.Plain form d := by
  refine ⟨hd, fun f hf h => ?_, fun f hf a ha => ?_⟩
  · rw [Option.isNone_iff_eq_none.mp (hform f hf).1] at h
    cases h
  · rw [(hform f hf).2] at ha
    cases ha

/-- The deletion of logs keeps to every filter but the keyword. -/
theorem posts_deleteLogs (sel : Selection) (hstart : ∀ o ∈ start.offset, Timestamp.Offset o)
    (hstop : ∀ o ∈ stop.offset, Timestamp.Offset o) :
    ∃ wire, (Operation.deleteLogs
        (.entries (Filters.between start stop (Filters.forLogs sel.filters)))).Posts
      "/logs/delete" wire ∧
      wire.Perm (sentBetween start stop (Filters.forLogs sel.filters)) := by
  have htext : ∀ key ∈ ["q", "platform", "model"], key ≠ "q" →
      Payload.Form.logDeletion.Takes .text key := by decide
  have hfit : Payload.Fits .logDeletion
      (Filters.between start stop (Filters.forLogs sel.filters))
      (sentBetween start stop (Filters.forLogs sel.filters)) :=
    fits_between (fun _ he => (mem_forLogs.mp he).1)
      (fun e he hkey => htext e.1 hkey (mem_forLogs.mp he).2) (by decide) (by decide) hstart hstop
  have hop : (Operation.deleteLogs
      (.entries (Filters.between start stop (Filters.forLogs sel.filters)))).call =
        Operation.post "/logs/delete" .logDeletion (.entries _) := rfl
  exact posts_of_fits hop hfit
    (plain_of_nodup ((keys_logs sel start stop).nodup (by decide)) (by decide))

theorem restricts_sentLogs (h : filter ∈ sel.filters) :
    Restricts (sentBetween start stop (Filters.forLogs sel.filters)) filter ↔
      filter.1 ≠ "q" := by
  have hkeys : ∀ key ∈ ["start_time", "end_time"],
      key ∉ ["time_range", "q", "platform", "model", "user_id", "api_key_id"] := by decide
  have hends : filter.1 ∉ ["start_time", "end_time"] := fun hm =>
    hkeys _ hm (sel.keys_sublist.subset (Dict.mem_keys h))
  rw [restricts_sentBetween hends, mem_forLogs]
  constructor
  · rintro (hrange | ⟨-, hne⟩)
    · simp [hrange]
    · exact hne
  · exact fun hne => .inr ⟨h, hne⟩

/-- What is sent to summarize a window: its two ends and ids alone. -/
def summaryWire (sel : Selection) (keyId : Option Int) (start stop : Timestamp) : Dict Json :=
  [("start_time", .str start.wire), ("end_time", .str stop.wire)] ++
    (idEntry "user_id" sel.userId ++ (idEntry "api_key_id" sel.keyId ++
      idEntry "ai_api_key_id" keyId))

def summaryBody (sel : Selection) (keyId : Option Int) (start stop : Timestamp) : Dict Json :=
  [("start_time", .str start.iso), ("end_time", .str stop.iso), ("user_id", ofId sel.userId),
    ("api_key_id", ofId sel.keyId), ("ai_api_key_id", ofId keyId)]

theorem posts_summary (sel : Selection) (keyId : Option Int)
    (hstart : ∀ o ∈ start.offset, Timestamp.Offset o)
    (hstop : ∀ o ∈ stop.offset, Timestamp.Offset o) :
    ∃ wire, (Operation.summarize (.entries (summaryBody sel keyId start stop))).Posts
      "/summarize" wire ∧ wire.Perm (summaryWire sel keyId start stop) := by
  have hids : ∀ key ∈ ["user_id", "api_key_id", "ai_api_key_id"],
      Payload.Form.summary.Takes .integer key := by decide
  have hleaves : ∀ key ∈ ["user_id", "api_key_id", "ai_api_key_id"],
      Payload.Form.summary.Leaves key := by decide
  have hid (key : String) (h : key ∈ ["user_id", "api_key_id", "ai_api_key_id"])
      (id : Option Int) : Payload.Fits .summary [(key, ofId id)] (idEntry key id) :=
    fits_id (hids key h) (hleaves key h) id
  have hidsFit := (hid "user_id" (by decide) sel.userId).append
    ((hid "api_key_id" (by decide) sel.keyId).append
      (hid "ai_api_key_id" (by decide) keyId))
  have hfit : Payload.Fits .summary (summaryBody sel keyId start stop)
      (summaryWire sel keyId start stop) :=
    .cons (by decide) (fun _ hf => Payload.sends_instant hf hstart)
      (.cons (by decide) (fun _ hf => Payload.sends_instant hf hstop) hidsFit)
  have hop : (Operation.summarize (.entries (summaryBody sel keyId start stop))).call =
      Operation.post "/summarize" .summary (.entries _) := rfl
  have hnodup : ["start_time", "end_time", "user_id", "api_key_id", "ai_api_key_id"].Nodup := by
    decide
  exact posts_of_fits hop hfit (plain_of_nodup hnodup (by decide))

theorem exec_windowBody (keyId : Option Int) {s : Screen}
    (h : (Filters.forLogs sel.filters).forBody env.now =
      .ok (Filters.between start stop (Filters.forLogs sel.filters))) :
    exec (windowBody sel.filters keyId) env s = (.ok (summaryBody sel keyId start stop), s) := by
  have hnodup : (Filters.between start stop (Filters.forLogs sel.filters)).keys.Nodup :=
    (keys_logs sel start stop).nodup (by decide)
  have hstart : (Filters.between start stop (Filters.forLogs sel.filters)).lookup? "start_time" =
      some (.str start.iso) :=
    (Dict.lookup?_eq_some_iff hnodup).mpr (by simp [Filters.between])
  have hend : (Filters.between start stop (Filters.forLogs sel.filters)).lookup? "end_time" =
      some (.str stop.iso) :=
    (Dict.lookup?_eq_some_iff hnodup).mpr (by simp [Filters.between])
  have hid {key : String} (hends : key ∉ ["start_time", "end_time"])
      (hfilters : key ≠ "q" ∧ key ≠ "time_range") :
      (Filters.between start stop (Filters.forLogs sel.filters)).lookup? key =
        sel.filters.lookup? key := by
    rw [Filters.between, Dict.lookup?_append hends, Dict.lookup?_without hfilters.2,
      Filters.forLogs, Dict.lookup?_without hfilters.1]
  rw [windowBody, exec_bind, exec_read]
  dsimp only
  rw [h, exec_bind, exec_ofExcept]
  dsimp only [Except.mapError]
  rw [exec_pure, hstart, hend, hid (by decide) (by decide), hid (by decide) (by decide),
    sel.lookup?_ids.1, sel.lookup?_ids.2]
  rfl

theorem keys_idEntry (key : String) (id : Option Int) : (idEntry key id).keys.Sublist [key] := by
  cases id with
  | none => exact List.nil_sublist _
  | some n => exact .refl _

theorem mem_idEntry {key : String} {id : Option Int} (h : isSet (ofId id)) :
    (key, ofId id) ∈ idEntry key id := by
  cases id with
  | none => cases h
  | some n => exact List.mem_cons_self

/-- The summary of a window keeps to the range and to the ids. -/
theorem restricts_summaryWire (keyId : Option Int) (h : filter ∈ sel.filters) :
    Restricts (summaryWire sel keyId start stop) filter ↔
      filter.1 ∉ ["q", "platform", "model"] := by
  have hids : (idEntry "user_id" sel.userId ++ (idEntry "api_key_id" sel.keyId ++
      idEntry "ai_api_key_id" keyId)).keys.Sublist
      (["user_id"] ++ (["api_key_id"] ++ ["ai_api_key_id"])) := by
    rw [Dict.keys_append, Dict.keys_append]
    exact (keys_idEntry _ _).append ((keys_idEntry _ _).append (keys_idEntry _ _))
  have hkeys : (summaryWire sel keyId start stop).keys.Sublist
      ["start_time", "end_time", "user_id", "api_key_id", "ai_api_key_id"] :=
    (hids.cons_cons _).cons_cons _
  have habsent {e : String × Json}
      (he : e.1 ∉ ["start_time", "end_time", "user_id", "api_key_id", "ai_api_key_id"]) :
      e ∉ summaryWire sel keyId start stop := fun hm => he (hkeys.subset (Dict.mem_keys hm))
  obtain ⟨hmem, hset⟩ := List.mem_filter.mp h
  simp only [List.mem_cons, List.not_mem_nil, or_false] at hmem
  unfold Restricts
  rcases hmem with rfl | rfl | rfl | rfl | rfl | rfl
  · simp [summaryWire, Dict.keys]
  · exact iff_of_false (habsent (by simp)) (by simp)
  · exact iff_of_false (habsent (by simp)) (by simp)
  · exact iff_of_false (habsent (by simp)) (by simp)
  · exact iff_of_true (by simp [summaryWire, mem_idEntry hset]) (by simp)
  · exact iff_of_true (by simp [summaryWire, mem_idEntry hset]) (by simp)

end Bodies

section Panels
variable {env : Env}

theorem asks_deleteLogs {filters : Filters} {body : Dict Json}
    (hbox : env.pressed "confirm_delete_logs") (hbutton : env.pressed "Delete matching logs")
    (hbody : filters.forBody env.now = .ok body) :
    Asks env (deleteLogs filters) (.deleteLogs (.entries body)) := by
  unfold deleteLogs
  refine .bind (Draws.write _ _).calm fun _ _ => ?_
  refine .bind (Calm.checkbox _ _ _) fun confirmed hconfirmed => ?_
  refine .bind (Draws.button _ _ _ _).calm fun pressed hpressed => ?_
  have hon : pressed = true := by
    rw [hpressed, hconfirmed, Option.getD_none, hbutton, hbox]
    rfl
  rw [hon]
  refine .bind Draws.read.calm fun env' henv => ?_
  rw [henv, hbody]
  refine .bind (Draws.pure rfl : Draws env (pure body) (· = body)).calm fun _ heq => ?_
  rw [heq]
  refine .ask fun answer => ?_
  cases answer with
  | ok d => exact ((Draws.write _ _).bind fun _ _ => .returns _).calm
  | error f => exact ((Draws.write _ _).bind fun _ _ => .returns _).calm

theorem calm_chooseAssistantKey (keys : List ApiKey) (key : String) :
    Calm env (chooseAssistantKey keys key)
      (· = env.chosenKey key "Server default" (keys.filter (·.status == "active"))) :=
  (Calm.selectbox _ _ _ _ _ _).bind fun _ h => (Draws.pure (by rw [h]; rfl)).calm

theorem asks_summarizeWindow {filters : Filters} {keys : List ApiKey} {body : Dict Json}
    (hbutton : env.pressed "Summarize window")
    (hbody : ∀ s, exec (windowBody filters (env.chosenKey "window_ai_api_key" "Server default"
      (keys.filter (·.status == "active")))) env s = (.ok body, s)) :
    Asks env (summarizeWindow filters keys) (.summarize (.entries body)) := by
  unfold summarizeWindow
  refine .bind (Draws.write _ _).calm fun _ _ => ?_
  refine .bind (Draws.write _ _).calm fun _ _ => ?_
  refine .bind (calm_chooseAssistantKey _ _) fun keyId hkeyId => ?_
  refine .bind (Draws.button _ _ _ _).calm fun pressed hpressed => ?_
  have hon : pressed = true := by
    rw [hpressed, Option.getD_none, hbutton]
    rfl
  rw [hon, hkeyId]
  have hcalm : Calm env (windowBody filters (env.chosenKey "window_ai_api_key" "Server default"
      (keys.filter (·.status == "active")))) (· = body) := fun s => ⟨body, s, hbody s, rfl, rfl⟩
  refine .bind hcalm fun _ heq => ?_
  rw [heq]
  refine .bind (Draws.container _ _ _).calm fun spinner _ => .within _ ?_
  refine .ask fun answer => ?_
  cases answer with
  | ok s => exact (draws_showSummary s).calm
  | error f => exact (Draws.write _ _).calm

end Panels

section Match
variable {env : Env} (hnow : ∀ o ∈ env.now.offset, Timestamp.Offset o)

include hnow

/-- The deletion of logs keeps to every filter that is set but the keyword, the summary of a window
to none but the range and the ids. -/
theorem maintenance_restricts_iff (keys : List ApiKey) (defaultRange : String) :
    ∃ filters range seconds, (∀ s, ∃ t, exec (sidebar keys defaultRange) env s = (.ok filters, t)) ∧
      filters.lookup? "time_range" = some (.str range) ∧ (range, seconds) ∈ rangeLengths ∧
      (seconds * 1000000 ≤ env.now.clock →
        (∃ body wire,
          (env.pressed "confirm_delete_logs" → env.pressed "Delete matching logs" →
            Asks env (deleteLogs filters.forLogs) (.deleteLogs (.entries body))) ∧
          (Operation.deleteLogs (.entries body)).Posts "/logs/delete" wire ∧
          ∀ filter ∈ filters, Restricts wire filter ↔ filter.1 ≠ "q") ∧
        ∃ body wire,
          (env.pressed "Summarize window" →
            Asks env (summarizeWindow filters keys) (.summarize (.entries body))) ∧
          (Operation.summarize (.entries body)).Posts "/summarize" wire ∧
          ∀ filter ∈ filters, Restricts wire filter ↔
            filter.1 ∉ ["q", "platform", "model"]) := by
  let sel := env.selection keys defaultRange
  obtain ⟨seconds, hmem, hlength⟩ := sel.exists_length
  refine ⟨sel.filters, sel.range, seconds, exec_sidebar env keys defaultRange, sel.lookup?_range, hmem,
    fun hle => ?_⟩
  obtain ⟨start, hbounds, hbefore⟩ := Window.bounds_of_le hlength hle
  have hstart : ∀ o ∈ start.offset, Timestamp.Offset o := hbefore.2 ▸ hnow
  have hkeys := Dict.keys_without "q" sel.filters
  have hbody : (Filters.forLogs sel.filters).forBody env.now =
      .ok (Filters.between start env.now (Filters.forLogs sel.filters)) :=
    Filters.forBody_of_bounds (lookup?_forLogs sel) sel.range_ne
      (fun hm => sel.not_mem_keys (by decide) (hkeys.subset hm))
      (fun hm => sel.not_mem_keys (by decide) (hkeys.subset hm)) hbounds
  constructor
  · obtain ⟨wire, hposts, hperm⟩ := posts_deleteLogs sel hstart hnow
    refine ⟨_, wire, fun hbox hbutton => asks_deleteLogs hbox hbutton hbody, hposts,
      fun filter hfilter => ?_⟩
    rw [restricts_congr hperm]
    exact restricts_sentLogs hfilter
  · let keyId := env.chosenKey "window_ai_api_key" "Server default"
      (keys.filter (·.status == "active"))
    obtain ⟨wire, hposts, hperm⟩ := posts_summary sel keyId hstart hnow
    refine ⟨_, wire, fun hbutton => asks_summarizeWindow hbutton fun s =>
      exec_windowBody keyId hbody, hposts, fun filter hfilter => ?_⟩
    rw [restricts_congr hperm]
    exact restricts_summaryWire keyId hfilter

end Match

/-- A user who has the logs of user 42 deleted and summarized. -/
def cleanUp (now : Timestamp) (keyword : String) : Env where
  client := gateway
  settings := .ofEnvironment []
  now
  widgets := [("Keyword", .str keyword), ("User ID", .str "42"),
    ("confirm_delete_logs", .bool true), ("Delete matching logs", .bool true),
    ("Summarize window", .bool true)]
  gateway _ := .lost ""

theorem selection_cleanUp (now : Timestamp) (keyword : String) :
    (cleanUp now keyword).selection [] "24h" =
    ⟨"24h", Text.strip keyword, "", "", some 42, none, by decide⟩ := by
  have hmodel : Text.strip "" = "" := by decide +kernel
  have hid : idOf "42" = some 42 := by decide +kernel
  simp [Env.selection, Env.typed, Env.chosen, Env.chosenKey, Env.entered, cleanUp, Dict.lookup?,
    hmodel, hid, timeRanges, platforms, keyChoices, Dict.ofPairs, Dict.put, rangeIndex]

theorem pressed_cleanUp (now : Timestamp) (keyword : String) :
    (cleanUp now keyword).pressed "confirm_delete_logs" ∧
      (cleanUp now keyword).pressed "Delete matching logs" ∧
      (cleanUp now keyword).pressed "Summarize window" := by
  refine ⟨?_, ?_, ?_⟩ <;> simp [Env.pressed, Env.entered, cleanUp, Dict.lookup?, Json.present]

/-- Without a keyword both keep to the range and to the user. -/
theorem cleanUp_restricts :
    (∀ o ∈ (cleanUp noon "").now.offset, Timestamp.Offset o) ∧ ∃ filters,
      ("time_range", .str "24h") ∈ filters ∧ ("user_id", .int 42) ∈ filters ∧
      (∃ body wire, Asks (cleanUp noon "") (deleteLogs (Filters.forLogs filters))
          (.deleteLogs (.entries body)) ∧
        (Operation.deleteLogs (.entries body)).Posts "/logs/delete" wire ∧
        ∀ filter ∈ filters, Restricts wire filter) ∧
      ∃ body wire, Asks (cleanUp noon "") (summarizeWindow filters []) (.summarize (.entries body)) ∧
        (Operation.summarize (.entries body)).Posts "/summarize" wire ∧
        ∀ filter ∈ filters, Restricts wire filter := by
  have hblank : Text.strip "" = "" := by decide +kernel
  obtain ⟨hbox, hdelete, hsummarize⟩ := pressed_cleanUp noon ""
  have hnow : ∀ o ∈ (cleanUp noon "").now.offset, Timestamp.Offset o := offset_noon
  obtain ⟨filters, range, seconds, hexec, hrange, hmem, hboth⟩ :=
    maintenance_restricts_iff hnow [] "24h"
  obtain ⟨t, hfilters⟩ := exec_sidebar (cleanUp noon "") [] "24h" { state := {} }
  rw [selection_cleanUp, hblank] at hfilters
  obtain ⟨t', hfilters'⟩ := hexec { state := {} }
  obtain rfl : [("time_range", Json.str "24h"), ("user_id", .int 42)] = filters :=
    Except.ok.inj (Prod.mk.inj (hfilters.symm.trans hfilters')).1
  obtain rfl : "24h" = range := Json.str.inj (Option.some.inj hrange)
  obtain rfl : 86400 = seconds := by simpa [rangeLengths, eq_comm] using hmem
  obtain ⟨⟨body, wire, hasks, hposts, hrestricts⟩, body', wire', hasks', hposts', hrestricts'⟩ :=
    hboth (by decide)
  refine ⟨hnow, _, by simp, by simp,
    ⟨body, wire, hasks hbox hdelete, hposts, fun filter hm => ?_⟩,
    body', wire', hasks' hsummarize, hposts', fun filter hm => ?_⟩
  · refine (hrestricts filter hm).mpr ?_
    simp only [List.mem_cons, List.not_mem_nil, or_false] at hm
    rcases hm with rfl | rfl <;> simp
  · refine (hrestricts' filter hm).mpr ?_
    simp only [List.mem_cons, List.not_mem_nil, or_false] at hm
    rcases hm with rfl | rfl <;> simp

/-- A keyword is set, yet logs without it are deleted as well. -/
theorem cleanUp_keyword_not_restricts : ∃ filters t body wire,
    exec (sidebar [] "24h") (cleanUp noon " ssh key ") { state := {} } = (.ok filters, t) ∧
      ("q", .str "ssh key") ∈ filters ∧
      Asks (cleanUp noon " ssh key ") (deleteLogs filters.forLogs) (.deleteLogs (.entries body)) ∧
      (Operation.deleteLogs (.entries body)).Posts "/logs/delete" wire ∧
      ¬ Restricts wire ("q", .str "ssh key") := by
  have hkeyword : Text.strip " ssh key " = "ssh key" := by decide +kernel
  obtain ⟨t, hexec⟩ := exec_sidebar (cleanUp noon " ssh key ") [] "24h" { state := {} }
  rw [selection_cleanUp, hkeyword] at hexec
  have hlength : Window.length "24h" = .ok 86400 := by decide +kernel
  obtain ⟨start, hbounds, hbefore⟩ := Window.bounds_of_le hlength
    (by decide : 86400 * 1000000 ≤ noon.clock)
  have hbody : (Filters.forLogs searchFilters).forBody noon =
      .ok (Filters.between start noon (Filters.forLogs searchFilters)) :=
    Filters.forBody_of_bounds rfl (by decide) (by decide) (by decide) hbounds
  obtain ⟨hbox, hdelete, -⟩ := pressed_cleanUp noon " ssh key "
  obtain ⟨wire, hposts, hperm⟩ := posts_deleteLogs
    ⟨"24h", "ssh key", "", "", some 42, none, by decide⟩ (hbefore.2 ▸ offset_noon) offset_noon
  refine ⟨_, t, _, wire, hexec, by simp [Selection.filters, isSet],
    asks_deleteLogs hbox hdelete hbody, hposts, ?_⟩
  rw [restricts_congr hperm]
  simp [Restricts, sentBetween, Filters.forLogs, Selection.filters, Dict.without]

end ChatAudit.Console
