import ChatAudit.Proofs.Binary64.Overflow
import ChatAudit.Proofs.Chat.Transcript
import ChatAudit.Proofs.Console.Complete

/-! Why a run breaks off. -/
namespace ChatAudit.Console
open Api Panel

/-- The overview as far as the statistics. -/
def measuring (filters : Filters) : Panel (Except Failure Statistics) := ask (statisticsFor filters)

section Parts
variable (env : Env) (state : State)

/-- The statistics that the gateway answers a run with. -/
def Env.measures : Option Statistics :=
  (exec (upTo measuring) env { state }).1.toOption.bind Except.toOption

/-- The logs that the gateway lists for the session that a run opens. -/
def Env.reads : Option (Page Log) :=
  match exec (upTo overview) env { state } with
  | (.ok (), t) =>
    if t.state.core.current.present then
      (env.answer (messagesOf env t.state.core.current) t).toOption.bind Except.toOption
    else none
  | (.error _, _) => none

/-- Why a run that leaves the screen `w` stops early. -/
inductive Halts (w : Screen) : Stop → Prop
  | rerun : Halts w .rerun
  | lost {op : Operation} {e : Stop} (hop : Asked env state w op) (h : Lost env op e w) : Halts w e
  | tooLarge {stats : Statistics} (h : env.measures state = some stats) (hsize : TooLarge stats) :
    Halts w (.fault .tooLarge)
  | shift {logs : Page Log} {f : Timestamp.ShiftFault} (h : env.reads state = some logs)
    (hshift : transcript env.zone logs.items = .error f) : Halts w (.fault (.shift f))
  | noText {issues : List Record.Issue} (hpresent : (env.entered "ai_chat_input").present = true)
    (h : ∀ text, env.entered "ai_chat_input" ≠ .str text) : Halts w (.fault (.turn issues))
  | tooEarly {sel : Selection} (h : sel.TooEarly env.now) :
    Halts w (.fault (.filters (.window .beforeFirstYear)))

end Parts

section Overview
variable {env : Env} {state : State} {keys : List ApiKey} {s t w : Screen} {e : Stop}

theorem measures_of_opens (hopens : Opens env state keys s) : env.measures state =
    (env.answer (statisticsFor (env.filtering keys).filters) s).toOption.bind Except.toOption := by
  have hpart : Reaches env s (measuring (env.filtering keys).filters)
      (fun r _ => r = env.answer (statisticsFor (env.filtering keys).filters) s) :=
    .of_ends (.ask _) rfl
  obtain ⟨u, -, hanswer⟩ := exec_upTo measuring hopens hpart
  rw [Env.measures, hanswer]

theorem reads_of_passes (h : Passes env state keys s t) : env.reads state =
    if t.state.core.current.present then
      (env.answer (messagesOf env t.state.core.current) t).toOption.bind Except.toOption
    else none := by
  obtain ⟨u, hexec, hdrawn⟩ := h.exec
  have hanswer (op : Operation) : env.answer op u = env.answer op t := by
    rw [Env.answer, hdrawn.2]
    rfl
  rw [Env.reads, hexec]
  dsimp only
  rw [hanswer, hdrawn.1]

theorem answer_of_reads (hpasses : Passes env state keys s t) {logs : Page Log}
    (h : env.reads state = some logs) : t.state.core.current.present = true ∧
      env.answer (messagesOf env t.state.core.current) t = .ok (.ok logs) := by
  rw [reads_of_passes hpasses] at h
  split_ifs at h with hpresent
  rcases hanswer : env.answer (messagesOf env t.state.core.current) t with e | f | logs'
  · rw [hanswer] at h
    cases h
  · rw [hanswer] at h
    cases h
  · rw [hanswer] at h
    exact ⟨hpresent, by rw [Option.some.inj h]⟩

theorem halts_of_asking (hopens : Opens env state keys s)
    (h : Asking env (env.filtering keys) s (.error e) t) (hw : w.requests = t.requests) :
    Halts env state w e := by
  cases h with
  | lost h => exact .lost (.browsed (.statistics _)) ⟨s, h, hw⟩
  | tooLarge h hsize =>
    refine .tooLarge ?_ hsize
    rw [measures_of_opens hopens, h]
    rfl

theorem halts_of_settling (hopens : Opens env state keys s)
    (h : Settling env (env.filtering keys) s (.error e) t) (hw : w.requests = t.requests) :
    Halts env state w e := by
  cases h with
  | unasked h => exact halts_of_asking hopens h hw
  | asked h hlisting =>
    cases hlisting with
    | lost hlost => exact .lost (.browsed (.list (lists_of_asking hopens h))) ⟨_, hlost, hw⟩
    | clamped => exact .rerun

theorem halts_of_choosing (hopens : Opens env state keys s)
    (h : Choosing env (env.filtering keys) s (.error e) t) (hw : w.requests = t.requests) :
    Halts env state w e := by
  cases h with
  | unsettled h => exact halts_of_settling hopens h hw
  | browsed h hbrowsing =>
    cases hbrowsing with
    | turned => exact .rerun

theorem halts_of_finishing {sel : Selection} {sessions : Page Session}
    (hloaded : Loaded env state w sessions)
    (h : Finishing env sel (s.store (env.ticks sessions.items))
      (some (sessions, env.wanted sessions.items)) (.error e) t) (hw : w.requests = t.requests) :
    Halts env state w e := by
  cases hwanted : env.wanted sessions.items with
  | none =>
    rw [hwanted] at h
    cases h with
    | tooEarly htoo => exact .tooEarly htoo
    | bulkLost hop hlost =>
      exact .lost (.removed (removes_of_bulk hloaded hwanted hop)) ⟨_, hlost, hw⟩
    | bulkDeleted => exact .rerun
  | some wanted =>
    rw [hwanted] at h
    cases h with
    | selected | deleted => exact .rerun
    | lost hlost =>
      obtain ⟨hid, hpressed⟩ := pressed_of_wanted hwanted
      exact .lost (.removed (.one hloaded hid hpressed)) ⟨_, hlost, hw⟩

theorem halts_of_overviewing (hopens : Opens env state keys s)
    (h : Overviewing env (env.filtering keys) s (.error e) t) (hw : w.requests = t.requests) :
    Halts env state w e := by
  cases h with
  | unchosen h => exact halts_of_choosing hopens h hw
  | @chosen choice _ u _ h hend =>
    have hsuffix := (requests_of_finishing hend).1
    cases choice with
    | none => cases hend
    | some choice =>
      obtain ⟨sessions, wanted⟩ := choice
      obtain ⟨rfl, size, v, hsettled, rfl⟩ := chosen_of_choosing h
      exact halts_of_finishing (loaded_of_settling hopens hsettled (hw ▸ hsuffix)) hend hw

/-- Nothing follows where the statistics stop a run. -/
theorem overviewing_of_unasked {sel : Selection} {u : Screen}
    (hasking : Asking env sel s (.error e) u) {r : Except Stop Unit}
    (h : Overviewing env sel s r t) : r = .error e := by
  have hchoosing : Choosing env sel s (.error e) u := .unsettled (.unasked hasking)
  cases h with
  | unchosen h => rw [Except.error.inj (hchoosing.unique h).1]
  | chosen h => cases (hchoosing.unique h).1

end Overview

section Tabs
variable {env : Env} {state : State} {keys : List ApiKey} {s t u w : Screen} {e : Stop}

theorem halts_of_detailing (hpasses : Passes env state keys s t)
    (h : Detailing env keys t (.error e) u) (hw : w.requests = u.requests) :
    Halts env state w e := by
  have hfaces := faces_of_passes hpasses
  cases h with
  | lost hpresent h =>
    exact .lost (.inspected (.messages (hfaces.opens hpresent))) ⟨t, h, hw⟩
  | unsummarized hu h =>
    cases h with
    | lost h => exact .lost (.inspected (.summary _ (hfaces.opens hu.present))) ⟨_, h, hw⟩
  | shift hu h hshift =>
    refine .shift ?_ hshift
    rw [reads_of_passes hpasses, if_pos hu.present, hu.answer]
    rfl
  | @talking logs v x _ context _ hu h hcontext htalk =>
    rcases stopped_of_talking htalk with
      ⟨issues, rfl, hpresent, hne⟩ | ⟨text, op, htyped, htext, rfl, hanswer, hrequests⟩
    · exact .noText hpresent hne
    · have hlast := hw.trans hrequests
      have hsummarized : Since env (Inspects env state w) v x :=
        since_summarizing (hfaces.opens hu.present) h
      have hsuffix : v.requests <:+ w.requests := by
        rw [hlast]
        exact hsummarized.suffix.trans (Since.suffix_sent _ _)
      have hturn := inspects_of_shows hfaces hu h hcontext htyped htext hsuffix
      exact .lost (.inspected hturn) ⟨x, hanswer, hlast⟩

/-- A tab that goes through has put the logs into a transcript. -/
theorem transcript_of_detailing {logs : Page Log}
    (hpresent : t.state.core.current.present = true)
    (hanswer : env.answer (messagesOf env t.state.core.current) t = .ok (.ok logs))
    (h : Detailing env keys t (.ok ()) u) :
    ∃ context, transcript env.zone logs.items = .ok context := by
  cases h with
  | unselected h =>
    rw [h] at hpresent
    cases hpresent
  | refused _ h =>
    rw [h] at hanswer
    cases hanswer
  | talking hu _ hcontext =>
    obtain rfl := Except.ok.inj (Except.ok.inj (hu.answer.symm.trans hanswer))
    exact ⟨_, hcontext⟩

/-- The tab of a session never starts a run over. -/
theorem ne_rerun_of_detailing (h : Detailing env keys t (.error e) u) : e ≠ .rerun := by
  rintro rfl
  cases h with
  | lost hpresent h => exact answer_ne_rerun _ _ h
  | unsummarized hu h =>
    cases h with
    | lost h => exact answer_ne_rerun _ _ h
  | talking hu h hcontext htalk =>
    rcases stopped_of_talking htalk with ⟨issues, he, -⟩ | ⟨text, op, -, -, -, hanswer, -⟩
    · cases he
    · exact answer_ne_rerun _ _ hanswer

theorem halts_of_course (h : Course env state (.error e) t) (hw : w.requests = t.requests) :
    Halts env state w e := by
  cases h with
  | unopened hexec hframe hlost =>
    obtain ⟨s, hanswer, hrequests⟩ := hlost
    exact .lost .keys ⟨s, hanswer, hw.trans hrequests⟩
  | stopped hopens hoverview => exact halts_of_overviewing hopens hoverview hw
  | detailed hpasses hdetail => exact halts_of_detailing hpasses hdetail hw
  | @finished keys s u v x _ _ hpasses hdetail hupkeep hend =>
    obtain ⟨-, hstop⟩ := hupkeep
    have hx : w.requests = x.requests := by
      rw [hw]
      rcases hend with rfl | rfl <;> rfl
    cases hstop with
    | lost hop hlost =>
      obtain ⟨s, hanswer, hrequests⟩ := hlost
      exact .lost (.upkeep hop) ⟨s, hanswer, hx.trans hrequests⟩
    | tooEarly htoo => exact .tooEarly htoo

theorem halts_of_run (hpaged : state.core.Paged) (h : (run page env state).1 = .error e) :
    Halts env state (run page env state).2 e := by
  obtain ⟨t, hdrawn, hcourse⟩ := course_of_run env hpaged
  rw [h] at hcourse
  exact halts_of_course hcourse hdrawn.2

end Tabs

/-- Whether a client has an address and a token to work with, the clock an offset that there is, and
what is typed is text. -/
structure Env.WellFormed (env : Env) : Prop where
  client : env.client.WellFormed
  offset : ∀ o ∈ env.now.offset, Timestamp.Offset o
  typed : (env.entered "ai_chat_input").present = true →
    ∃ text, env.entered "ai_chat_input" = .str text

/-- Whether a size is rounded to no double. -/
def Immense (stats : Statistics) : Prop :=
  ∃ n ∈ [stats.estimatedBytes, stats.tableBytes], Binary64.overflowThreshold ≤ n.natAbs

theorem tooLarge_iff {stats : Statistics} : TooLarge stats ↔ Immense stats := by
  simp [TooLarge, Immense, Amount.bytesOfInt?_eq_none_iff]

/-- What lies below the console. It may refuse something for reasons of its own: an answer that is
nested too deeply, half of a surrogate pair in one, a codec without a lenient decoder, or two
widgets of one key. -/
structure Platform where
  /-- Whether a request is sent and its reply read as it is here. -/
  carries : Request → Reply → Prop
  /-- Whether the first call is carried out after the calls before it, the latest ones first. -/
  draws : List Event → Prop

/-- Whether a platform refuses nothing that a run comes to that leaves the screen `w`. -/
structure Platform.Bears (p : Platform) (env : Env) (w : Screen) : Prop where
  carries : ∀ request before, request :: before <:+ w.requests →
    p.carries request (env.gateway before.length)
  draws : ∀ event before, event :: before <:+ w.events → p.draws (event :: before)

/-- Whether a run ends normally or is started over. What the platform refuses breaks it off. -/
def Platform.Survives (p : Platform) (env : Env) (state : State) : Prop :=
  p.Bears env (run page env state).2 ∧
    ((run page env state).1 = .ok () ∨ (run page env state).1 = .error .rerun)

/-- What makes a run break off that leaves the screen `w`, where the platform bears it. -/
inductive Breaks (env : Env) (state : State) (w : Screen) : Fault → Prop
  /-- The last operation has no address, or a redirect led nowhere. -/
  | call {op : Operation} {s : Screen} {f : Api.Fault} (hop : Asked env state w op)
    (hlast : w.requests = (s.sent env op).requests)
    (h : Escapes env.client op (env.gateway s.requests.length) f) : Breaks env state w (.call f)
  | tooLarge {stats : Statistics} (h : env.measures state = some stats) (hsize : Immense stats) :
    Breaks env state w .tooLarge
  | shift {logs : Page Log} {f : Timestamp.ShiftFault} (h : env.reads state = some logs)
    (hshift : ∃ l ∈ logs.items, l.createdAt.OffCalendar env.zone) : Breaks env state w (.shift f)
  | tooEarly {sel : Selection} (h : sel.TooEarly env.now) :
    Breaks env state w (.filters (.window .beforeFirstYear))

section Runs
variable {env : Env} {envs : List Env} {state : State} {w : Screen}

theorem breaks_of_halts (henv : env.WellFormed) {f : Fault}
    (h : Halts env (runs {} envs) w (.fault f)) : Breaks env (runs {} envs) w f := by
  cases h with
  | @lost op _ hop hlost =>
    obtain ⟨s, hanswer, hlast⟩ := hlost
    obtain ⟨g, houtcome, hfailed, hf⟩ := fault_of_answerOf hanswer
    cases hf
    have hcomplete := complete_of_asked henv.offset hop
    exact .call hop hlast (Client.escapes_of_outcome henv.client (known_of_asked hop) hcomplete
      houtcome hfailed)
  | tooLarge h hsize => exact .tooLarge h (tooLarge_iff.mp hsize)
  | shift h hshift => exact .shift h (exists_transcript_error_iff.mp ⟨_, hshift⟩)
  | noText hpresent h =>
    obtain ⟨text, htyped⟩ := henv.typed hpresent
    exact absurd htyped (h text)
  | tooEarly h => exact .tooEarly h

/-- Immense sizes always make a run break off. -/
theorem fault_of_immense (hpaged : state.core.Paged) {stats : Statistics}
    (h : env.measures state = some stats) (hsize : Immense stats) :
    (run page env state).1 = .error (.fault .tooLarge) := by
  obtain ⟨t, -, hcourse⟩ := course_of_run env hpaged
  have hasking {keys : List ApiKey} {s : Screen} (hopens : Opens env state keys s) :
      ∃ u, Asking env (env.filtering keys) s (.error (.fault .tooLarge)) u := by
    rw [measures_of_opens hopens] at h
    rcases hanswer : env.answer (statisticsFor (env.filtering keys).filters) s with e | f | stats'
    · rw [hanswer] at h
      cases h
    · rw [hanswer] at h
      cases h
    · rw [hanswer] at h
      obtain rfl := Option.some.inj h
      exact ⟨_, .tooLarge hanswer (tooLarge_iff.mpr hsize)⟩
  -- the statistics come first in the overview, so no course leads past them
  have hpasses {keys : List ApiKey} {s t : Screen} (hp : Passes env state keys s t) : False := by
    obtain ⟨u, hu⟩ := hasking hp.opens
    cases overviewing_of_unasked hu hp.course
  generalize (run page env state).1 = r at hcourse ⊢
  cases hcourse with
  | unopened hexec =>
    rw [Env.measures, exec_upTo_of_unopened hexec] at h
    cases h
  | stopped hopens hoverview =>
    obtain ⟨u, hu⟩ := hasking hopens
    exact overviewing_of_unasked hu hoverview
  | detailed hp => exact absurd (hpasses hp) id
  | finished hp => exact absurd (hpasses hp) id

/-- A log from outside the calendar always makes a run break off. -/
theorem fault_of_offCalendar (hpaged : state.core.Paged) {logs : Page Log}
    (h : env.reads state = some logs)
    (hlogs : ∃ l ∈ logs.items, l.createdAt.OffCalendar env.zone) :
    ∃ f, (run page env state).1 = .error (.fault f) := by
  obtain ⟨t, -, hcourse⟩ := course_of_run env hpaged
  have hstops {e : Stop} (hexec : (exec (upTo overview) env { state }).1 = .error e) : False := by
    unfold Env.reads at h
    rcases hrun : exec (upTo overview) env { state } with ⟨_ | _, u⟩
    · rw [hrun] at h
      cases h
    · rw [hrun] at hexec
      cases hexec
  generalize (run page env state).1 = r at hcourse ⊢
  cases hcourse with
  | unopened hexec => exact absurd (hstops (exec_upTo_of_unopened hexec)) id
  | stopped _ _ hexec => exact absurd (hstops hexec) id
  | @detailed _ _ _ _ e hp hdetail =>
    cases e with
    | rerun => exact absurd rfl (ne_rerun_of_detailing hdetail)
    | fault f => exact ⟨f, rfl⟩
  | finished hp hdetail =>
    obtain ⟨hpresent, hanswer⟩ := answer_of_reads hp h
    obtain ⟨context, hcontext⟩ := transcript_of_detailing hpresent hanswer hdetail
    obtain ⟨f, hf⟩ := exists_transcript_error_iff.mpr hlogs
    cases hcontext.symm.trans hf

theorem Platform.not_survives {p : Platform} {f : Fault}
    (h : (run page env state).1 = .error (.fault f)) : ¬p.Survives env state := by
  rintro ⟨-, hok | hrerun⟩
  · cases hok.symm.trans h
  · cases hrerun.symm.trans h

/-- Over all runs a run that the platform bears ends normally or is started over, unless it breaks
off for one of these causes. Extreme values among the answers break it off on every platform. -/
theorem breaks_of_runs (p : Platform) (envs : List Env) (env : Env) (henv : env.WellFormed) :
    (p.Bears env (run page env (runs {} envs)).2 → p.Survives env (runs {} envs) ∨
      ∃ f, (run page env (runs {} envs)).1 = .error (.fault f) ∧
        Breaks env (runs {} envs) (run page env (runs {} envs)).2 f) ∧
    (∀ stats, env.measures (runs {} envs) = some stats → Immense stats →
      ¬p.Survives env (runs {} envs)) ∧
    ∀ logs, env.reads (runs {} envs) = some logs →
      (∃ l ∈ logs.items, l.createdAt.OffCalendar env.zone) → ¬p.Survives env (runs {} envs) := by
  have hpaged := paged_of_runs envs
  refine ⟨fun hbears => ?_, fun stats hstats hsize => ?_, fun logs hreads hlogs => ?_⟩
  · rcases hrun : (run page env (runs {} envs)).1 with e | _
    · cases e with
      | rerun => exact .inl ⟨hbears, .inr hrun⟩
      | fault f => exact .inr ⟨f, rfl, breaks_of_halts henv (halts_of_run hpaged hrun)⟩
    · exact .inl ⟨hbears, .inl hrun⟩
  · exact Platform.not_survives (fault_of_immense hpaged hstats hsize)
  · obtain ⟨f, hf⟩ := fault_of_offCalendar hpaged hreads hlogs
    exact Platform.not_survives hf

end Runs

/-- Statistics with a table that is too large for a double. -/
def immenseTable : Reply := .response ⟨200, [], Charset.encodeUtf8
  ("\x7b\"start_time\":\"2026-10-17T00:00:00Z\",\"end_time\":\"2026-10-18T00:00:00Z\",".toList ++
    "\"table_bytes\":1".toList ++ List.replicate 400 '0' ++ "\x7d".toList)⟩

/-- A user who opens the page while the table is that large. -/
def overflow : Env := browse [] fun n => if n = 1 then immenseTable else .lost ""

theorem wellFormed_overflow : overflow.WellFormed where
  client := ⟨⟨_, _, read_gateway, rfl, List.mem_cons_self⟩, none, rfl⟩
  offset := offset_noon
  typed := nofun

theorem measures_overflow : ∃ stats, overflow.measures {} = some stats ∧ Immense stats := by
  have htable : (overflow.measures {}).map Statistics.tableBytes = some (10 ^ 400) := by
    decide +kernel
  obtain ⟨stats, hstats, hbytes⟩ := Option.map_eq_some_iff.mp htable
  refine ⟨stats, hstats, stats.tableBytes, by simp, ?_⟩
  rw [hbytes]
  decide +kernel

/-- The key of a widget. -/
def Event.key? (e : Event) : Option String :=
  e.options.findSome? fun o =>
    match o with
    | ("key", .value (.str key)) => some key
    | _ => none

/-- A platform that refuses two widgets of one key, and nothing else. -/
def keyed : Platform where
  carries _ _ := True
  draws events := (events.filterMap Event.key?).Nodup

theorem bears_overflow : keyed.Bears overflow (run page overflow {}).2 where
  carries _ _ _ := trivial
  draws event before h := by
    have hkeys : ((run page overflow {}).2.events.filterMap Event.key?).Nodup := by decide +kernel
    exact hkeys.sublist (h.sublist.filterMap Event.key?)

theorem breaks_of_overflow : overflow.WellFormed ∧
    keyed.Bears overflow (run page overflow {}).2 ∧
    ∃ f, (run page overflow {}).1 = .error (.fault f) ∧
      Breaks overflow {} (run page overflow {}).2 f := by
  obtain ⟨hends, hsize, -⟩ := breaks_of_runs keyed [] overflow wellFormed_overflow
  obtain ⟨stats, hstats, himmense⟩ := measures_overflow
  refine ⟨wellFormed_overflow, bears_overflow, ?_⟩
  exact (hends bears_overflow).resolve_left (hsize stats hstats himmense)

/-- An answer that is a record like any other stops the page, whatever the platform. -/
theorem overflow_not_shown : overflow.WellFormed ∧ ∃ stats, overflow.measures {} = some stats ∧
    ∀ p : Platform, ¬p.Survives overflow {} := by
  obtain ⟨stats, hstats, himmense⟩ := measures_overflow
  have hfault : (run page overflow {}).1 = .error (.fault .tooLarge) :=
    fault_of_immense (paged_of_runs []) hstats himmense
  exact ⟨wellFormed_overflow, stats, hstats, fun _ => Platform.not_survives hfault⟩

end ChatAudit.Console
