import ChatAudit.Proofs.Api.Resource
import ChatAudit.Proofs.Console.Paging

/-! Deletion: a run deletes only what the user asked it to delete. -/
namespace ChatAudit.Console
open Api Panel

section Requests

/-- Whether a request deletes sessions. -/
def DeletesSessions (request : Request) : Prop :=
  request.method = "DELETE" ∨ request.PostsTo "/sessions/bulk-delete"

/-- Whether a request deletes sessions or logs. -/
def Deletes (request : Request) : Prop := DeletesSessions request ∨ request.PostsTo "/logs/delete"

instance : DecidablePred DeletesSessions := fun _ => inferInstanceAs (Decidable (_ ∨ _))

instance : DecidablePred Deletes := fun _ => inferInstanceAs (Decidable (_ ∨ _))

variable {env : Env} {op : Operation} {request : Request} {A : Operation → Prop} {s t : Screen}

theorem not_deletesSessions (hknown : op.Known)
    (hone : ∀ id user key, op ≠ .deleteSession id user key)
    (hmany : ∀ body, op ≠ .deleteSessions body)
    {reply : Reply} (sent : (env.client.perform op reply).request = some request) :
    ¬DeletesSessions request := by
  rintro (hdelete | hposts)
  · obtain ⟨id, user, key, h⟩ := Client.eq_deleteSession hknown sent hdelete
    exact hone id user key h
  · obtain ⟨body, h⟩ :=
      Operation.eq_deleteSessions (Client.resource_of_postsTo hknown (by decide) sent hposts)
    exact hmany body h

/-- Requests that are not counted leave the count as it is. -/
theorem countP_of_since {count : Request → Bool} (h : Since env A s t)
    (hA : ∀ op, A op → ∀ request, (env.client.perform op (.lost "")).request = some request →
      count request = false) : t.requests.countP count = s.requests.countP count := by
  obtain ⟨later, hlater, hsource⟩ := h
  have hnone : later.countP count = 0 := by
    refine List.countP_eq_zero.mpr fun request hm => ?_
    obtain ⟨op, hop, hsent⟩ := hsource request hm
    rw [hA op hop request (hsent _)]
    exact Bool.false_ne_true
  rw [hlater, List.countP_append, hnone, Nat.zero_add]

/-- One more request counts once at most. -/
theorem countP_of_length {count : Request → Bool} (h : Since env A s t)
    (hlength : t.requests.length ≤ s.requests.length + 1) :
    t.requests.countP count ≤ s.requests.countP count + 1 := by
  obtain ⟨later, hlater, -⟩ := h
  have hlater' : later.countP count ≤ later.length := List.countP_le_length
  rw [hlater, List.length_append] at hlength
  rw [hlater, List.countP_append]
  omega

/-- A deletion of some sessions says that it is not one of all. -/
theorem posts_selected (ids : List String) :
    (Operation.deleteSessions (.entries [("session_ids", .arr (ids.map .str))])).Posts
      "/sessions/bulk-delete"
      [("session_ids", .arr (ids.map .str)), ("select_all", .bool false)] := by
  -- the ids are the first field of the form, and all others take their defaults
  let first : Payload.Field := { key := "session_ids", kind := .texts }
  let rest := (Payload.Form.fields .sessionDeletion).tail
  have hids : Record.list Record.text (.arr (ids.map .str)) = .accepted ids :=
    Record.items_map (g := Json.str) (fun _ _ => rfl) 0
  have hfirst :
      first.read [("session_ids", .arr (ids.map .str))] = .accepted (some (.texts ids)) := by
    have hread : first.kind.read (.arr (ids.map .str)) = .accepted (.texts ids) :=
      congrArg (Record.Checked.map Payload.Value.texts) hids
    have hkey : first.keyIn? [("session_ids", .arr (ids.map .str))] = some "session_ids" := by
      simp [Payload.Field.keyIn?, Dict.has, Dict.lookup?, first]
    have hlookup : Dict.lookup? "session_ids" [("session_ids", Json.arr (ids.map .str))] =
        some (.arr (ids.map .str)) := by
      simp [Dict.lookup?]
    rw [Payload.Field.read, hkey]
    exact Record.optional_of_present hlookup (Record.orNull_of_ne (by simp) hread)
  have hkeys : ∀ f ∈ rest, f.key ≠ "session_ids" ∧ f.alternative ≠ some "session_ids" := by decide
  have hrest := Payload.readFields_of_absent fun f hf =>
    Payload.keyIn?_of_ne (.arr (ids.map .str)) (hkeys f hf).1 (hkeys f hf).2
  have hread : Payload.read .sessionDeletion [("session_ids", .arr (ids.map .str))] = .accepted
      ⟨(first, some (.texts ids)) :: rest.map fun f => (f, f.default), []⟩ := by
    have hfields : Payload.readFields [("session_ids", .arr (ids.map .str))] (first :: rest) =
        .accepted ((first, some (.texts ids)) :: rest.map fun f => (f, f.default)) := by
      rw [Payload.readFields, hfirst, hrest]
      rfl
    exact congrArg (Record.Checked.map _) hfields
  exact posts_of_accepted rfl hread

theorem posts_deletionBody (sel : Selection) {start stop : Timestamp}
    (hstart : ∀ o ∈ start.offset, Timestamp.Offset o)
    (hstop : ∀ o ∈ stop.offset, Timestamp.Offset o) :
    ∃ wire, (Operation.deleteSessions (.entries (deletionBody sel.filters start stop))).Posts
      "/sessions/bulk-delete" wire ∧ ("select_all", .bool true) ∈ wire := by
  have hop : (Operation.deleteSessions (.entries (deletionBody sel.filters start stop))).call =
      Operation.post "/sessions/bulk-delete" .sessionDeletion (.entries _) := rfl
  obtain ⟨wire, hposts, hperm⟩ := posts_of_fits hop (fits_deletionBody hstart hstop)
    (plain_deletionBody sel start stop)
  exact ⟨wire, hposts, hperm.mem_iff.mpr List.mem_cons_self⟩

end Requests

section Runs
variable {env : Env} {state : State} {w : Screen} {op : Operation} {request : Request}

/-- What the user must have done for a request that a run sends, where `w` is the screen that the
run leaves. -/
structure Wanted (env : Env) (state : State) (w : Screen) (request : Request) : Prop where
  /-- One session is deleted at the press of its own button. -/
  one : request.method = "DELETE" → ∃ sessions id, Loaded env state w sessions ∧
    id ∈ sessions.items.map (·.sessionId) ∧ env.pressed ("delete_" ++ id) ∧
    ∀ reply, (env.client.perform (.deleteSession id .null .null) reply).request = some request
  /-- Otherwise it is the ticked ones among the sessions listed, or all of them, once the box for
  that is ticked as well. -/
  many : request.PostsTo "/sessions/bulk-delete" →
    (∃ sessions, Loaded env state w sessions ∧ env.ticked sessions.items ≠ [] ∧
      env.pressed ("Delete selected (" ++ toString (env.ticked sessions.items).length ++ ")") ∧
      request.body = some (Json.obj [
        ("session_ids", .arr ((env.ticked sessions.items).map .str)),
        ("select_all", .bool false)]).write) ∨
    env.pressed "Confirm delete of all matching sessions" ∧ env.pressed "Delete all matching" ∧
      ((∀ o ∈ env.now.offset, Timestamp.Offset o) → ∃ wire : Dict Json,
        request.body = some (Json.obj wire).write ∧ ("select_all", .bool true) ∈ wire)
  /-- Logs are deleted once the box for that is ticked. -/
  logs : request.PostsTo "/logs/delete" →
    env.pressed "confirm_delete_logs" ∧ env.pressed "Delete matching logs"

theorem one_of_asked {id : String} {user key : Json}
    (h : Asked env state w (.deleteSession id user key)) :
    user = .null ∧ key = .null ∧ ∃ sessions, Loaded env state w sessions ∧
      id ∈ sessions.items.map (·.sessionId) ∧ env.pressed ("delete_" ++ id) := by
  cases h with
  | removed h =>
    cases h with
    | one hloaded hid hpressed => exact ⟨rfl, rfl, _, hloaded, hid, hpressed⟩
  | browsed h | inspected h | upkeep h => cases h

theorem many_of_asked {body : Argument} (h : Asked env state w (.deleteSessions body)) :
    Removes env state w (.deleteSessions body) := by
  cases h with
  | removed h => exact h
  | browsed h | inspected h | upkeep h => cases h

theorem logs_of_asked {body : Argument} (h : Asked env state w (.deleteLogs body)) :
    env.pressed "confirm_delete_logs" ∧ env.pressed "Delete matching logs" := by
  cases h with
  | upkeep h =>
    cases h with
    | deleteLogs hconfirmed hpressed => exact ⟨hconfirmed, hpressed⟩
  | browsed h | removed h | inspected h => cases h

theorem wanted_of_source (h : Source env (Asked env state w) request) :
    Wanted env state w request := by
  obtain ⟨op, hasked, hsent⟩ := h
  have hknown := known_of_asked hasked
  have sent := hsent (.lost "")
  constructor
  · intro h
    obtain ⟨id, user, key, rfl⟩ := Client.eq_deleteSession hknown sent h
    obtain ⟨rfl, rfl, sessions, hloaded, hid, hpressed⟩ := one_of_asked hasked
    exact ⟨sessions, id, hloaded, hid, hpressed, hsent⟩
  · intro h
    obtain ⟨body, rfl⟩ :=
      Operation.eq_deleteSessions (Client.resource_of_postsTo hknown (by decide) sent h)
    cases many_of_asked hasked with
    | selected hloaded hne hpressed =>
      exact .inl ⟨_, hloaded, hne, hpressed, Client.body_of_posts sent (posts_selected _)⟩
    | @all sel start hconfirmed hpressed hstart =>
      refine .inr ⟨hconfirmed, hpressed, fun hnow => ?_⟩
      obtain ⟨wire, hposts, hall⟩ := posts_deletionBody sel (hstart ▸ hnow) hnow
      exact ⟨wire, Client.body_of_posts sent hposts, hall⟩
  · intro h
    obtain ⟨body, rfl⟩ :=
      Operation.eq_deleteLogs (Client.resource_of_postsTo hknown (by decide) sent h)
    exact logs_of_asked hasked

/-- What the overview shows is not deleted by showing it. -/
theorem not_deletes_of_browses (h : Browses env state op) {reply : Reply}
    (sent : (env.client.perform op reply).request = some request) : ¬Deletes request := by
  have hknown := known_of_asked (.browsed h : Asked env state { state } op)
  rintro (hsessions | hlogs)
  · refine not_deletesSessions hknown ?_ ?_ sent hsessions
    · rintro id user key rfl
      cases h
    · rintro body rfl
      cases h
  · obtain ⟨body, rfl⟩ :=
      Operation.eq_deleteLogs (Client.resource_of_postsTo hknown (by decide) sent hlogs)
    cases h

theorem not_deletes_of_keys {reply : Reply}
    (sent : (env.client.perform .listApiKeys reply).request = some request) : ¬Deletes request := by
  have hknown : Operation.Known .listApiKeys := trivial
  rintro (hsessions | hlogs)
  · exact not_deletesSessions hknown (by simp) (by simp) sent hsessions
  · cases Client.resource_of_postsTo hknown (by decide) sent hlogs

/-- The overview deletes once at most. -/
theorem countP_overview (hpaged : state.core.Paged) :
    (exec (upTo overview) env { state }).2.requests.countP (Deletes ·) ≤ 1 := by
  have hkeys {s : Screen} (h : Since env (· = .listApiKeys) { state } s) :
      s.requests.countP (Deletes ·) = 0 := by
    refine countP_of_since h ?_
    rintro _ rfl request sent
    exact decide_eq_false (not_deletes_of_keys sent)
  rcases opens_cases env state with ⟨e, s, hexec, hdrawn, hframe, -⟩ | ⟨keys, s, hopens⟩
  · rw [upTo, exec_bind]
    rcases hopening : exec opening env { state } with ⟨e' | opened, t⟩
    · rw [hopening] at hdrawn
      dsimp only
      rw [hdrawn.2, hkeys hframe.since]
      exact Nat.zero_le 1
    · rw [hopening] at hexec
      cases hexec
  · obtain ⟨p, hpage, hp⟩ := page_opened hpaged hopens
    obtain ⟨t, hdrawn, hoverview⟩ := exec_upTo overview hopens (reaches_overview hpage hp)
    -- up to `u` nothing is deleted, and from there on one request at most is sent
    obtain ⟨u, hbrowsed, hremoved, hlength⟩ :=
      since_overviewing hopens hoverview (List.suffix_refl _)
    have hshown : u.requests.countP (Deletes ·) = s.requests.countP (Deletes ·) :=
      countP_of_since hbrowsed fun op hop request sent =>
        decide_eq_false (not_deletes_of_browses hop sent)
    have hlast : t.requests.countP (Deletes ·) ≤ u.requests.countP (Deletes ·) + 1 :=
      countP_of_length hremoved hlength
    rw [hshown, hkeys hopens.frame.since] at hlast
    rwa [hdrawn.2]

/-- A run deletes sessions once at most. -/
theorem countP_run (hpaged : state.core.Paged) :
    (run page env state).2.requests.countP (DeletesSessions ·) ≤ 1 := by
  obtain ⟨t, hdrawn, hcourse⟩ := course_of_run env hpaged
  obtain ⟨s, u, v, x, sel, hkeys, hbrowsed, hremoved, hlength, hinspected, hkept⟩ :=
    since_course hcourse (List.suffix_refl _)
  have hspared {A : Operation → Prop} {s t : Screen} (h : Since env A s t)
      (hA : ∀ op, A op → op.Known ∧ (∀ id user key, op ≠ .deleteSession id user key) ∧
        ∀ body, op ≠ .deleteSessions body) :
      t.requests.countP (DeletesSessions ·) = s.requests.countP (DeletesSessions ·) :=
    countP_of_since h fun op hop request sent => by
      obtain ⟨hknown, hone, hmany⟩ := hA op hop
      exact decide_eq_false (not_deletesSessions hknown hone hmany sent)
  have hstart : s.requests.countP (DeletesSessions ·) = 0 := by
    refine hspared hkeys ?_
    rintro _ rfl
    exact ⟨trivial, by simp, by simp⟩
  have hshown := hspared hbrowsed fun op hop => by cases hop <;> exact ⟨trivial, by simp, by simp⟩
  have hlast : v.requests.countP (DeletesSessions ·) ≤ u.requests.countP (DeletesSessions ·) + 1 :=
    countP_of_length hremoved hlength
  have htold := hspared hinspected fun op hop => by
    cases hop <;> exact ⟨trivial, by simp, by simp⟩
  have hrest := hspared hkept fun op hop => by cases hop <;> exact ⟨trivial, by simp, by simp⟩
  rw [hdrawn.2, hrest, htold]
  omega

/-- Over all runs nothing is deleted that the user did not ask for, and the overview deletes once
at most in a run. -/
theorem deletions_of_runs (envs : List Env) (env : Env) :
    (∀ request ∈ (run page env (runs {} envs)).2.requests,
      Wanted env (runs {} envs) (run page env (runs {} envs)).2 request) ∧
    (exec (upTo overview) env { state := runs {} envs }).2.requests.countP (Deletes ·) ≤ 1 ∧
    (run page env (runs {} envs)).2.requests.countP (DeletesSessions ·) ≤ 1 := by
  have hpaged := paged_of_runs envs
  exact ⟨fun request hm => wanted_of_source (asked_of_run hpaged hm), countP_overview hpaged,
    countP_run hpaged⟩

end Runs
end ChatAudit.Console
