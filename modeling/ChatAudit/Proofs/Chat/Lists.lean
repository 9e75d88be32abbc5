import ChatAudit.Chat.ApiKey
import ChatAudit.Chat.Log
import ChatAudit.Chat.Page
import ChatAudit.Chat.Session
import ChatAudit.Proofs.Record.Items

/-! Lists of records are taken as a whole or not at all, item by item. -/
namespace ChatAudit
open Record

namespace Record
variable {α : Type} {read : Reader α} {vs : List Json}

/-- Whether a list is read item by item: there is one just if each item is accepted on its own, its
values are those of the items in their order, and else the issues are those of all items. -/
structure ReadsEach (read : Reader α) (vs : List Json) (r : Checked (List α)) : Prop where
  accepts_iff : r.Accepts ↔ ∀ v ∈ vs, (read v).Accepts
  each : ∀ as, r = .accepted as → Each read vs as
  issues : r.issues = itemIssues read vs

theorem readsEach_items (read : Reader α) (vs : List Json) : ReadsEach read vs (items read 0 vs) :=
  ⟨accepts_items, fun _ h => items_eq_accepted.mp h, issues_items⟩

end Record

namespace Page
variable {α : Type} {item : Dict Json → Checked α} {d : Dict Json} {vs : List Json} {p : Page α}

/-- Whether a page is read item by item, and its three numbers after the items. -/
structure ReadsEach (item : Dict Json → Checked α) (d : Dict Json) (vs : List Json) : Prop where
  accepts_iff : (Page.read item d).Accepts ↔ (∀ v ∈ vs, (record item v).Accepts) ∧
    (optional "total" 0 integer d).Accepts ∧ (optional "page" 1 integer d).Accepts ∧
    (optional "page_size" 0 integer d).Accepts
  each : ∀ p, Page.read item d = .accepted p → Each (record item) vs p.items ∧
    optional "total" 0 integer d = .accepted p.total ∧
    optional "page" 1 integer d = .accepted p.number ∧
    optional "page_size" 0 integer d = .accepted p.size
  issues : (Page.read item d).issues =
    (itemIssues (record item) vs).map (Issue.below (.key "items")) ++
      ((optional "total" 0 integer d).issues ++ (optional "page" 1 integer d).issues ++
        (optional "page_size" 0 integer d).issues)

theorem readsEach (item : Dict Json → Checked α) (h : d.lookup? "items" = some (.arr vs)) :
    ReadsEach item d vs := by
  have hitems : optional "items" [] (listOrNull (record item)) d =
      (Record.items (record item) 0 vs).below (.key "items") := field_of_present h
  have heach := readsEach_items (record item) vs
  refine ⟨?_, fun p hp => ?_, ?_⟩
  · simp only [Page.read, hitems, Checked.accepts_seq, Checked.accepts_map, Checked.accepts_below,
      heach.accepts_iff, and_assoc]
  · simp only [Page.read, hitems, Checked.seq_eq_accepted, Checked.map_eq_accepted,
      Checked.below_eq_accepted] at hp
    obtain ⟨_, size, ⟨_, number, ⟨_, total, ⟨as, has, rfl⟩, htotal, rfl⟩, hnumber, rfl⟩, hsize,
      rfl⟩ := hp
    exact ⟨heach.each as has, htotal, hnumber, hsize⟩
  · simp only [Page.read, hitems, Checked.issues_seq, Checked.issues_map, Checked.issues_below,
      heach.issues, List.append_assoc]

end Page

namespace Log
variable {d : Dict Json} {vs : List Json} {build : List Message → Timestamp → Log}

/-- The fields before the messages. -/
def readHead (d : Dict Json) : Checked (List Message → Timestamp → Log) :=
  Log.mk <$> required "id" integer d <*> required "session_id" Record.text d <*>
    nullable "request_id" Record.text d <*> nullable "client_request_id" Record.text d <*>
    nullable "user_id" integer d <*> nullable "api_key_id" integer d <*>
    nullable "account_id" integer d <*> nullable "group_id" integer d <*>
    nullable "platform" Record.text d <*> nullable "model" Record.text d <*>
    nullable "request_path" Record.text d <*> optional "stream" false truth d <*>
    nullable "status_code" integer d

theorem read_eq (d : Dict Json) : Log.read d = readHead d <*>
    optional "messages" [] (listOrNull (record Message.read)) d <*>
      required "created_at" instant d := rfl

theorem readHead_without (d : Dict Json) : readHead (d.without "messages") = readHead d := by
  simp (disch := decide) only [readHead, required_without, optional_without, nullable_without]

theorem messages_of_readHead (h : readHead d = .accepted build) (ms : List Message)
    (t : Timestamp) : (build ms t).messages = ms := by
  simp only [readHead, Checked.seq_eq_accepted, Checked.map_eq_accepted] at h
  obtain ⟨_, _, ⟨_, _, ⟨_, _, ⟨_, _, ⟨_, _, ⟨_, _, ⟨_, _, ⟨_, _, ⟨_, _, ⟨_, _, ⟨_, _, ⟨_, _, ⟨_, -,
    rfl⟩, -, rfl⟩, -, rfl⟩, -, rfl⟩, -, rfl⟩, -, rfl⟩, -, rfl⟩, -, rfl⟩, -, rfl⟩, -, rfl⟩, -, rfl⟩,
    -, rfl⟩, -, rfl⟩ := h
  rfl

/-- Whether the messages of a log are read item by item, between its other fields. -/
structure ReadsEach (d : Dict Json) (vs : List Json) : Prop where
  accepts_iff : (Log.read d).Accepts ↔
    (∀ v ∈ vs, (record Message.read v).Accepts) ∧ (Log.read (d.without "messages")).Accepts
  each : ∀ l, Log.read d = .accepted l → Each (record Message.read) vs l.messages
  issues : ∃ before,
    (Log.read (d.without "messages")).issues = before ++ (required "created_at" instant d).issues ∧
    (Log.read d).issues =
      before ++ (itemIssues (record Message.read) vs).map (Issue.below (.key "messages")) ++
        (required "created_at" instant d).issues

theorem readsEach (h : d.lookup? "messages" = some (.arr vs)) : ReadsEach d vs := by
  have hmessages : optional "messages" [] (listOrNull (record Message.read)) d =
      (items (record Message.read) 0 vs).below (.key "messages") := field_of_present h
  have hread : Log.read d = readHead d <*>
      (items (record Message.read) 0 vs).below (.key "messages") <*>
        required "created_at" instant d := by
    rw [read_eq, hmessages]
  have hwithout : Log.read (d.without "messages") = readHead d <*> .accepted [] <*>
      required "created_at" instant d := by
    rw [read_eq, readHead_without, required_without (by decide),
      optional_of_absent (Dict.lookup?_without_self _ _)]
  have heach := readsEach_items (record Message.read) vs
  refine ⟨?_, fun l hl => ?_, (readHead d).issues, ?_, ?_⟩
  · have hnone : (Checked.accepted ([] : List Message)).Accepts := ⟨_, rfl⟩
    rw [hread, hwithout]
    simp only [Checked.accepts_seq, Checked.accepts_below, heach.accepts_iff, hnone, and_true]
    exact (and_congr_left' and_comm).trans and_assoc
  · rw [hread] at hl
    obtain ⟨_, t, hinit, -, rfl⟩ := Checked.seq_eq_accepted.mp hl
    obtain ⟨build, ms, hhead, hms, rfl⟩ := Checked.seq_eq_accepted.mp hinit
    rw [messages_of_readHead hhead]
    exact heach.each ms (Checked.below_eq_accepted.mp hms)
  · rw [hwithout, Checked.issues_seq, Checked.issues_seq]
    exact congrArg (· ++ _) (List.append_nil _)
  · rw [hread, Checked.issues_seq, Checked.issues_seq, Checked.issues_below, heach.issues]

end Log

section Lists

/-- Lists of sessions, of logs and of keys are all or nothing, and the messages of each log are:
what is accepted are the values of the items in their order, what is rejected are the issues of all
of them. -/
theorem lists_read_each (d : Dict Json) (vs : List Json) :
    (d.lookup? "items" = some (.arr vs) →
      Page.ReadsEach Session.read d vs ∧ Page.ReadsEach Log.read d vs) ∧
    (d.lookup? "messages" = some (.arr vs) → Log.ReadsEach d vs) ∧
    Record.ReadsEach (record ApiKey.read) vs (list (record ApiKey.read) (.arr vs)) :=
  ⟨fun h => ⟨Page.readsEach _ h, Page.readsEach _ h⟩, Log.readsEach, readsEach_items _ vs⟩

/-- The second message has no role that is a text. -/
def brokenMessages : List Json := [.obj [("role", .str "user")], .obj [("role", .int 5)]]

def brokenLog : Dict Json := [("id", .str "one"), ("session_id", .str "s"),
  ("messages", .arr brokenMessages), ("created_at", .null)]

def brokenItems : List Json := [.obj brokenLog, .null]

def brokenPage : Dict Json := [("total", .str "many"), ("items", .arr brokenItems)]

theorem brokenPage_reads_each :
    brokenPage.lookup? "items" = some (.arr brokenItems) ∧
      brokenLog.lookup? "messages" = some (.arr brokenMessages) ∧
      ¬(Log.read brokenLog).Accepts ∧
      (Page.read Log.read brokenPage).issues = [
        ⟨.integerText, [.key "items", .index 0, .key "id"]⟩,
        ⟨.notText, [.key "items", .index 0, .key "messages", .index 1, .key "role"]⟩,
        ⟨.notInstant, [.key "items", .index 0, .key "created_at"]⟩,
        ⟨.notRecord, [.key "items", .index 1]⟩,
        ⟨.integerText, [.key "total"]⟩] := by
  have hitems : brokenPage.lookup? "items" = some (.arr brokenItems) := rfl
  have hmessages : brokenLog.lookup? "messages" = some (.arr brokenMessages) := rfl
  have hpage := ((lists_read_each brokenPage brokenItems).1 hitems).2
  have hlog := (lists_read_each brokenLog brokenMessages).2.1 hmessages
  refine ⟨hitems, hmessages, fun h => ?_, ?_⟩
  · obtain ⟨m, hm⟩ := (hlog.accepts_iff.mp h).1 (.obj [("role", .int 5)]) (by simp [brokenMessages])
    cases hm
  · rw [hpage.issues]
    decide +kernel

end Lists
end ChatAudit
