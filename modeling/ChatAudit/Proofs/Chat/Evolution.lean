import ChatAudit.Chat.Deletion
import ChatAudit.Chat.Statistics
import ChatAudit.Chat.Summary
import ChatAudit.Proofs.Chat.Lists
import ChatAudit.Proofs.Record.Shape

/-! Answers of a gateway that says more than the records have fields for, and that says less where
a list is empty. -/
namespace ChatAudit
open Record

/-- Fields that hold no records. -/
def Record.Shape.plainFields (keys : List String) : Dict Shape := keys.map (·, .plain)

section Fields
open Shape (plainFields)

def Message.fields : Dict Shape := plainFields ["role", "content", "source", "index"]

def Session.fields : Dict Shape := plainFields ["session_id", "user_id", "user_email",
  "api_key_id", "account_id", "group_id", "platform", "model", "message_preview", "last_at",
  "request_count"]

def Log.fields : Dict Shape := plainFields ["id", "session_id", "request_id", "client_request_id",
  "user_id", "api_key_id", "account_id", "group_id", "platform", "model", "request_path", "stream",
  "status_code"] ++ [("messages", .listOrNull (.record Message.fields)), ("created_at", .plain)]

def Page.fields (item : Dict Shape) : Dict Shape :=
  ("items", .listOrNull (.record item)) :: plainFields ["total", "page", "page_size"]

def Summary.fields : Dict Shape :=
  plainFields ["summary", "sensitive_findings", "risk_level", "recommended_actions"]

def ApiKey.fields : Dict Shape := plainFields ["id", "name", "group_id", "status"]

def Deletion.fields : Dict Shape := plainFields ["logs_deleted", "sessions_deleted"]

def PlatformShare.fields : Dict Shape := plainFields ["count", "ratio"]

def Statistics.fields : Dict Shape := plainFields ["start_time", "end_time", "request_count",
  "session_count", "avg_requests_per_day", "avg_sessions_per_day", "estimated_bytes",
  "table_bytes"] ++ [("platform_share", .dict (.record PlatformShare.fields)),
  ("platform_share_basis", .plain)]

end Fields

section Readers

theorem Message.keeps_read : Keeps Message.fields Message.read := by
  repeat refine .seq ?_ (keeps_plain rfl)
  exact .map _ (keeps_plain rfl)

theorem Session.keeps_read : Keeps Session.fields Session.read := by
  repeat refine .seq ?_ (keeps_plain rfl)
  exact .map _ (keeps_plain rfl)

theorem Log.keeps_readHead : Keeps Log.fields Log.readHead := by
  repeat refine .seq ?_ (keeps_plain rfl)
  exact .map _ (keeps_plain rfl)

theorem Log.keeps_read : Keeps Log.fields Log.read :=
  .seq (.seq Log.keeps_readHead (keeps_lists rfl Message.keeps_read.tolerates)) (keeps_plain rfl)

theorem Page.keeps_read {α : Type} {item : Dict Json → Checked α} {fields : Dict Shape}
    (h : Keeps fields item) : Keeps (Page.fields fields) (Page.read item) := by
  repeat refine .seq ?_ (keeps_plain rfl)
  exact .map _ (keeps_lists rfl h.tolerates)

theorem Summary.keeps_read : Keeps Summary.fields Summary.read := by
  repeat refine .seq ?_ (keeps_plain rfl)
  exact .map _ (keeps_plain rfl)

theorem ApiKey.keeps_read : Keeps ApiKey.fields ApiKey.read := by
  repeat refine .seq ?_ (keeps_plain rfl)
  exact .map _ (keeps_plain rfl)

theorem Deletion.keeps_read : Keeps Deletion.fields Deletion.read :=
  .seq (.map _ (keeps_plain rfl)) (keeps_plain rfl)

theorem PlatformShare.keeps_read : Keeps PlatformShare.fields PlatformShare.read :=
  .seq (.map _ (keeps_plain rfl)) (keeps_plain rfl)

theorem Statistics.keeps_read : Keeps Statistics.fields Statistics.read := by
  refine .seq (.seq ?_ (keeps_field rfl PlatformShare.keeps_read.tolerates.dict nofun))
    (keeps_plain rfl)
  repeat refine .seq ?_ (keeps_plain rfl)
  exact .map _ (keeps_plain rfl)

end Readers

/-- The records that answers are made of. -/
inductive AnswerRecord
  | message
  | session
  | log
  | sessions
  | logs
  | summary
  | apiKey
  | deletion
  | share
  | statistics

namespace AnswerRecord

@[reducible] def Value : AnswerRecord → Type
  | message => Message
  | session => Session
  | log => Log
  | sessions => Page Session
  | logs => Page Log
  | summary => Summary
  | apiKey => ApiKey
  | deletion => Deletion
  | share => PlatformShare
  | statistics => Statistics

def read : (r : AnswerRecord) → Dict Json → Checked r.Value
  | message => Message.read
  | session => Session.read
  | log => Log.read
  | sessions => Page.read Session.read
  | logs => Page.read Log.read
  | summary => Summary.read
  | apiKey => ApiKey.read
  | deletion => Deletion.read
  | share => PlatformShare.read
  | statistics => Statistics.read

def fields : AnswerRecord → Dict Shape
  | message => Message.fields
  | session => Session.fields
  | log => Log.fields
  | sessions => Page.fields Session.fields
  | logs => Page.fields Log.fields
  | summary => Summary.fields
  | apiKey => ApiKey.fields
  | deletion => Deletion.fields
  | share => PlatformShare.fields
  | statistics => Statistics.fields

theorem keeps_read (r : AnswerRecord) : Keeps r.fields r.read := by
  cases r with
  | message => exact Message.keeps_read
  | session => exact Session.keeps_read
  | log => exact Log.keeps_read
  | sessions => exact Page.keeps_read Session.keeps_read
  | logs => exact Page.keeps_read Log.keeps_read
  | summary => exact Summary.keeps_read
  | apiKey => exact ApiKey.keeps_read
  | deletion => exact Deletion.keeps_read
  | share => exact PlatformShare.keeps_read
  | statistics => exact Statistics.keeps_read

/-- No field takes an object that holds null under no name. -/
def oddity : Json := .obj [("", .null)]

/-- Each declared entry is looked at. -/
theorem issues_oddity (r : AnswerRecord) :
    ∀ key ∈ r.fields.keys, (r.read [(key, oddity)]).issues ≠ (r.read []).issues := by
  cases r <;> decide

/-- A record, or a list of them, is read alike whatever its objects say beyond their fields, at any
depth, and whether its empty lists are there, null or missing: with the same value, or with the same
issues in the same order. The keys that may be added are exactly those that the record does not
declare. -/
theorem reads_alike (r : AnswerRecord) :
    (∀ v w, Relation.ReflTransGen (Edit (.record r.fields)) v w →
      record r.read v = record r.read w) ∧
    (∀ v w, Relation.ReflTransGen (Edit (.list (.record r.fields))) v w →
      list (record r.read) v = list (record r.read) w) ∧
    ∀ key, (∀ before v after, r.read (before ++ (key, v) :: after) = r.read (before ++ after)) ↔
      r.fields.lookup? key = none := by
  have htolerates : Tolerates (.record r.fields) (record r.read) := r.keeps_read.tolerates
  refine ⟨fun _ _ => htolerates.run, fun _ _ => htolerates.list.run, fun key => ?_⟩
  constructor
  · intro h
    by_contra hkey
    have hmem : key ∈ r.fields.keys := not_not.mp (mt Dict.lookup?_eq_none_iff.mpr hkey)
    exact r.issues_oddity key hmem (congrArg Checked.issues (h [] oddity []))
  · intro h before v after
    exact (r.keeps_read _ _ (.insert h before v after)).symm

/-- A page of two logs, the second one without an instant. It may have a cursor, its first log
messages, and the message of its second log may count its tokens. -/
def pageOf (cursor messages tokens : Dict Json) : Json := .obj (cursor ++ [
  ("items", .arr [
    .obj ([("id", .int 7), ("session_id", .str "s")] ++ messages ++ [("created_at", .int 0)]),
    .obj [("id", .int 8), ("session_id", .str "s"),
      ("messages", .arr [.obj ([("role", .str "user")] ++ tokens)]), ("created_at", .null)]]),
  ("total", .int 2)])

def cursor : Dict Json := [("cursor", .str "next")]
def noMessages : Dict Json := [("messages", .null)]
def tokens : Dict Json := [("tokens", .obj [])]

/-- Two entries that no record declares, and a null entry that is left out. -/
theorem pageOf_reads_alike :
    Relation.ReflTransGen (Edit (.record logs.fields)) (pageOf [] noMessages [])
        (pageOf cursor [] tokens) ∧
      record logs.read (pageOf [] noMessages []) = record logs.read (pageOf cursor [] tokens) ∧
      (record logs.read (pageOf cursor [] tokens)).issues = [
        ⟨.notInstant, [.key "items", .index 1, .key "created_at"]⟩] := by
  have hcursor : Edit (.record logs.fields) (pageOf [] noMessages [])
      (pageOf cursor noMessages []) := .insert rfl [] _ _
  have hdeclared : Log.fields.lookup? "messages" = some (.listOrNull (.record Message.fields)) :=
    rfl
  have hnull : Dict.lookup? "messages" ([("id", .int 7), ("session_id", .str "s")] ++ noMessages ++
      [("created_at", .int 0)]) = some .null := rfl
  have hmessages : Edit (.record logs.fields) (pageOf cursor noMessages []) (pageOf cursor [] []) :=
    .field rfl (.itemOrNull (.remove hdeclared hnull) [] _) cursor _
  have htokens : Edit (.record logs.fields) (pageOf cursor [] []) (pageOf cursor [] tokens) :=
    .field rfl (.itemOrNull (.field rfl (.itemOrNull (.insert rfl [_] _ []) [] []) [_, _] _) [_] [])
      cursor _
  have hedits := Relation.ReflTransGen.head hcursor (.head hmessages (.single htokens))
  exact ⟨hedits, (reads_alike logs).1 _ _ hedits, by decide +kernel⟩

end AnswerRecord
end ChatAudit
