import ChatAudit.Proofs.Api.Refusal
import ChatAudit.Proofs.Json.Display

/-! What is told about a response without success: what its object says, else its body, else its
status. -/
namespace ChatAudit

namespace Json
variable {u v w : Json} {vs : List Json}

theorem orElse_assoc (u v w : Json) : (u.orElse v).orElse w = u.orElse (v.orElse w) := by
  by_cases hu : u.present
  · simp [orElse, hu]
  · simp [orElse, hu]

/-- An optional value goes before the others if it is present. -/
theorem find?_toList_append (o : Option Json) (h : vs.find? present = some v) :
    (o.toList ++ vs).find? present = some ((o.getD .null).orElse v) := by
  cases o with
  | none => exact h
  | some u =>
    by_cases hu : u.present
    · simp [orElse, hu]
    · simp [orElse, hu, h]

end Json

theorem Status.describe_ne_empty (code : Int) (url : String) (location : Option String) :
    describe code url location ≠ "" := by
  simp [describe]

namespace Api

namespace Response

/-- The text of the body, none for a body without bytes. -/
def bodyText (r : Response) : String := if r.body.isEmpty then "" else r.text

/-- What there is to say about the status alone. -/
def statusText (r : Response) (url : String) : String :=
  Status.describe r.status url (if Status.isRedirect r.status then r.header? "location" else none)

/-- An entry of the object that the body is, if it is one. -/
def entry? (r : Response) (key : String) : Option Json :=
  ((Json.readBytes? r.body).bind Json.entries?).bind fun es => es.lookup? key

/-- All that may be told about a response, in the order in which it counts. -/
def accounts (r : Response) (url : String) : List Json :=
  (r.entry? "message").toList ++ ((r.entry? "detail").toList ++
    [.str r.bodyText, .str (r.statusText url)])

end Response

/-- Whether a failure tells what there is to tell about a response: its status, the first account
that is present, and the code of its object. -/
structure Failure.Recounts (f : Failure) (r : Response) (url : String) : Prop where
  status : f.status? = some r.status
  message : ∃ v, (r.accounts url).find? Json.present = some v ∧ f.message = .str v.display
  code : f.code = (r.entry? "code").getD .null

variable {c : Client} {op : Operation} {request : Request} {r : Response} {f : Failure} {url : String}

section Detail

theorem find?_texts (r : Response) (url : String) :
    [Json.str r.bodyText, .str (r.statusText url)].find? Json.present =
      some (.str (if r.bodyText == "" then r.statusText url else r.bodyText)) := by
  have hstatus : r.statusText url ≠ "" := Status.describe_ne_empty _ _ _
  by_cases hbody : r.bodyText = ""
  · simp [hbody, Json.present, hstatus]
  · simp [hbody, Json.present]

theorem errorDetail_eq (r : Response) (url : String) : errorDetail r url =
    (((r.entry? "message").getD .null).orElse (((r.entry? "detail").getD .null).orElse
      (.str (if r.bodyText == "" then r.statusText url else r.bodyText))),
      (r.entry? "code").getD .null) := by
  unfold errorDetail Response.entry?
  rw [← Json.orElse_assoc]
  cases Json.readBytes? r.body with
  | none => rfl
  | some v =>
    cases v with
    | obj es => rfl
    | _ => rfl

theorem find?_accounts (r : Response) (url : String) :
    (r.accounts url).find? Json.present = some (errorDetail r url).1 := by
  rw [errorDetail_eq]
  exact Json.find?_toList_append _ (Json.find?_toList_append _ (find?_texts r url))

/-- A response without success is turned down for its status, by exports as by any other
operation. -/
theorem Operation.answer_of_failure (op : Operation) (hs : ¬Status.isSuccess r.status)
    (url : String) : op.answer r url =
      .error (.status r.status (errorDetail r url).1 (errorDetail r url).2) := by
  have hstatus : checkStatus r url =
      .error (.status r.status (errorDetail r url).1 (errorDetail r url).2) := by
    simp [checkStatus, hs]
  have hbody : readBody r url =
      .error (.status r.status (errorDetail r url).1 (errorDetail r url).2) :=
    bind_eq_error.mpr (.inl hstatus)
  cases op with
  | exportSessions _ | exportLogs _ => exact bind_eq_error.mpr (.inl hstatus)
  | plain _ => exact hbody
  | _ => exact bind_eq_error.mpr (.inl hbody)

theorem recounts_status (r : Response) (url : String) :
    (Failure.status r.status (errorDetail r url).1 (errorDetail r url).2).Recounts r url := by
  refine ⟨rfl, ⟨_, find?_accounts r url, rfl⟩, ?_⟩
  rw [errorDetail_eq]
  rfl

/-- What is told is never empty. -/
theorem Failure.Recounts.exists_message (h : f.Recounts r url) : ∃ s, s ≠ "" ∧ f.message = .str s := by
  obtain ⟨v, hv, hmessage⟩ := h.message
  exact ⟨v.display, Json.display_ne_empty (List.find?_some hv), hmessage⟩

/-- A body with a text is told about in the same way wherever the request went. -/
theorem errorDetail_of_text (h : r.bodyText ≠ "") (url url' : String) :
    errorDetail r url = errorDetail r url' := by
  simp [errorDetail_eq, h]

end Detail

/-- The body of a response whose first account is empty. -/
def notFoundText : String := "\x7b\"message\":\"\",\"detail\":[17],\"code\":40\x7d"

def notFound : Response := ⟨404, [], Charset.encodeUtf8 notFoundText.toList⟩

theorem entry?_notFound (key : String) : notFound.entry? key =
    Dict.lookup? key [("message", .str ""), ("detail", .arr [.int 17]), ("code", .int 40)] := by
  have hd : ((Json.charsetOf notFound.body).decode notFound.body).toOption =
      some notFoundText.toList := by decide +kernel
  have hread : Json.readBytes? notFound.body = some (.obj
      [("message", .str ""), ("detail", .arr [.int 17]), ("code", .int 40)]) := by
    rw [Json.readBytes?_of_decode hd]
    rfl
  rw [Response.entry?, hread]
  rfl

end Api
end ChatAudit
