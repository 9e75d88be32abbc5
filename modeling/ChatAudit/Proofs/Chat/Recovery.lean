import ChatAudit.Proofs.Chat.Created
import ChatAudit.Proofs.Json.Display

/-! Logs are read back from their texts. -/
namespace ChatAudit

namespace Text
variable {α : Type} {c : Char} {cs rest : List Char} {ps : List (List Char)} {as : List α}
  {stop? : List Char → Option (List Char)} {item? : List Char → Option (α × List Char)}

/-- What stands before the first `c`, and what stands after it. -/
def upTo? (c : Char) (cs : List Char) : Option (List Char × List Char) :=
  let (before, after) := cutAt c cs
  after.map (before, ·)

theorem upTo?_append (h : c ∉ cs) (rest : List Char) :
    upTo? c (cs ++ c :: rest) = some (cs, rest) := by
  rw [upTo?, cutAt_append h]
  rfl

theorem dropPrefix?_self (c : Char) (cs : List Char) : (c :: cs).dropPrefix? [c] = some cs := by
  simp [List.dropPrefix?]

/-- The items in front of the end that `stop?` finds, and what follows that end. An item takes some
text. -/
def itemsUntil? (stop? : List Char → Option (List Char))
    (item? : List Char → Option (α × List Char)) (cs : List Char) : Option (List α × List Char) :=
  match stop? cs with
  | some rest => some ([], rest)
  | none =>
    match item? cs with
    | none => none
    | some (a, rest) =>
      if rest.length < cs.length then
        (itemsUntil? stop? item? rest).map fun (as, rest) => (a :: as, rest)
      else none
termination_by cs.length

/-- Whether a text is read as the item `a`, whatever follows it. -/
structure ReadsAs (stop? : List Char → Option (List Char))
    (item? : List Char → Option (α × List Char)) (p : List Char) (a : α) : Prop where
  nonempty : p ≠ []
  goes : ∀ rest, stop? (p ++ rest) = none
  item : ∀ rest, item? (p ++ rest) = some (a, rest)

/-- Texts of items are read one after another. -/
theorem itemsUntil?_flatten (hitems : List.Forall₂ (ReadsAs stop? item?) ps as)
    (hstop : stop? cs = some rest) :
    itemsUntil? stop? item? (ps.flatten ++ cs) = some (as, rest) := by
  induction hitems with
  | nil =>
    unfold itemsUntil?
    simp [hstop]
  | @cons p a ps as hitem _ ih =>
    have hlength : 0 < p.length := List.length_pos_iff.mpr hitem.nonempty
    unfold itemsUntil?
    rw [List.flatten_cons, List.append_assoc, hitem.goes, hitem.item]
    dsimp only
    rw [if_pos (by simpa using hlength), ih]
    rfl

def atEnd? : List Char → Option (List Char)
  | [] => some []
  | _ => none

theorem atEnd?_append {p : List Char} (h : p ≠ []) (rest : List Char) :
    atEnd? (p ++ rest) = none := by
  cases p with
  | nil => exact absurd rfl h
  | cons c p => rfl

/-- The number that a text spells in decimal. -/
def integer (s : String) : Int :=
  match s.toList with
  | '-' :: ds => -(Nat.ofDigitChars 10 ds 0)
  | ds => Nat.ofDigitChars 10 ds 0

theorem integer_toString (n : Int) : integer (toString n) = n := by
  have hvalue : Nat.ofDigitChars 10 (Nat.toDigits 10 n.natAbs) 0 = n.natAbs :=
    Nat.ofDigitChars_ten_toDigits
  have hunsigned (ds : List Char) : Nat.toDigits 10 n.natAbs ≠ '-' :: ds := by
    intro h
    have hminus : '-' ∈ Nat.toDigits 10 n.natAbs := by
      rw [h]
      exact List.mem_cons_self
    exact absurd (Text.isDigit_of_mem_toDigits hminus) (by decide)
  unfold integer
  rw [Json.toList_toString]
  split_ifs with hn
  · split
    · next ds h => exact absurd h (hunsigned ds)
    · rw [hvalue]
      omega
  · change -(Nat.ofDigitChars 10 (Nat.toDigits 10 n.natAbs) 0 : Int) = n
    rw [hvalue]
    omega

/-- An empty text stands for nothing. -/
def known (s : String) : Option String := if s = "" then none else some s

end Text

open Calendar Text

namespace Log
variable {l : Log} {u : Timestamp}

/-- The values of the lines before the messages; the first and the last of these lines have none. -/
def values (l : Log) (createdAt : String) : List String := [
  "", toString l.id, createdAt, l.sessionId, blankOr l.requestId, blankOr l.clientRequestId,
  blankOrInt l.userId, blankOrInt l.apiKeyId, blankOrInt l.accountId, blankOrInt l.groupId,
  blankOr l.platform, blankOr l.model, blankOr l.requestPath, blankOrInt l.statusCode,
  if l.stream then "true" else "false", ""]

def labels : List String := [
  "----", "id: ", "created_at: ", "session_id: ", "request_id: ", "client_request_id: ",
  "user_id: ", "api_key_id: ", "account_id: ", "group_id: ", "platform: ", "model: ",
  "request_path: ", "status_code: ", "stream: ", "messages:"]

theorem length_values (l : Log) (createdAt : String) :
    labels.length = (l.values createdAt).length := by
  simp [labels, values]

theorem header_eq (l : Log) (createdAt : String) :
    l.header createdAt = List.zipWith (· ++ ·) labels (l.values createdAt) := by
  simp [header, labels, values]

/-- The values of labelled lines in front, and what follows these lines. -/
def fields? : List String → List Char → Option (List String × List Char)
  | [], cs => some ([], cs)
  | label :: labels, cs => do
    let cs ← cs.dropPrefix? label.toList
    let (value, cs) ← upTo? '\n' cs
    let (values, cs) ← fields? labels cs
    return (String.ofList value :: values, cs)

theorem fields?_textOf {labels values : List String} (hlength : labels.length = values.length)
    (hvalues : ∀ v ∈ values, '\n' ∉ v.toList) (rest : List Char) :
    fields? labels ((textOf (List.zipWith (· ++ ·) labels values)).toList ++ rest) =
      some (values, rest) := by
  induction labels generalizing values with
  | nil =>
    obtain rfl := List.length_eq_zero_iff.mp hlength.symm
    rfl
  | cons label labels ih =>
    obtain ⟨v, values, rfl⟩ := List.exists_cons_of_length_eq_add_one hlength.symm
    obtain ⟨hv, hvalues⟩ := List.forall_mem_cons.mp hvalues
    have hrest := ih (Nat.succ.inj hlength) hvalues
    rw [List.zipWith_cons_cons, toList_textOf_cons, String.toList_append, List.append_assoc,
      List.append_assoc, List.cons_append, fields?]
    simp [List.dropPrefix?_append_of_beq, upTo?_append hv, hrest]

/-- What a text tells of a log: the second in which it was made, and no difference between a text
that is absent and one that is empty. -/
def told (l : Log) (second : Timestamp) : Log := { l with
  requestId := known (blankOr l.requestId)
  clientRequestId := known (blankOr l.clientRequestId)
  platform := known (blankOr l.platform)
  model := known (blankOr l.model)
  requestPath := known (blankOr l.requestPath)
  createdAt := second }

def ofValues? (values : List String) (messages : List Message) : Option Log :=
  match values with
  | [_, id, createdAt, sessionId, requestId, clientRequestId, userId, apiKeyId, accountId, groupId,
      platform, model, requestPath, statusCode, stream, _] =>
    (Timestamp.ofStamp? createdAt.toList).map fun second => {
      id := integer id
      sessionId
      requestId := known requestId
      clientRequestId := known clientRequestId
      userId := (known userId).map integer
      apiKeyId := (known apiKeyId).map integer
      accountId := (known accountId).map integer
      groupId := (known groupId).map integer
      platform := known platform
      model := known model
      requestPath := known requestPath
      stream := stream == "true"
      statusCode := (known statusCode).map integer
      messages
      createdAt := second }
  | _ => none

theorem map_integer_known (v : Option Int) : (known (blankOrInt v)).map integer = v := by
  cases v with
  | none => rfl
  | some n =>
    change (known (toString n)).map integer = some n
    rw [known, if_neg (Json.toString_ne_empty n), Option.map_some, integer_toString]

theorem ofValues?_values (hu : u.offset = some 0) :
    ofValues? (l.values u.stamp) l.messages = some (l.told u.whole) := by
  have hstream : ((if l.stream then "true" else "false") == "true") = l.stream := by
    cases l.stream <;> decide
  simp only [ofValues?, values, Timestamp.ofStamp?_stamp hu, integer_toString, map_integer_known,
    hstream]
  rfl

end Log

/-- Whether a message can be told apart from what surrounds it. -/
structure Message.Plain (m : Message) : Prop where
  source : ']' ∉ m.source.toList
  role : ']' ∉ m.role.toList
  content : '\n' ∉ m.content.toList

instance (m : Message) : Decidable m.Plain :=
  decidable_of_iff (']' ∉ m.source.toList ∧ ']' ∉ m.role.toList ∧ '\n' ∉ m.content.toList)
    ⟨fun ⟨hs, hr, hc⟩ => ⟨hs, hr, hc⟩, fun ⟨hs, hr, hc⟩ => ⟨hs, hr, hc⟩⟩

def Message.take? (cs : List Char) : Option (Message × List Char) := do
  let cs ← cs.dropPrefix? ['[']
  let (index, cs) ← upTo? ']' cs
  let cs ← cs.dropPrefix? ['[']
  let (source, cs) ← upTo? ']' cs
  let cs ← cs.dropPrefix? ['[']
  let (role, cs) ← upTo? ']' cs
  let cs ← cs.dropPrefix? ['\n']
  let (content, cs) ← upTo? '\n' cs
  -- the line of an empty content is left out, so the empty line after the message was taken for it
  let cs ← if content.isEmpty then some cs else cs.dropPrefix? ['\n']
  return (⟨String.ofList role, String.ofList content, String.ofList source,
    integer (String.ofList index)⟩, cs)

theorem Message.toList_lines (m : Message) : (Log.textOf (Log.messageLines m)).toList =
    '[' :: ((toString m.index).toList ++ ']' :: '[' :: (m.source.toList ++ ']' :: '[' ::
      (m.role.toList ++ ']' :: '\n' ::
        if m.content = "" then ['\n'] else m.content.toList ++ ['\n', '\n']))) := by
  unfold Log.messageLines
  split_ifs <;> simp [Log.textOf]

theorem Message.take?_lines {m : Message} (hm : m.Plain) (rest : List Char) :
    Message.take? ((Log.textOf (Log.messageLines m)).toList ++ rest) = some (m, rest) := by
  obtain ⟨role, content, source, index⟩ := m
  obtain ⟨hsource, hrole, hcontent⟩ := hm
  have hindex : ']' ∉ (toString index).toList := not_mem_toString (by decide) index
  rw [Message.toList_lines]
  simp only [List.cons_append, List.append_assoc, Message.take?, dropPrefix?_self,
    upTo?_append hindex, upTo?_append hsource, upTo?_append hrole, Option.bind_eq_bind,
    Option.bind_some]
  by_cases hempty : content = ""
  · have hcut : upTo? '\n' ('\n' :: rest) = some ([], rest) :=
      upTo?_append List.not_mem_nil rest
    simp [hempty, hcut, integer_toString, -Int.toString_eq_repr]
  · have hcut : upTo? '\n' (content.toList ++ '\n' :: '\n' :: rest) =
        some (content.toList, '\n' :: rest) := upTo?_append hcontent _
    simp [hempty, hcut, dropPrefix?_self, integer_toString, -Int.toString_eq_repr]

namespace Log
variable {l : Log} {u : Timestamp}

/-- Whether the parts of a log that its text shows can be told apart. -/
structure Plain (l : Log) : Prop where
  fields : ∀ v ∈ [l.sessionId, blankOr l.requestId, blankOr l.clientRequestId, blankOr l.platform,
    blankOr l.model, blankOr l.requestPath], '\n' ∉ v.toList
  messages : ∀ m ∈ l.messages, m.Plain

instance (l : Log) : Decidable l.Plain :=
  decidable_of_iff ((∀ v ∈ [l.sessionId, blankOr l.requestId, blankOr l.clientRequestId,
    blankOr l.platform, blankOr l.model, blankOr l.requestPath], '\n' ∉ v.toList) ∧
      ∀ m ∈ l.messages, m.Plain)
    ⟨fun ⟨hf, hm⟩ => ⟨hf, hm⟩, fun ⟨hf, hm⟩ => ⟨hf, hm⟩⟩

theorem not_mem_blankOrInt (v : Option Int) : '\n' ∉ (blankOrInt v).toList := by
  cases v with
  | none => exact List.not_mem_nil
  | some n => exact not_mem_toString (by decide) n

theorem not_mem_values (hl : l.Plain) : ∀ v ∈ l.values u.stamp, '\n' ∉ v.toList := by
  have hstamp : '\n' ∉ u.stamp.toList := Timestamp.not_mem_stamp (by decide) (by decide)
  have hid : '\n' ∉ (toString l.id).toList := not_mem_toString (by decide) l.id
  have hstream : '\n' ∉ (if l.stream then "true" else "false").toList := by
    cases l.stream <;> decide
  have hfields := hl.fields
  simp only [List.forall_mem_cons] at hfields
  obtain ⟨hsession, hrequest, hclient, hplatform, hmodel, hpath, -⟩ := hfields
  simp only [values, List.forall_mem_cons, not_mem_blankOrInt, not_false_eq_true, true_and]
  exact ⟨by decide, hid, hstamp, hsession, hrequest, hclient, hplatform, hmodel, hpath, hstream,
    by decide, nofun⟩

def take? (cs : List Char) : Option (Log × List Char) := do
  let (values, cs) ← fields? labels cs
  let (messages, cs) ← itemsUntil? (·.dropPrefix? ['\n']) Message.take? cs
  return (← ofValues? values messages, cs)

theorem textOf_append (as bs : List String) : textOf (as ++ bs) = textOf as ++ textOf bs := by
  rw [textOf, List.map_append, String.join_append]
  rfl

theorem toList_textOf_messages (ms : List Message) : (textOf (ms.flatMap messageLines)).toList =
    (ms.map fun m => (textOf (messageLines m)).toList).flatten := by
  induction ms with
  | nil => rfl
  | cons m ms ih => simp [textOf_append, ih]

theorem readsAs_messageLines {m : Message} (hm : m.Plain) :
    ReadsAs (·.dropPrefix? ['\n']) Message.take? (textOf (messageLines m)).toList m where
  nonempty := by
    rw [Message.toList_lines]
    exact List.cons_ne_nil _ _
  goes rest := by
    rw [Message.toList_lines]
    rfl
  item := Message.take?_lines hm

theorem itemsUntil?_messages (hl : l.Plain) (rest : List Char) :
    itemsUntil? (·.dropPrefix? ['\n']) Message.take?
      ((textOf (l.messages.flatMap messageLines)).toList ++ '\n' :: rest) =
      some (l.messages, rest) := by
  have hitems : List.Forall₂ (ReadsAs (·.dropPrefix? ['\n']) Message.take?)
      (l.messages.map fun m => (textOf (messageLines m)).toList) l.messages := by
    rw [List.forall₂_map_left_iff, List.forall₂_same]
    exact fun m hm => readsAs_messageLines (hl.messages m hm)
  rw [toList_textOf_messages]
  exact itemsUntil?_flatten hitems (dropPrefix?_self '\n' rest)

theorem take?_lines (hl : l.Plain) (hu : u.offset = some 0) (rest : List Char) :
    take? ((textOf (l.lines u.stamp)).toList ++ rest) = some (l.told u.whole, rest) := by
  have hlines : (textOf (l.lines u.stamp)).toList ++ rest =
      (textOf (List.zipWith (· ++ ·) labels (l.values u.stamp))).toList ++
        ((textOf (l.messages.flatMap messageLines)).toList ++ '\n' :: rest) := by
    rw [lines, header_eq, textOf_append, textOf_append]
    simp only [String.toList_append, List.append_assoc]
    rfl
  rw [hlines, take?, fields?_textOf (length_values l u.stamp) (not_mem_values hl)]
  simp only [Option.bind_eq_bind, Option.bind_some]
  rw [itemsUntil?_messages hl]
  simp [ofValues?_values hu]

theorem textOf_cons_ne_nil (line : String) (lines : List String) :
    (textOf (line :: lines)).toList ≠ [] := by
  rw [toList_textOf_cons]
  exact List.append_ne_nil_of_right_ne_nil _ (List.cons_ne_nil _ _)

theorem readsAs_lines (hl : l.Plain) (hu : u.offset = some 0) :
    ReadsAs atEnd? take? (textOf (l.lines u.stamp)).toList (l.told u.whole) where
  nonempty := textOf_cons_ne_nil _ _
  goes := atEnd?_append (textOf_cons_ne_nil _ _)
  item := take?_lines hl hu

def shown (zone : Zone) (l : Log) : Except Timestamp.ShiftFault Log := do
  return l.told (← l.createdAt.toUtc zone).whole

end Log

/-- The logs that a transcript tells of. -/
def logsOf? (text : String) : Option (List Log) :=
  (itemsUntil? atEnd? Log.take? text.toList).map Prod.fst

variable {zone : Zone}

theorem readsAs_text {l : Log} {text : String} (hl : l.Plain) (htext : l.text zone = .ok text) :
    ∃ m, l.shown zone = .ok m ∧ ReadsAs atEnd? Log.take? text.toList m := by
  obtain ⟨u, hu, rfl⟩ := Log.text_eq_ok_iff.mp htext
  refine ⟨l.told u.whole, ?_, Log.readsAs_lines hl (Timestamp.toUtc_spec hu).1⟩
  rw [Log.shown, hu]
  rfl

theorem readsAs_texts {logs : List Log} {texts : List String} (hplain : ∀ l ∈ logs, l.Plain)
    (htexts : logs.mapM (Log.text zone) = .ok texts) :
    ∃ shown, logs.mapM (Log.shown zone) = .ok shown ∧
      List.Forall₂ (ReadsAs atEnd? Log.take?) (texts.map String.toList) shown := by
  induction logs generalizing texts with
  | nil =>
    cases htexts
    exact ⟨[], rfl, .nil⟩
  | cons l logs ih =>
    obtain ⟨hl, hlogs⟩ := List.forall_mem_cons.mp hplain
    obtain ⟨text, rest, htext, hrest, rfl⟩ := mapM_cons_eq_ok.mp htexts
    obtain ⟨m, hm, hreads⟩ := readsAs_text hl htext
    obtain ⟨shown, hshown, hitems⟩ := ih hlogs hrest
    exact ⟨m :: shown, mapM_cons_eq_ok.mpr ⟨m, shown, hm, hshown, rfl⟩, .cons hreads hitems⟩

/-- A transcript that is not cut tells all of its logs, each with all of its messages. -/
theorem transcript_reads_back {logs : List Log} {texts : List String} {limit : Int}
    (hplain : ∀ l ∈ logs, l.Plain) (htexts : logs.mapM (Log.text zone) = .ok texts)
    (hlimit : (String.join texts).length ≤ limit) :
    ∃ text shown, transcript zone logs limit = .ok text ∧ logs.mapM (Log.shown zone) = .ok shown ∧
      logsOf? text = some shown := by
  obtain ⟨shown, hshown, hitems⟩ := readsAs_texts hplain htexts
  refine ⟨String.join texts, shown, ?_, hshown, ?_⟩
  · rw [transcript, htexts]
    exact congrArg Except.ok (if_pos hlimit)
  · have hend : atEnd? [] = some [] := rfl
    have hread := itemsUntil?_flatten hitems hend
    rw [List.append_nil, ← List.flatMap_def, ← String.toList_join] at hread
    rw [logsOf?, hread]
    rfl

/-- A log whose contents look like marks and headers, made eight hours ahead of UTC on a day that had
not begun there. -/
def lookalike : Log where
  id := 7
  sessionId := "s 1"
  requestId := some ""
  clientRequestId := none
  userId := some (-3)
  apiKeyId := none
  accountId := some 0
  groupId := none
  platform := some "codex"
  model := some "id: 4"
  requestPath := some "/v1/responses"
  stream := true
  statusCode := some 200
  messages := [⟨"user", "----", "request", 1⟩, ⟨"assistant", "", "response", 0⟩,
    ⟨"tool\n", "[0][request][user]", "request", 0⟩]
  createdAt := ⟨yearStart 2026 * dayLength + 1234567, some 480, by decide⟩

theorem text_lookalike :
    lookalike.text .utc = .ok (Log.textOf (lookalike.lines "2025-12-31T16:00:01Z")) := by
  obtain ⟨u, hutc, hstamp⟩ :
      ∃ u, lookalike.createdAt.toUtc .utc = .ok u ∧ u.stamp = "2025-12-31T16:00:01Z" := by
    refine ⟨⟨yearStart 2026 * dayLength + 1234567 - 28800000000, some 0, by decide⟩, ?_, ?_⟩ <;>
      decide +kernel
  exact Log.text_eq_ok_iff.mpr ⟨u, hutc, by rw [hstamp]⟩

theorem length_lookalike :
    (Log.textOf (lookalike.lines "2025-12-31T16:00:01Z")).length ≤ 1000 := by
  simp only [Log.textOf, Log.lines, Log.header, Log.messageLines, lookalike, String.length_join,
    List.map_cons, List.map_nil, List.flatMap_cons, List.flatMap_nil, List.append_nil,
    List.map_append, List.sum_append, List.sum_cons, List.sum_nil, String.length_append]
  decide +kernel

theorem lookalikes_read_back : ∃ text shown, transcript .utc [lookalike, lookalike] = .ok text ∧
    [lookalike, lookalike].mapM (Log.shown .utc) = .ok shown ∧ logsOf? text = some shown := by
  have hplain : ∀ l ∈ [lookalike, lookalike], l.Plain := by decide +kernel
  obtain ⟨text, htext, hlength⟩ : ∃ text, lookalike.text .utc = .ok text ∧ text.length ≤ 1000 :=
    ⟨_, text_lookalike, length_lookalike⟩
  have htexts : [lookalike, lookalike].mapM (Log.text .utc) = .ok [text, text] :=
    mapM_cons_eq_ok.mpr ⟨text, [text], htext, mapM_cons_eq_ok.mpr ⟨text, [], htext, rfl, rfl⟩, rfl⟩
  refine transcript_reads_back hplain htexts ?_
  simp only [String.length_join, List.map_cons, List.map_nil, List.sum_cons, List.sum_nil]
  omega

end ChatAudit
