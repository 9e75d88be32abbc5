import ChatAudit.Json.Token

/-! JSON documents to values. -/
namespace ChatAudit.Json

/-- An array or object under way. -/
inductive Frame
  | items (before : List Json)
  | entries (before : Dict Json)
  | entry (before : Dict Json) (key : String)

/-- What may come next. A `first` place may also end what it begins. -/
inductive Place
  | value
  | firstItem
  | firstKey
  | key
  | colon
  | after

structure Reading where
  place : Place
  stack : List Frame
  result : Option Json := none

/-- A value is complete; it belongs to the innermost frame. -/
def Reading.complete (v : Json) : List Frame → Option Reading
  | [] => some ⟨.after, [], some v⟩
  | .items before :: fs => some ⟨.after, .items (v :: before) :: fs, none⟩
  | .entry before key :: fs => some ⟨.after, .entries (before.put key v) :: fs, none⟩
  | .entries _ :: _ => none

/-- A value begins here. -/
def Reading.begin (stack : List Frame) : Token → Option Reading
  | .beginArray => some ⟨.firstItem, .items [] :: stack, none⟩
  | .beginObject => some ⟨.firstKey, .entries [] :: stack, none⟩
  | .text s => complete (.str s) stack
  | .word v => complete v stack
  | _ => none

def Reading.step (r : Reading) (t : Token) : Option Reading :=
  match r.place, r.stack, t with
  | .value, stack, t => begin stack t
  | .firstItem, .items before :: fs, .endArray => complete (.arr before.reverse) fs
  | .firstItem, stack, t => begin stack t
  | .firstKey, .entries before :: fs, .endObject => complete (.obj before) fs
  | .firstKey, .entries before :: fs, .text k => some ⟨.colon, .entry before k :: fs, none⟩
  | .key, .entries before :: fs, .text k => some ⟨.colon, .entry before k :: fs, none⟩
  | .colon, stack, .colon => some ⟨.value, stack, none⟩
  | .after, .items before :: fs, .comma => some ⟨.value, .items before :: fs, none⟩
  | .after, .items before :: fs, .endArray => complete (.arr before.reverse) fs
  | .after, .entries before :: fs, .comma => some ⟨.key, .entries before :: fs, none⟩
  | .after, .entries before :: fs, .endObject => complete (.obj before) fs
  | _, _, _ => none

/-- The value of a document; of equal keys in an object the last counts. -/
def ofTokens? (ts : List Token) : Option Json := do
  let r ← ts.foldlM Reading.step ⟨.value, [], none⟩
  match r.stack with
  | [] => r.result
  | _ => none

def read? (cs : List Char) : Option Json := do ofTokens? (← lex? cs)

end ChatAudit.Json
