import ChatAudit.Json.Basic
import ChatAudit.Binary64.Reader

/-! The words, texts and marks of a JSON document. -/
namespace ChatAudit.Json

inductive Token
  | beginArray
  | endArray
  | beginObject
  | endObject
  | comma
  | colon
  | text (s : String)
  | word (v : Json)

/-- White space between tokens. -/
def isGap (c : Char) : Bool := c == ' ' || c == '\t' || c == '\n' || c == '\r'

def mark? (c : Char) : Option Token :=
  match c with
  | '[' => some .beginArray
  | ']' => some .endArray
  | '\x7b' => some .beginObject
  | '\x7d' => some .endObject
  | ',' => some .comma
  | ':' => some .colon
  | _ => none

/-- The characters of numbers and literals. -/
def isWordChar (c : Char) : Bool := c.isAlphanum || c == '+' || c == '-' || c == '.'

/-- A whole number has no zero in front and at most 4300 digits. -/
def wholePart? : List Nat → Option Nat
  | [] => none
  | 0 :: _ :: _ => none
  | ds => if ds.length ≤ Text.maxDigits then some (Text.ofDigits 10 ds) else none

/-- A number without its sign: digits, a fraction and an exponent. -/
def number? (negative : Bool) (cs : List Char) : Option Json :=
  match Binary64.digitRun cs with
  | ([], _) => none
  | (0 :: _ :: _, _) => none
  | (ds, []) =>
    (wholePart? ds).map fun n => .int (if negative then -(n : Int) else n)
  | (_, '.' :: r) =>
    if (Binary64.digitRun r).1.isEmpty then none
    else (Binary64.unsigned? negative cs).map .float
  | (_, _) => (Binary64.unsigned? negative cs).map .float

/-- The value that a word stands for. -/
def ofWord? (cs : List Char) : Option Json :=
  match cs with
  | '-' :: r =>
    if r = "Infinity".toList then some (.float (.infinite true)) else number? true r
  | _ =>
    if cs = "null".toList then some .null
    else if cs = "true".toList then some (.bool true)
    else if cs = "false".toList then some (.bool false)
    else if cs = "NaN".toList then some (.float .nan)
    else if cs = "Infinity".toList then some (.float (.infinite false))
    else number? false cs

/-- The character that stands for a code unit without its partner. -/
def replacement : Char := Char.ofNat 0xfffd

/-- A text under way: what was read, last character first, and a first half of a surrogate pair
that waits for the second. -/
structure Draft where
  before : List Char
  high : Option Nat

/-- The text so far. Texts hold no halves of surrogate pairs, so a lone one is replaced. -/
def Draft.flush (d : Draft) : List Char :=
  if d.high.isSome then replacement :: d.before else d.before

def Draft.push (d : Draft) (c : Char) : Draft := ⟨c :: d.flush, none⟩

def Draft.pushUnit (d : Draft) (n : Nat) : Draft :=
  if 0xd800 ≤ n && n < 0xdc00 then ⟨d.flush, some n⟩
  else if 0xdc00 ≤ n && n < 0xe000 then
    match d.high with
    | some h => ⟨Char.ofNat (0x10000 + (h - 0xd800) * 0x400 + (n - 0xdc00)) :: d.before, none⟩
    | none => ⟨replacement :: d.before, none⟩
  else d.push (Char.ofNat n)

/-- What the next character belongs to. -/
inductive Mode
  | between
  | word (before : List Char)
  | text (draft : Draft)
  | escape (draft : Draft)
  | code (draft : Draft) (left : Nat) (value : Nat)

def escaped? (c : Char) : Option Char :=
  match c with
  | '"' => some '"'
  | '\\' => some '\\'
  | '/' => some '/'
  | 'b' => some '\x08'
  | 'f' => some '\x0c'
  | 'n' => some '\n'
  | 'r' => some '\r'
  | 't' => some '\t'
  | _ => none

/-- A character between tokens. -/
def start? (c : Char) : Option (List Token × Mode) :=
  if isGap c then some ([], .between)
  else if c == '"' then some ([], .text ⟨[], none⟩)
  else match mark? c with
    | some t => some ([t], .between)
    | none => if isWordChar c then some ([], .word [c]) else none

/-- The tokens that end at `c`, and what follows. -/
def Mode.step? (c : Char) : Mode → Option (List Token × Mode)
  | .between => start? c
  | .word before =>
    if isWordChar c then some ([], .word (c :: before))
    else do
      let v ← ofWord? before.reverse
      let (ts, m) ← start? c
      return (.word v :: ts, m)
  | .text d =>
    if c == '"' then some ([.text (String.ofList d.flush.reverse)], .between)
    else if c == '\\' then some ([], .escape d)
    else if c.toNat < 0x20 then none
    else some ([], .text (d.push c))
  | .escape d =>
    if c == 'u' then some ([], .code d 4 0)
    else (escaped? c).map fun e => ([], .text (d.push e))
  | .code d left value =>
    (Text.hexValue? c).map fun h =>
      let value := 16 * value + h
      ([], if left ≤ 1 then .text (d.pushUnit value) else .code d (left - 1) value)

/-- The tokens of `cs`, put before the reversed `done`. -/
def lexFrom (mode : Mode) (done : List Token) : List Char → Option (List Token)
  | [] =>
    match mode with
    | .between => some done.reverse
    | .word before => (ofWord? before.reverse).map fun v => (Token.word v :: done).reverse
    | _ => none
  | c :: r =>
    match mode.step? c with
    | none => none
    | some (ts, mode) => lexFrom mode (ts.reverse ++ done) r

def lex? (cs : List Char) : Option (List Token) := lexFrom .between [] cs

end ChatAudit.Json
