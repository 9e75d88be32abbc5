import ChatAudit.Text.Blank
import ChatAudit.Text.Split

/-! Parameters in a `Content-Type` header. -/
namespace ChatAudit.MediaType
open Text

/-- The number of quotes that no backslash stands before. -/
def plainQuotes : List Char → Nat
  | [] => 0
  | '\\' :: '"' :: r => plainQuotes r
  | '"' :: r => plainQuotes r + 1
  | _ :: r => plainQuotes r

/-- Joins parts until the quotes in the one under way are closed. -/
def closeQuotes (before : List Char) : List (List Char) → List (List Char)
  | [] => []
  | [p] => [before ++ p]
  | p :: ps =>
    if plainQuotes (before ++ p) % 2 == 1 && !(before ++ p).isEmpty then
      closeQuotes (before ++ p ++ [';']) ps
    else (before ++ p) :: closeQuotes [] ps

/-- The parts between semicolons that stand outside quotes. -/
def parts (cs : List Char) : List (List Char) := closeQuotes [] (splitOn ';' cs)

/-- A text without the escapes before `c`. -/
def unescape (c : Char) : List Char → List Char
  | '\\' :: d :: r => if d == c then c :: unescape c r else '\\' :: unescape c (d :: r)
  | d :: r => d :: unescape c r
  | [] => []

/-- A value without the quotes or angle brackets around it. -/
def unquote (cs : List Char) : List Char :=
  if cs.length ≤ 1 then cs
  else match cs.head?, cs.getLast? with
    | some '"', some '"' => unescape '"' (unescape '\\' cs.tail.dropLast)
    | some '<', some '>' => cs.tail.dropLast
    | _, _ => cs

/-- Name and value of a parameter. -/
def parameter (cs : List Char) : List Char × List Char :=
  let (name, value) := cutAt '=' cs
  ((stripBy isBlank name).map Char.toLower, stripBy isBlank (value.getD []))

/-- The charset in small letters, if it is ASCII. -/
def charset? (header : String) : Option String := do
  let (_, value) ← ((parts header.toList).map parameter).find? (·.1 = "charset".toList)
  let value := unquote value
  if value.all fun c => c.toNat < 128 then some (String.ofList (value.map Char.toLower)) else none

end ChatAudit.MediaType
