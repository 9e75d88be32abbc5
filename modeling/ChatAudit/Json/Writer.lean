import ChatAudit.Json.Basic
import ChatAudit.Binary64.Format

/-! Values to JSON documents without white space. -/
namespace ChatAudit.Json

def escapedChar (c : Char) : List Char :=
  if c == '"' then ['\\', '"']
  else if c == '\\' then ['\\', '\\']
  else if c == '\n' then ['\\', 'n']
  else if c == '\r' then ['\\', 'r']
  else if c == '\t' then ['\\', 't']
  else if c.toNat == 0x0c then ['\\', 'f']
  else if c.toNat == 0x08 then ['\\', 'b']
  else if c.toNat < 0x20 then '\\' :: 'u' :: Text.hexDigits 4 c.toNat
  else [c]

def writeText (s : String) : List Char := '"' :: s.toList.flatMap escapedChar ++ ['"']

def writeNumber : Binary64 → String
  | .nan => "NaN"
  | .infinite s => Binary64.signed s "Infinity"
  | x => x.format

mutual

/-- The characters of `v`, followed by `rest`. -/
def writeTo (rest : List Char) : Json → List Char
  | .null => "null".toList ++ rest
  | .bool true => "true".toList ++ rest
  | .bool false => "false".toList ++ rest
  | .int n => (toString n).toList ++ rest
  | .float x => (writeNumber x).toList ++ rest
  | .str s => writeText s ++ rest
  | .arr items => '[' :: writeItems true (']' :: rest) items
  | .obj entries => '\x7b' :: writeEntries true ('\x7d' :: rest) entries

def writeItems (first : Bool) (rest : List Char) : List Json → List Char
  | [] => rest
  | v :: vs =>
    (if first then [] else [',']) ++ writeTo (writeItems false rest vs) v

def writeEntries (first : Bool) (rest : List Char) : List (String × Json) → List Char
  | [] => rest
  | (k, v) :: es =>
    (if first then [] else [',']) ++ writeText k ++ ':' :: writeTo (writeEntries false rest es) v

end

/-- The document for a value. Whole numbers are spelled in full, also with more than
`Text.maxDigits` digits, which are not read again. -/
def write (v : Json) : String := String.ofList (writeTo [] v)

end ChatAudit.Json
