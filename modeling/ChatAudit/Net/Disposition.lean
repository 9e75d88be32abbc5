import ChatAudit.Text.Blank

/-! The file name in a `Content-Disposition` header. -/
namespace ChatAudit.Disposition

/-- The small letter that a name is compared by. Both dotted capital and dotless small `i` count
as `i`. -/
def folded (c : Char) : Char :=
  if c.toNat == 0x130 || c.toNat == 0x131 then 'i' else c.toLower

/-- The rest after `word`, in any case. -/
def dropWord? (word cs : List Char) : Option (List Char) :=
  if (cs.take word.length).map folded = word then some (cs.drop word.length) else none

def dropOne (c : Char) : List Char → List Char
  | d :: r => if c == d then r else d :: r
  | [] => []

/-- A value with or without a quote in front, which ends at a quote or a semicolon and is not
empty. -/
def value? (cs : List Char) : Option (List Char) :=
  match (dropOne '"' cs).takeWhile fun c => c != '"' && c != ';' with
  | [] => none
  | v => some v

/-- The value of a file name parameter in front. A mark of its encoding is skipped unless it is
all there is. -/
def parameter? (cs : List Char) : Option (List Char) := do
  match dropOne '*' (← dropWord? "filename".toList cs) with
  | '=' :: r => ((dropWord? "utf-8''".toList r).bind value?).or (value? r)
  | _ => none

/-- The first file name parameter. -/
def find? : List Char → Option (List Char)
  | [] => none
  | c :: r => (parameter? (c :: r)).or (find? r)

/-- The file name that a header gives, without blanks around it. -/
def filename (header : Option String) (default : String) : String :=
  match find? (header.getD "").toList with
  | some v => String.ofList (Text.stripBy Text.isBlank v)
  | none => default

end ChatAudit.Disposition
