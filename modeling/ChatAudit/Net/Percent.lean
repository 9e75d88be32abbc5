import ChatAudit.Charset.Basic

/-! Percent escapes for the bytes of a text in UTF-8. -/
namespace ChatAudit.Percent

/-- Characters that never need an escape. -/
def isUnreserved (c : Char) : Bool :=
  c.isAlphanum || c == '-' || c == '.' || c == '_' || c == '~'

def escapeByte (b : UInt8) : List Char :=
  '%' :: (Text.hexDigits 2 b.toNat).map Char.toUpper

def escape (c : Char) : List Char := (String.utf8EncodeChar c).flatMap escapeByte

/-- Escapes all but the unreserved characters. -/
def encode (cs : List Char) : List Char :=
  cs.flatMap fun c => if isUnreserved c then [c] else escape c

/-- Whether an escape stands in front. -/
def startsEscape : List Char → Bool
  | '%' :: a :: b :: _ => (Text.hexValue? a).isSome && (Text.hexValue? b).isSome
  | _ => false

/-- Escapes what is neither unreserved nor `safe`, and leaves escapes as they are. -/
def normalize (safe : Char → Bool) : List Char → List Char
  | [] => []
  | c :: r =>
    (if isUnreserved c || safe c || startsEscape (c :: r) then [c] else escape c) ++
      normalize safe r

/-- The bytes that the text stands for; a mark without two digits stands for itself. -/
def bytes : List Char → List UInt8
  | [] => []
  | '%' :: a :: b :: r =>
    match Text.hexValue? a, Text.hexValue? b with
    | some h, some l => UInt8.ofNat (16 * h + l) :: bytes r
    | _, _ => 0x25 :: bytes (a :: b :: r)
  | c :: r => String.utf8EncodeChar c ++ bytes r

/-- The text without its escapes. -/
def decode (cs : List Char) : List Char := (Charset.utf8 false).decodeLenient (bytes cs)

end ChatAudit.Percent
