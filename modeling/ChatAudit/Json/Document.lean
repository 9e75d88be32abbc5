import ChatAudit.Json.Reader
import ChatAudit.Charset.Basic

/-! JSON documents as bytes. -/
namespace ChatAudit.Json

/-- The encoding that a byte order mark, or the place of the zero bytes, gives away. -/
def charsetOf (bytes : List UInt8) : Charset :=
  if (Charset.byteOrder? 4 bytes).isSome then .utf32 none
  else if (Charset.byteOrder? 2 bytes).isSome then .utf16 none
  else match bytes with
    | [a, b] =>
      if a == 0 then .utf16 (some .big)
      else if b == 0 then .utf16 (some .little)
      else .utf8 false
    | a :: b :: c :: d :: _ =>
      if a == 0 then (if b == 0 then .utf32 (some .big) else .utf16 (some .big))
      else if b == 0 then
        (if c == 0 && d == 0 then .utf32 (some .little) else .utf16 (some .little))
      else .utf8 true
    | _ => .utf8 true

def readBytes? (bytes : List UInt8) : Option Json :=
  match (charsetOf bytes).decode bytes with
  | .ok cs => read? cs
  | .error _ => none

end ChatAudit.Json
