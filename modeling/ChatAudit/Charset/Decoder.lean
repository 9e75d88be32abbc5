/-! Bytes as a sequence of encoded characters and faults. -/
namespace ChatAudit.Charset

/-- One character, or the bytes that stand for none and why. -/
structure Piece where
  length : Nat
  content : Except String Char

/-- How the bytes in front are to be read. The list is never empty. -/
abbrev Decoder := UInt8 → List UInt8 → Piece

/-- The pieces of a byte string. -/
def pieces (next : Decoder) : List UInt8 → List Piece
  | [] => []
  | b :: bs =>
    let p := next b bs
    p :: pieces next (bs.drop (p.length - 1))
termination_by bs => bs.length
decreasing_by rw [List.length_drop, List.length_cons]; omega

/-- The bytes from `start` to `stop` are not text of the codec. -/
structure Fault where
  codec : String
  first : UInt8
  start : Nat
  stop : Nat
  reason : String
deriving Repr

/-- The text of `bytes` from position `start` on, or its first fault. -/
def strict (codec : String) (next : Decoder) (start : Nat) (bytes : List UInt8) :
    Except Fault (List Char) :=
  go start bytes (pieces next bytes) []
where
  go (at_ : Nat) (bytes : List UInt8) : List Piece → List Char → Except Fault (List Char)
    | [], done => .ok done.reverse
    | p :: ps, done =>
      match p.content with
      | .ok c => go (at_ + p.length) (bytes.drop p.length) ps (c :: done)
      | .error reason =>
        .error ⟨codec, bytes.headD 0, at_, at_ + p.length, reason⟩

/-- The character that stands for bytes that are not text. -/
def replacement : Char := Char.ofNat 0xfffd

/-- The text of `bytes` with a replacement character for each fault. -/
def lenient (next : Decoder) (bytes : List UInt8) : List Char :=
  (pieces next bytes).map fun p =>
    match p.content with
    | .ok c => c
    | .error _ => replacement

end ChatAudit.Charset
