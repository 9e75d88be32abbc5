import ChatAudit.Charset.Decoder

/-! The Unicode encodings with units of one, two and four bytes. -/
namespace ChatAudit.Charset

def continuation (b : UInt8) : Bool := 0x80 ≤ b && b < 0xc0

/-- The second bytes that a lead byte admits. -/
def secondRange (lead : UInt8) : UInt8 × UInt8 :=
  if lead == 0xe0 then (0xa0, 0xbf)
  else if lead == 0xed then (0x80, 0x9f)
  else if lead == 0xf0 then (0x90, 0xbf)
  else if lead == 0xf4 then (0x80, 0x8f)
  else (0x80, 0xbf)

/-- Number of bytes after a lead byte, and the bits that it brings. -/
def lead? (b : UInt8) : Option (Nat × Nat) :=
  if 0xc2 ≤ b && b < 0xe0 then some (1, b.toNat - 0xc0)
  else if 0xe0 ≤ b && b < 0xf0 then some (2, b.toNat - 0xe0)
  else if 0xf0 ≤ b && b < 0xf5 then some (3, b.toNat - 0xf0)
  else none

/-- Reads `left` more bytes of a character; `seen` bytes are read. -/
def continued (low high : UInt8) (seen value : Nat) : (left : Nat) → List UInt8 → Piece
  | 0, _ => ⟨seen, .ok (Char.ofNat value)⟩
  | _ + 1, [] => ⟨seen, .error "unexpected end of data"⟩
  | left + 1, b :: bs =>
    if low ≤ b && b ≤ high then
      continued 0x80 0xbf (seen + 1) (64 * value + (b.toNat - 0x80)) left bs
    else ⟨seen, .error "invalid continuation byte"⟩

def utf8Decoder : Decoder := fun b bs =>
  if b < 0x80 then ⟨1, .ok (Char.ofNat b.toNat)⟩
  else match lead? b with
    | none => ⟨1, .error "invalid start byte"⟩
    | some (left, value) =>
      let (low, high) := secondRange b
      continued low high 1 value left bs

inductive ByteOrder
  | big
  | little
deriving DecidableEq, Repr

def ByteOrder.unit (o : ByteOrder) (bytes : List UInt8) : Nat :=
  let ordered := match o with
    | .big => bytes
    | .little => bytes.reverse
  ordered.foldl (fun n b => 256 * n + b.toNat) 0

def isHigh (n : Nat) : Bool := 0xd800 ≤ n && n < 0xdc00
def isLow (n : Nat) : Bool := 0xdc00 ≤ n && n < 0xe000

def utf16Decoder (o : ByteOrder) : Decoder := fun a bs =>
  match bs with
  | [] => ⟨1, .error "truncated data"⟩
  | b :: rest =>
    let n := o.unit [a, b]
    if isLow n then ⟨2, .error "illegal encoding"⟩
    else if isHigh n then
      match rest with
      | c :: d :: _ =>
        let m := o.unit [c, d]
        if isLow m then ⟨4, .ok (Char.ofNat (0x10000 + (n - 0xd800) * 0x400 + (m - 0xdc00)))⟩
        else ⟨2, .error "illegal UTF-16 surrogate"⟩
      | _ => ⟨2 + rest.length, .error "unexpected end of data"⟩
    else ⟨2, .ok (Char.ofNat n)⟩

def utf32Decoder (o : ByteOrder) : Decoder := fun a bs =>
  match bs with
  | b :: c :: d :: _ =>
    let n := o.unit [a, b, c, d]
    if isHigh n || isLow n then
      ⟨4, .error "code point in surrogate code point range(0xd800, 0xe000)"⟩
    else if 0x10ffff < n then ⟨4, .error "code point not in range(0x110000)"⟩
    else ⟨4, .ok (Char.ofNat n)⟩
  | _ => ⟨1 + bs.length, .error "truncated data"⟩

/-- The byte order that a mark of the given width announces. -/
def byteOrder? (width : Nat) (bytes : List UInt8) : Option ByteOrder :=
  let mark := bytes.take width
  if mark.length < width then none
  else if ByteOrder.big.unit mark == 0xfeff then some .big
  else if ByteOrder.little.unit mark == 0xfeff then some .little
  else none

def utf8Mark : List UInt8 := [0xef, 0xbb, 0xbf]

end ChatAudit.Charset
