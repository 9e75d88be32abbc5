import ChatAudit.Archive.Fault

/-! The directory at the end of an archive. -/
namespace ChatAudit.Archive
open Bytes

/-- Where the directory lies. -/
structure End where
  size : Nat
  /-- The offset that is given for the directory, as if nothing stood before the archive. -/
  offset : Nat
  /-- The bytes before the records that end the archive. -/
  position : Int
deriving DecidableEq, Repr

/-- What the directory says about one member. -/
structure Entry where
  storedName : String
  flags : Nat
  method : Nat
  checksum : Nat
  packedSize : Nat
  size : Nat
  offset : Int
deriving DecidableEq, Repr

def endMark : Bytes := [0x50, 0x4b, 5, 6]
def largeMark : Bytes := [0x50, 0x4b, 6, 6]
def largeLocatorMark : Bytes := [0x50, 0x4b, 6, 7]
def entryMark : Bytes := [0x50, 0x4b, 1, 2]

def endLength : Nat := 22
def largeLength : Nat := 56
def largeLocatorLength : Nat := 20
def entryLength : Nat := 46

/-- Place of the end record: at the very end without a comment, else the last one in reach of a
comment. -/
def endPosition? (bs : Bytes) : Option Nat :=
  let last := bs.drop (bs.length - endLength)
  if last.length = endLength && last.take 4 == endMark && last.drop 20 == [0, 0] then
    some (bs.length - endLength)
  else do
    let start := bs.length - 65536 - endLength
    let i ← lastIndex? endMark (bs.drop start)
    if bs.length < start + i + endLength then none else some (start + i)

/-- The end record at `p`, or the record for large archives that stands before it. -/
def endAt (bs : Bytes) (p : Nat) : Except Fault End :=
  let plain : End := ⟨field (p + 12) 4 bs, field (p + 16) 4 bs, p⟩
  let locator := slice (p - largeLocatorLength) largeLocatorLength bs
  if locator.length < largeLocatorLength || locator.take 4 != largeLocatorMark then .ok plain
  else if field 4 4 locator != 0 || 1 < field 16 4 locator then .error .manyDisks
  else
    let large := slice (p - largeLocatorLength - largeLength) largeLength bs
    if large.length < largeLength || large.take 4 != largeMark then .ok plain
    else .ok ⟨field 40 8 large, field 48 8 large, (p : Int) - largeLocatorLength - largeLength⟩

/-- The encoding of a member's name. -/
def nameCharset (flags : Nat) : Charset :=
  if flags.testBit 11 then .utf8 false else (Charset.ofLabel? "cp437").getD .latin1

def readName (flags : Nat) (bs : Bytes) : Except Fault String :=
  match (nameCharset flags).decode bs with
  | .ok cs => .ok (String.ofList cs)
  | .error f => .error (.name f)

/-- The name up to the first zero character. -/
def Entry.name (e : Entry) : String := String.ofList (e.storedName.toList.takeWhile (·.toNat != 0))

/-- A number of eight bytes in front of `data` in place of one that is too large for its field. -/
def largeNumber (isLarge : Bool) (name : String) (n : Nat) (data : Bytes) :
    Except Fault (Nat × Bytes) :=
  if !isLarge then .ok (n, data)
  else if data.length < 8 then .error (.largeField name)
  else .ok (field 0 8 data, data.drop 8)

def tooLarge (n : Nat) : Bool := n == 0xffffffff

/-- The sizes and the offset of a member as an extra field for large ones gives them. -/
def withLarge (e : Entry) (data : Bytes) : Except Fault Entry := do
  let (size, data) ← largeNumber (tooLarge e.size || e.size == 0xffffffffffffffff) "File size"
    e.size data
  let (packed, data) ← largeNumber (tooLarge e.packedSize) "Compress size" e.packedSize data
  let (offset, _) ← largeNumber (e.offset == 0xffffffff) "Header offset" e.offset.toNat data
  return { e with size, packedSize := packed, offset }

/-- The extra fields of a member, one after the other; `fuel` bounds their number. -/
def readExtra : (fuel : Nat) → Entry → Bytes → Except Fault Entry
  | 0, e, _ => .ok e
  | fuel + 1, e, extra =>
    if extra.length < 4 then .ok e
    else
      let id := field 0 2 extra
      let size := field 2 2 extra
      if extra.length < size + 4 then .error (.extraField id size)
      else do
        let e ← if id = 1 then withLarge e (slice 4 size extra) else pure e
        readExtra fuel e (extra.drop (size + 4))

/-- The entry in front of the directory `bs`, and its length. -/
def readEntry (shift : Int) (bs : Bytes) : Except Fault (Entry × Nat) := do
  if bs.length < entryLength then throw .directoryTruncated
  if bs.take 4 != entryMark then throw .directoryMark
  let nameLength := field 28 2 bs
  let extraLength := field 30 2 bs
  let flags := field 8 2 bs
  let storedName ← readName flags (slice entryLength nameLength bs)
  let version := field 6 1 bs
  if 63 < version then throw (.version version)
  let e : Entry := {
    storedName
    flags
    method := field 10 2 bs
    checksum := field 16 4 bs
    packedSize := field 20 4 bs
    size := field 24 4 bs
    offset := field 42 4 bs }
  let e ← readExtra extraLength e (slice (entryLength + nameLength) extraLength bs)
  return ({ e with offset := e.offset + shift },
    entryLength + nameLength + extraLength + field 32 2 bs)

/-- The entries of the directory `bs`; `fuel` bounds their number, and `left` is the length of the
directory that is still to come. -/
def readEntries (shift : Int) : (fuel left : Nat) → Bytes → Except Fault (List Entry)
  | 0, _, _ => .ok []
  | fuel + 1, left, bs =>
    if left = 0 then .ok []
    else do
      let (e, n) ← readEntry shift bs
      return e :: (← readEntries shift fuel (left - n) (bs.drop n))

structure Directory where
  /-- The place where the directory begins. -/
  start : Nat
  entries : List Entry

def Directory.read (bs : Bytes) : Except Fault Directory := do
  let some p := endPosition? bs | throw .notArchive
  let e ← endAt bs p
  let start := e.position - e.size
  if start < 0 then throw .directoryOffset
  let start := start.toNat
  let entries ← readEntries (start - e.offset) e.size e.size (slice start e.size bs)
  return ⟨start, entries⟩

end ChatAudit.Archive
