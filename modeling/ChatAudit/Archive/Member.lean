import ChatAudit.Archive.Directory
import ChatAudit.Archive.Crc32

/-! The members of an archive and their contents. -/
namespace ChatAudit.Archive
open Bytes

def headerMark : Bytes := [0x50, 0x4b, 3, 4]
def headerLength : Nat := 30

/-- The places where the members end, at the latest: where the next one begins, or the directory
for the last. Of members that begin at one place only the first has room. -/
def Directory.ends (d : Directory) : List (Entry × Int) :=
  let sorted := d.entries.mergeSort fun a b => b.offset ≤ a.offset
  sorted.zip ((d.start : Int) :: sorted.map Entry.offset)

/-- The member with a name; of several the last one counts. -/
def Directory.find? (name : String) (d : Directory) : Option Entry :=
  d.entries.reverse.find? fun e => e.name == name

/-- The place of the member's data behind its own header. -/
def dataPosition (bs : Bytes) (e : Entry) : Except Fault Nat := do
  if e.offset < 0 then throw (.negativeOffset e.offset)
  let start := e.offset.toNat
  let header := slice start headerLength bs
  if header.length < headerLength then throw .headerTruncated
  if header.take 4 != headerMark then throw .headerMark
  let nameLength := field 26 2 header
  let name := slice (start + headerLength) nameLength bs
  if e.flags.testBit 5 then throw .patched
  if e.flags.testBit 6 then throw .strongEncryption
  let nameInHeader ← readName (field 6 2 header) name
  if nameInHeader != e.storedName then throw (.nameDiffers e.storedName name)
  return min bs.length (start + headerLength + nameLength + field 28 2 header)

/-- The content of packed data. -/
def unpack (e : Entry) (data : Bytes) : Except Fault Bytes :=
  match e.method with
  | 0 => .ok data
  | 8 =>
    match Inflate.inflate data with
    | .ok bs => .ok bs
    | .error f => .error (.data f)
  | _ => .error .method

/-- The content of a member that ends before `stop`. -/
def readMember (bs : Bytes) (e : Entry) (stop : Int) : Except Fault Bytes := do
  let position ← dataPosition bs e
  if stop < position + e.packedSize then throw (.overlap e.storedName)
  if e.flags.testBit 0 then throw (.encrypted e.name)
  let data := slice position e.packedSize bs
  let content := (← unpack e data).take e.size
  if data.length < e.packedSize && (data.isEmpty || content.length < e.size) then throw .endOfData
  if (Crc32.checksum content).toNat != e.checksum then throw (.checksum e.name)
  return content

/-- The content of the member that has the name of the first one, nothing if there is none. -/
def firstMember? (bs : Bytes) : Except Fault (Option Bytes) := do
  let d ← Directory.read bs
  match d.entries.head?.bind fun e => d.find? e.name with
  | none => return none
  | some e =>
    let stop : Int := (d.ends.reverse.find? fun p => p.1 == e).elim d.start (·.2)
    return some (← readMember bs e stop)

end ChatAudit.Archive
