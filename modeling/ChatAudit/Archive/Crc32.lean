/-! The cyclic redundancy check of 32 bits that archives use. -/
namespace ChatAudit.Archive.Crc32

/-- The generator, lowest power in the highest bit. -/
def generator : UInt32 := 0xedb88320

def shift (r : UInt32) : UInt32 :=
  if r &&& 1 == 1 then (r >>> 1) ^^^ generator else r >>> 1

def addByte (r : UInt32) (b : UInt8) : UInt32 :=
  (List.range 8).foldl (fun r _ => shift r) (r ^^^ b.toUInt32)

def checksum (bytes : List UInt8) : UInt32 := bytes.foldl addByte 0xffffffff ^^^ 0xffffffff

end ChatAudit.Archive.Crc32
