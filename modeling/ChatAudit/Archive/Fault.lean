import ChatAudit.Archive.Bytes
import ChatAudit.Archive.Inflate
import ChatAudit.Charset.Basic
import ChatAudit.Text.Quoted

/-! Why an archive cannot be read. -/
namespace ChatAudit.Archive
open Text

inductive Fault
  | notArchive
  | manyDisks
  | directoryOffset
  | directoryTruncated
  | directoryMark
  /-- The archive asks for a later version of the format; it is given in tenths. -/
  | version (tenths : Nat)
  | extraField (id size : Nat)
  | largeField (part : String)
  | name (fault : Charset.Fault)
  | negativeOffset (n : Int)
  | headerTruncated
  | headerMark
  | patched
  | strongEncryption
  | nameDiffers (member : String) (inHeader : Bytes)
  | overlap (member : String)
  | encrypted (member : String)
  | method
  | data (fault : Inflate.Fault)
  | checksum (member : String)
  | endOfData

def quotedByte (quote : Char) (b : UInt8) : List Char :=
  let c := Char.ofNat b.toNat
  if b < 0x80 then
    if c.toNat < 0x20 || c.toNat == 0x7f then
      if c == '\t' || c == '\n' || c == '\r' then quotedChar quote c
      else '\\' :: 'x' :: hexDigits 2 b.toNat
    else quotedChar quote c
  else '\\' :: 'x' :: hexDigits 2 b.toNat

/-- Bytes between quotes with a mark in front. -/
def quotedBytes (bs : Bytes) : String :=
  let q := quoteFor (bs.map fun b => Char.ofNat b.toNat)
  String.ofList ('b' :: q :: bs.flatMap (quotedByte q) ++ [q])

def Fault.message : Fault → String
  | .notArchive => "File is not a zip file"
  | .manyDisks => "zipfiles that span multiple disks are not supported"
  | .directoryOffset => "Bad offset for central directory"
  | .directoryTruncated => "Truncated central directory"
  | .directoryMark => "Bad magic number for central directory"
  | .version n => "zip file version " ++ toString (n / 10) ++ "." ++ toString (n % 10)
  | .extraField id size =>
    "Corrupt extra field " ++ String.ofList (hexDigits 4 id) ++ " (size=" ++ toString size ++ ")"
  | .largeField part => "Corrupt zip64 extra field. " ++ part ++ " not found."
  | .name f => f.message
  | .negativeOffset n => "negative seek value " ++ toString n
  | .headerTruncated => "Truncated file header"
  | .headerMark => "Bad magic number for file header"
  | .patched => "compressed patched data (flag bit 5)"
  | .strongEncryption => "strong encryption (flag bit 6)"
  | .nameDiffers member inHeader =>
    "File name in directory " ++ quoted member ++ " and header " ++ quotedBytes inHeader ++
      " differ."
  | .overlap member => "Overlapped entries: " ++ quoted member ++ " (possible zip bomb)"
  | .encrypted member =>
    "File " ++ quoted member ++ " is encrypted, password required for extraction"
  | .method => "That compression method is not supported"
  | .data f => "Error -3 while decompressing data: " ++ f.message
  | .checksum member => "Bad CRC-32 for file " ++ quoted member
  | .endOfData => ""

end ChatAudit.Archive
