import ChatAudit.Text.Split

/-! Files that the gateway hands out. -/
namespace ChatAudit

structure File where
  filename : String
  contentType : String
  content : List UInt8
  /-- Whether the server left rows out. -/
  truncated : Bool
deriving DecidableEq, Repr

namespace File

/-- The mark at the start of an archive. -/
def archiveMark : List UInt8 := [0x50, 0x4b, 3, 4]

/-- Whether the type or the content says that the file is an archive. -/
def isZip (f : File) : Bool :=
  Text.occurs "zip".toList f.contentType.toList || f.content.take 4 == archiveMark

end File
end ChatAudit
