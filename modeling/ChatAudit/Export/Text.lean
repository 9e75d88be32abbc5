import ChatAudit.Archive.Member
import ChatAudit.Export.File

/-! Exports as text. -/
namespace ChatAudit.File

inductive TextFault
  | archive (fault : Archive.Fault)
  | label (fault : Charset.LabelFault)
  | text (fault : Charset.Fault)

def TextFault.message : TextFault → String
  | .archive f => f.message
  | .label f => f.message
  | .text f => f.message

/-- The text of bytes; no bytes are a text in any encoding. -/
def decode (label : String) (bytes : List UInt8) : Except TextFault String :=
  if bytes.isEmpty then .ok ""
  else do
    let charset ← (Charset.ofLabel label).mapError .label
    return String.ofList (← (charset.decode bytes).mapError .text)

/-- The text of an export. An archive stands for its first member, and an empty one for nothing. -/
def text (f : File) (label : String := "utf-8") : Except TextFault String :=
  if f.isZip then do
    match ← (Archive.firstMember? f.content).mapError .archive with
    | some content => decode label content
    | none => return ""
  else decode label f.content

end ChatAudit.File
