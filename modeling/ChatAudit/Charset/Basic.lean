import ChatAudit.Charset.Unicode
import ChatAudit.Charset.CodePage
import ChatAudit.Dict
import ChatAudit.Text.Digit

/-! Character encodings by label, and the texts that they spell. -/
namespace ChatAudit

inductive Charset
  /-- A byte order mark in front is not part of the text when `marked`. -/
  | utf8 (marked : Bool)
  | ascii
  | latin1
  /-- Without an order, a mark in front decides, and little is assumed. -/
  | utf16 (order : Option Charset.ByteOrder)
  | utf32 (order : Option Charset.ByteOrder)
  | page (p : Charset.CodePage)

namespace Charset

/-- Labels are compared in small letters, with one underscore for each run of other marks. -/
def normalize (label : String) : String :=
  let keep (c : Char) : Bool := c.isAlphanum || c == '.'
  let parts := (label.toList.map fun c => if keep c then c.toLower else ' ').splitBy
    fun a b => (a == ' ') == (b == ' ')
  let parts := parts.filter fun p => p.head? != some ' '
  "_".intercalate (parts.map String.ofList)

def labels : List (String × Charset) := [
  ("utf_8", .utf8 false), ("utf8", .utf8 false), ("u8", .utf8 false), ("utf", .utf8 false),
  ("utf8_ucs2", .utf8 false), ("utf8_ucs4", .utf8 false), ("cp65001", .utf8 false),
  ("utf_8_sig", .utf8 true),
  ("ascii", .ascii), ("us_ascii", .ascii), ("us", .ascii), ("646", .ascii), ("cp367", .ascii),
  ("csascii", .ascii), ("ibm367", .ascii), ("iso646_us", .ascii), ("iso_ir_6", .ascii),
  ("iso_646.irv_1991", .ascii), ("ansi_x3.4_1968", .ascii), ("ansi_x3_4_1968", .ascii),
  ("ansi_x3.4_1986", .ascii),
  ("latin_1", .latin1), ("latin1", .latin1), ("latin", .latin1), ("l1", .latin1),
  ("iso8859_1", .latin1), ("iso_8859_1", .latin1), ("iso8859", .latin1), ("8859", .latin1),
  ("cp819", .latin1), ("ibm819", .latin1), ("csisolatin1", .latin1), ("iso_ir_100", .latin1),
  ("iso_8859_1_1987", .latin1),
  ("utf_16", .utf16 none), ("utf16", .utf16 none), ("u16", .utf16 none),
  ("utf_16_le", .utf16 (some .little)), ("utf_16le", .utf16 (some .little)),
  ("unicodelittleunmarked", .utf16 (some .little)),
  ("utf_16_be", .utf16 (some .big)), ("utf_16be", .utf16 (some .big)),
  ("unicodebigunmarked", .utf16 (some .big)),
  ("utf_32", .utf32 none), ("utf32", .utf32 none), ("u32", .utf32 none),
  ("utf_32_le", .utf32 (some .little)), ("utf_32le", .utf32 (some .little)),
  ("utf_32_be", .utf32 (some .big)), ("utf_32be", .utf32 (some .big))]

def ofLabel? (label : String) : Option Charset :=
  let name := normalize label
  match Dict.lookup? name labels with
  | some c => some c
  | none => (codePages.find? fun p => p.labels.contains name).map .page

/-- Codecs between bytes and bytes, or texts and texts. -/
def otherCodecs : List String :=
  ["base64", "base64_codec", "base_64", "bz2", "bz2_codec", "hex", "hex_codec", "quopri",
    "quopri_codec", "quoted_printable", "quotedprintable", "rot13", "rot_13", "uu", "uu_codec",
    "zip", "zlib", "zlib_codec"]

inductive LabelFault
  | unknown (label : String)
  | notText (label : String)
deriving Repr

def LabelFault.message : LabelFault → String
  | .unknown label => "unknown encoding: " ++ label
  | .notText label =>
    "'" ++ label ++ "' is not a text encoding; use codecs.decode() to handle arbitrary codecs"

def ofLabel (label : String) : Except LabelFault Charset :=
  match ofLabel? label with
  | some c => .ok c
  | none =>
    .error (if otherCodecs.contains (normalize label) then .notText label else .unknown label)

/-- One byte for a character, the same code point, where `defined` has it. -/
def byteDecoder (reason : String) (char? : UInt8 → Option Char) : Decoder := fun b _ =>
  match char? b with
  | some c => ⟨1, .ok c⟩
  | none => ⟨1, .error reason⟩

def CodePage.char? (p : CodePage) (b : UInt8) : Option Char :=
  if b < 0x80 then some (Char.ofNat b.toNat)
  else match p.upper.toList[b.toNat - 0x80]? with
    | some c => if c == replacement then none else some c
    | none => none

/-- How bytes of the encoding are read: the codec's name, its decoder, the position of the first
character, and the bytes from there on. -/
structure Plan where
  codec : String
  decoder : Decoder
  start : Nat
  bytes : List UInt8

def orderName : ByteOrder → String
  | .big => "be"
  | .little => "le"

/-- A plan for encodings with wide units, where a byte order mark may stand in front. -/
def widePlan (name : String) (width : Nat) (decoder : ByteOrder → Decoder)
    (order : Option ByteOrder) (bytes : List UInt8) : Plan :=
  match order with
  | some o => ⟨name ++ "-" ++ orderName o, decoder o, 0, bytes⟩
  | none =>
    match byteOrder? width bytes with
    | some o => ⟨name ++ "-" ++ orderName o, decoder o, width, bytes.drop width⟩
    | none => ⟨name ++ "-le", decoder .little, 0, bytes⟩

def plan (bytes : List UInt8) : Charset → Plan
  | .utf8 marked =>
    ⟨"utf-8", utf8Decoder, 0, if marked && bytes.take 3 == utf8Mark then bytes.drop 3 else bytes⟩
  | .ascii =>
    ⟨"ascii", byteDecoder "ordinal not in range(128)" fun b =>
      if b < 0x80 then some (Char.ofNat b.toNat) else none, 0, bytes⟩
  | .latin1 => ⟨"latin-1", byteDecoder "" fun b => some (Char.ofNat b.toNat), 0, bytes⟩
  | .utf16 order => widePlan "utf-16" 2 utf16Decoder order bytes
  | .utf32 order => widePlan "utf-32" 4 utf32Decoder order bytes
  | .page p =>
    ⟨"charmap", byteDecoder "character maps to <undefined>" p.char?, 0, bytes⟩

/-- The text of `bytes`, or the first fault in it. -/
def decode (c : Charset) (bytes : List UInt8) : Except Fault (List Char) :=
  let p := c.plan bytes
  strict p.codec p.decoder p.start p.bytes

/-- The text of `bytes` with a replacement character for each fault. -/
def decodeLenient (c : Charset) (bytes : List UInt8) : List Char :=
  let p := c.plan bytes
  lenient p.decoder p.bytes

def Fault.message (f : Fault) : String :=
  let place :=
    if f.stop - f.start = 1 then
      "byte 0x" ++ String.ofList (Text.hexDigits 2 f.first.toNat) ++ " in position " ++
        toString f.start
    else "bytes in position " ++ toString f.start ++ "-" ++ toString (f.stop - 1)
  "'" ++ f.codec ++ "' codec can't decode " ++ place ++ ": " ++ f.reason

/-- The bytes of a text in UTF-8. -/
def encodeUtf8 (cs : List Char) : List UInt8 := cs.flatMap String.utf8EncodeChar

end Charset
end ChatAudit
