import ChatAudit.Archive.Member
import Mathlib.Algebra.Ring.Nat
import Mathlib.Data.List.Basic

/-! Archives of stored members as they are written: the members one after the other, the directory,
and the records at the end. -/
namespace ChatAudit.Archive

namespace Bytes

/-- `n` in `width` bytes, lowest byte first. -/
def ofNumber : (width n : Nat) → Bytes
  | 0, _ => []
  | width + 1, n => UInt8.ofNat n :: ofNumber width (n / 256)

/-- Numbers of given widths, one after the other. -/
def ofFields (fields : List (Nat × Nat)) : Bytes := fields.flatMap fun f => ofNumber f.1 f.2

end Bytes

open Bytes

/-- The largest number that is written in four bytes. -/
def largest : Nat := 2 ^ 31 - 1

/-- What stands in a field of four bytes; a large number stands elsewhere. -/
def shown (large : Bool) (n : Nat) : Nat := if large then 0xffffffff else n

/-- The extra field for numbers of eight bytes, if there are any. -/
def largeField (numbers : List Nat) : Bytes :=
  if numbers.isEmpty then []
  else ofFields ([(2, 1), (2, 8 * numbers.length)] ++ numbers.map fun n => (8, n))

/-- The version of the format that reads a member, in tenths. -/
def version (large : Bool) : Nat := if large then 45 else 20

/-- A member that is stored as it is. -/
structure Stored where
  name : String
  content : Bytes
  /-- Time and date. -/
  stamp : UInt32
  /-- The system that the attributes are for. -/
  system : UInt8
  attributes : UInt32
  /-- Whether the sizes have eight bytes in front of the content. -/
  wide : Bool
  zero_not_mem : '\x00' ∉ name.toList
  length_name : (Charset.encodeUtf8 name.toList).length < 256 ^ 2
  wide_of_large : largest < content.length → wide

namespace Stored

def nameBytes (m : Stored) : Bytes := Charset.encodeUtf8 m.name.toList

/-- Names other than ASCII ones are marked as UTF-8. -/
def flags (m : Stored) : Nat := if m.name.toList.all fun c => c.toNat < 128 then 0 else 2 ^ 11

def size (m : Stored) : Nat := m.content.length

def checksum (m : Stored) : Nat := (Crc32.checksum m.content).toNat

def extra (m : Stored) : Bytes := largeField (if m.wide then [m.size, m.size] else [])

/-- What stands in front of the content. -/
def header (m : Stored) : Bytes :=
  headerMark ++ ofFields [(2, version m.wide), (2, m.flags), (2, 0), (4, m.stamp.toNat),
    (4, m.checksum), (4, shown m.wide m.size), (4, shown m.wide m.size),
    (2, m.nameBytes.length), (2, m.extra.length)] ++ m.nameBytes ++ m.extra

def bytes (m : Stored) : Bytes := m.header ++ m.content

/-- The numbers of eight bytes in the directory. -/
def largeNumbers (m : Stored) (offset : Nat) : List Nat :=
  (if largest < m.size then [m.size, m.size] else []) ++ if largest < offset then [offset] else []

/-- What stands in the directory for a member at `offset`. -/
def entryBytes (m : Stored) (offset : Nat) : Bytes :=
  let extra := largeField (m.largeNumbers offset)
  let version := version (m.wide || largest < offset)
  entryMark ++ ofFields [(1, version), (1, m.system.toNat), (2, version), (2, m.flags), (2, 0),
    (4, m.stamp.toNat), (4, m.checksum), (4, shown (largest < m.size) m.size),
    (4, shown (largest < m.size) m.size), (2, m.nameBytes.length), (2, extra.length), (2, 0),
    (2, 0), (2, 0), (4, m.attributes.toNat), (4, shown (largest < offset) offset)] ++ m.nameBytes ++ extra

end Stored

/-- The members with their offsets from the first one on. -/
def placed : (offset : Nat) → List Stored → List (Stored × Nat)
  | _, [] => []
  | offset, m :: ms => (m, offset) :: placed (offset + m.bytes.length) ms

def body (ms : List Stored) : Bytes := ms.flatMap Stored.bytes

def directory (ms : List Stored) : Bytes := (placed 0 ms).flatMap fun p => p.1.entryBytes p.2

/-- Whether the numbers of the end record are too large for it. -/
def isLarge (ms : List Stored) : Bool :=
  0xffff < ms.length || largest < (body ms).length || largest < (directory ms).length

/-- The end record of a large archive, with all numbers in eight bytes. -/
def largeEnd (ms : List Stored) : Bytes :=
  largeMark ++ ofFields [(8, 44), (2, 45), (2, 45), (4, 0), (4, 0), (8, ms.length), (8, ms.length),
    (8, (directory ms).length), (8, (body ms).length)]

/-- Where that record is to be found. -/
def largeLocator (ms : List Stored) : Bytes :=
  largeLocatorMark ++ ofFields [(4, 0), (8, (body ms).length + (directory ms).length), (4, 1)]

def endRecord (ms : List Stored) : Bytes :=
  endMark ++ ofFields [(2, 0), (2, 0), (2, min 0xffff ms.length), (2, min 0xffff ms.length),
    (4, min 0xffffffff (directory ms).length), (4, min 0xffffffff (body ms).length), (2, 0)]

/-- An archive of stored members. -/
def written (ms : List Stored) : Bytes :=
  body ms ++ directory ms ++ (if isLarge ms then largeEnd ms ++ largeLocator ms else []) ++
    endRecord ms

namespace Bytes
variable {n w : Nat}

theorem number_ofNumber (h : n < 256 ^ w) : number (ofNumber w n) = n := by
  induction w generalizing n with
  | zero =>
    rw [Nat.pow_zero, Nat.lt_one_iff] at h
    rw [h]
    rfl
  | succ w ih =>
    have hrest : n / 256 < 256 ^ w := Nat.div_lt_of_lt_mul (by rwa [← Nat.pow_succ'])
    have hlow : (UInt8.ofNat n).toNat = n % 256 := by simp
    rw [ofNumber, number, ih hrest, hlow, Nat.mod_add_div]

theorem length_ofNumber (w n : Nat) : (ofNumber w n).length = w := by
  induction w generalizing n with
  | zero => rfl
  | succ w ih => rw [ofNumber, List.length_cons, ih]

theorem length_ofFields (fields : List (Nat × Nat)) :
    (ofFields fields).length = (fields.map Prod.fst).sum := by
  simp [ofFields, List.length_flatMap, length_ofNumber]

end Bytes

end ChatAudit.Archive
