/-! Numbers and runs of bytes at places in a byte string. -/
namespace ChatAudit.Archive

abbrev Bytes := List UInt8

namespace Bytes

/-- The number that the bytes spell, lowest byte first. -/
def number : Bytes → Nat
  | [] => 0
  | b :: bs => b.toNat + 256 * number bs

/-- At most `length` bytes from `start` on. -/
def slice (start length : Nat) (bs : Bytes) : Bytes := (bs.drop start).take length

/-- The number in `width` bytes from `start` on. -/
def field (start width : Nat) (bs : Bytes) : Nat := number (slice start width bs)

/-- The last place where `mark` stands. -/
def lastIndex? (mark : Bytes) (bs : Bytes) : Option Nat :=
  go 0 none bs
where
  go (i : Nat) (found : Option Nat) : Bytes → Option Nat
    | [] => found
    | b :: rest => go (i + 1) (if (b :: rest).take mark.length == mark then some i else found) rest

end Bytes
end ChatAudit.Archive
