/-! Bytes in groups of six bits. -/
namespace ChatAudit.Base64

def digit (n : Nat) : Char :=
  if n < 26 then Char.ofNat ('A'.toNat + n)
  else if n < 52 then Char.ofNat ('a'.toNat + (n - 26))
  else if n < 62 then Char.ofNat ('0'.toNat + (n - 52))
  else if n = 62 then '+'
  else '/'

/-- The group at bit `shift` of `n`. -/
def group (n shift : Nat) : Char := digit (n / Nat.pow 2 shift % 64)

/-- Three bytes are four characters; signs of equality fill up the last four. -/
def encode : List UInt8 → List Char
  | [] => []
  | [a] => let n := a.toNat * 65536; [group n 18, group n 12, '=', '=']
  | [a, b] =>
    let n := a.toNat * 65536 + b.toNat * 256
    [group n 18, group n 12, group n 6, '=']
  | a :: b :: c :: r =>
    let n := a.toNat * 65536 + b.toNat * 256 + c.toNat
    group n 18 :: group n 12 :: group n 6 :: group n 0 :: encode r

end ChatAudit.Base64
