import ChatAudit.Archive.Huffman

/-! Deflated data: literal bytes, and copies of bytes that came before. -/
namespace ChatAudit.Archive.Inflate

inductive Fault
  | blockType
  | storedLength
  | symbolCount
  | lengthCode
  | repeatedLength
  | noEndOfBlock
  | literalCode
  | distanceCode
  | literal
  | distance
  | tooFarBack
deriving DecidableEq, Repr

def Fault.message : Fault → String
  | .blockType => "invalid block type"
  | .storedLength => "invalid stored block lengths"
  | .symbolCount => "too many length or distance symbols"
  | .lengthCode => "invalid code lengths set"
  | .repeatedLength => "invalid bit length repeat"
  | .noEndOfBlock => "invalid code -- missing end-of-block"
  | .literalCode => "invalid literal/lengths set"
  | .distanceCode => "invalid distances set"
  | .literal => "invalid literal/length code"
  | .distance => "invalid distance code"
  | .tooFarBack => "invalid distance too far back"

/-- Why reading stops early. -/
inductive Halt
  /-- The data end too soon; what was read before counts. -/
  | short (output : Array UInt8)
  | fault (f : Fault)

/-- Bits that are left, the number of those that were read, and bytes that were written. -/
structure State where
  bits : List Bool
  output : Array UInt8

abbrev Reader (α : Type) := StateT State (Except Halt) α

def fail {α : Type} (f : Fault) : Reader α := fun _ => .error (.fault f)

def short {α : Type} : Reader α := fun s => .error (.short s.output)

/-- The bits of the bytes, lowest first. -/
def bitsOf (bytes : List UInt8) : List Bool :=
  bytes.flatMap fun b => (List.range 8).map b.toNat.testBit

def ofBits : List Bool → Nat
  | [] => 0
  | b :: bs => b.toNat + 2 * ofBits bs

/-- A number of `n` bits. -/
def bits (n : Nat) : Reader Nat := fun s =>
  let taken := s.bits.take n
  if taken.length < n then .error (.short s.output)
  else .ok (ofBits taken, { s with bits := s.bits.drop n })

/-- The symbol of the next code word; `unknown` if there is none. -/
def symbol (h : Huffman) (unknown : Fault) : Reader Nat := fun s =>
  match h.decode s.bits with
  | .symbol v rest => .ok (v, { s with bits := rest })
  | .short => .error (.short s.output)
  | .unknown => .error (.fault unknown)

def emit (b : UInt8) : Reader Unit := modify fun s => { s with output := s.output.push b }

/-- Skips to the next byte. -/
def align : Reader Unit := modify fun s => { s with bits := s.bits.drop (s.bits.length % 8) }

/-- Bytes that stand there as they are, as many as there are up to `n`. -/
def storedBytes : Nat → Reader Unit
  | 0 => pure ()
  | n + 1 => do
    emit (UInt8.ofNat (← bits 8))
    storedBytes n

/-- A block of plain bytes: their number, the same with all bits turned over, and the bytes. -/
def storedBlock : Reader Unit := do
  align
  let n ← bits 32
  let length := n % 65536
  if length + n / 65536 != 65535 then fail .storedLength else storedBytes length

/-- Base and number of further bits of the lengths 257, 258, and so on. -/
def lengthBases : List (Nat × Nat) :=
  [(3, 0), (4, 0), (5, 0), (6, 0), (7, 0), (8, 0), (9, 0), (10, 0), (11, 1), (13, 1), (15, 1),
    (17, 1), (19, 2), (23, 2), (27, 2), (31, 2), (35, 3), (43, 3), (51, 3), (59, 3), (67, 4),
    (83, 4), (99, 4), (115, 4), (131, 5), (163, 5), (195, 5), (227, 5), (258, 0)]

/-- Base and number of further bits of the distances. -/
def distanceBases : List (Nat × Nat) :=
  [(1, 0), (2, 0), (3, 0), (4, 0), (5, 1), (7, 1), (9, 2), (13, 2), (17, 3), (25, 3), (33, 4),
    (49, 4), (65, 5), (97, 5), (129, 6), (193, 6), (257, 7), (385, 7), (513, 8), (769, 8),
    (1025, 9), (1537, 9), (2049, 10), (3073, 10), (4097, 11), (6145, 11), (8193, 12), (12289, 12),
    (16385, 13), (24577, 13)]

/-- A number by its base and further bits. -/
def extended (table : List (Nat × Nat)) (index : Nat) (unknown : Fault) : Reader Nat :=
  match table[index]? with
  | some (base, more) => do return base + (← bits more)
  | none => fail unknown

/-- Copies bytes from `distance` bytes back, also those that it has just written. -/
def copy (distance : Nat) : (length : Nat) → Reader Unit
  | 0 => pure ()
  | n + 1 => do
    let out := (← get).output
    emit (out.getD (out.size - distance) 0)
    copy distance n

def backReference (distances : Huffman) (symbol' : Nat) : Reader Unit := do
  let length ← extended lengthBases (symbol' - 257) .literal
  let d ← symbol distances .distance
  let distance ← extended distanceBases d .distance
  if (← get).output.size < distance then fail .tooFarBack else copy distance length

/-- The symbols of a block up to its end; `fuel` bounds their number. -/
def symbols (literals distances : Huffman) : (fuel : Nat) → Reader Unit
  | 0 => short
  | fuel + 1 => do
    let s ← symbol literals .literal
    if s = 256 then return
    if s < 256 then emit (UInt8.ofNat s) else backReference distances s
    symbols literals distances fuel

def fixedLiterals : List Nat :=
  List.replicate 144 8 ++ List.replicate 112 9 ++ List.replicate 24 7 ++ List.replicate 8 8

def fixedDistances : List Nat := List.replicate 32 5

/-- The order in which the lengths of the code for lengths are given. -/
def lengthOrder : List Nat := [16, 17, 18, 0, 8, 7, 9, 6, 10, 5, 11, 4, 12, 3, 13, 2, 14, 1, 15]

/-- A symbol of the code for lengths: a length, or a run of one. Without any code word each bit
stands for length zero. -/
def lengthSymbol (lengths : List Nat) : Reader Nat :=
  if Huffman.isEmpty lengths then do
    let _ ← bits 1
    return 0
  else symbol (Huffman.ofLengths lengths) .lengthCode

/-- A run of the length `l`. -/
def run (total : Nat) (done : List Nat) (base more l : Nat) : Reader (List Nat) := do
  let n := base + (← bits more)
  if total < done.length + n then fail .repeatedLength else return done ++ List.replicate n l

/-- The lengths of `total` code words after those in `done`; `fuel` bounds the number of runs. -/
def codeLengths (code : List Nat) (total : Nat) :
    (fuel : Nat) → (done : List Nat) → Reader (List Nat)
  | 0, done => pure done
  | fuel + 1, done => do
    if total ≤ done.length then return done
    let s ← lengthSymbol code
    if s < 16 then codeLengths code total fuel (done ++ [s])
    else if s = 16 then
      match done.getLast? with
      | none => do
        let _ ← bits 2
        fail .repeatedLength
      | some l => do codeLengths code total fuel (← run total done 3 2 l)
    else if s = 17 then do codeLengths code total fuel (← run total done 3 3 0)
    else do codeLengths code total fuel (← run total done 11 7 0)

/-- Reads `n` numbers of three bits. -/
def triples : Nat → Reader (List Nat)
  | 0 => pure []
  | n + 1 => do return (← bits 3) :: (← triples n)

/-- A block that gives its own codes. -/
def dynamicBlock (fuel : Nat) : Reader Unit := do
  let counts ← bits 14
  let literalCount := counts % 32 + 257
  let distanceCount := counts / 32 % 32 + 1
  if 286 < literalCount || 30 < distanceCount then fail .symbolCount
  let given ← triples (counts / 1024 + 4)
  let code := (List.range 19).map fun s => given.getD (lengthOrder.idxOf s) 0
  if !(Huffman.isEmpty code || Huffman.isComplete code) then fail .lengthCode
  let total := literalCount + distanceCount
  let lengths ← codeLengths code total total []
  let literals := lengths.take literalCount
  let distances := lengths.drop literalCount
  if literals.getD 256 0 = 0 then fail .noEndOfBlock
  if !Huffman.isCode literals then fail .literalCode
  if !Huffman.isCode distances then fail .distanceCode
  symbols (Huffman.ofLengths literals) (Huffman.ofLengths distances) fuel

def fixedBlock (fuel : Nat) : Reader Unit :=
  symbols (Huffman.ofLengths fixedLiterals) (Huffman.ofLengths fixedDistances) fuel

/-- Blocks up to the last one; `fuel` bounds the number of blocks, and of symbols in each. -/
def blocks (symbolFuel : Nat) : (fuel : Nat) → Reader Unit
  | 0 => short
  | fuel + 1 => do
    let header ← bits 3
    match header / 2 with
    | 0 => storedBlock
    | 1 => fixedBlock symbolFuel
    | 2 => dynamicBlock symbolFuel
    | _ => fail .blockType
    if header % 2 = 1 then return else blocks symbolFuel fuel

/-- The bytes that the data stand for. Data that end too soon give the bytes up to there, and what
follows the last block does not count. -/
def inflate (bytes : List UInt8) : Except Fault (List UInt8) :=
  let bits := bitsOf bytes
  let fuel := bits.length + 1
  match (blocks fuel fuel).run ⟨bits, #[]⟩ with
  | .ok (_, s) => .ok s.output.toList
  | .error (.short output) => .ok output.toList
  | .error (.fault f) => .error f

end ChatAudit.Archive.Inflate
