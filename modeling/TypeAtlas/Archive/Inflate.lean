import TypeAtlas.Bytes

/-!
# Inflating

A deflated byte string is a sequence of blocks: bytes as they are, or symbols in prefix codes, which
the block either states or takes from a fixed table. A symbol is a byte, the end of the block, or
the length of a copy of bytes written before; the distance back follows in a code of its own. Zeros
count as written before the first byte. What comes after the last block has no meaning.
-/

set_option autoImplicit false

namespace TypeAtlas.Archive

/-- The bits of a stream, in the order in which they are read. -/
abbrev Bits := List Bool

/-- The bits of a byte string; the least significant bit of a byte comes first. -/
def bitsOf (bytes : Bytes) : Bits :=
  bytes.flatMap fun b => (List.range 8).map fun i => b.toNat.testBit i

/-- Takes something off the front of the bits, if the bits are there and make sense. -/
abbrev BitReader (α : Type) := Bits → Option (α × Bits)

/-- Reads a number of a given width; its least significant bit comes first. -/
def readBits : Nat → BitReader Nat
  | 0, bits => some (0, bits)
  | _ + 1, [] => none
  | width + 1, bit :: rest => do
    let (high, rest) ← readBits width rest
    return (bit.toNat + 2 * high, rest)

/-! ## Prefix codes -/

/-- The greatest length of a code word. -/
def longestWord : Nat := 15

/-- A canonical prefix code: how many words there are of each length from one on, and the symbols in
the order of their words. -/
structure PrefixCode where
  counts : List Nat
  symbols : Array Nat
  deriving Repr

namespace PrefixCode

/-- The symbols of words of a length, in order. -/
def symbolsOf (lengths : List Nat) (length : Nat) : List Nat :=
  (lengths.zipIdx.filter fun entry => entry.1 = length).map Prod.snd

/-- The number of words of the greatest length that begin with a word of some length. -/
def share (length : Nat) : Nat := if length = 0 then 0 else Nat.pow 2 (longestWord - length)

/-- The number of words of the greatest length that the code takes up. -/
def taken (lengths : List Nat) : Nat := lengths.foldl (fun n length => n + share length) 0

/-- The code in which every symbol has a word of the given length, or none where the length is
zero. -/
def ofLengths (lengths : List Nat) : PrefixCode :=
  let groups := (List.range longestWord).map fun i => symbolsOf lengths (i + 1)
  ⟨groups.map List.length, groups.flatten.toArray⟩

/-- Whether every sequence of bits begins with one word of the code. -/
def isComplete (lengths : List Nat) : Bool := taken lengths == Nat.pow 2 longestWord

/-- Whether a code has at most one word, and that of one bit. -/
def isTrivial (lengths : List Nat) : Bool :=
  let used := lengths.filter (· ≠ 0)
  used.isEmpty || used == [1]

/-- The code of some lengths, which must be complete. -/
def complete? (lengths : List Nat) : Option PrefixCode :=
  if isComplete lengths then some (ofLengths lengths) else none

/-- The code of some lengths, which must be complete or trivial. -/
def ofLengths? (lengths : List Nat) : Option PrefixCode :=
  if isComplete lengths || isTrivial lengths then some (ofLengths lengths) else none

/-- Reads a word. Of the words as long as what has been read, `first` is the least one, and `index`
the place of its symbol. -/
def readFrom (symbols : Array Nat) : List Nat → Nat → Nat → Nat → BitReader Nat
  | [], _, _, _, _ => none
  | _ :: _, _, _, _, [] => none
  | count :: counts, word, first, index, bit :: rest =>
    let word := 2 * word + bit.toNat
    let first := 2 * first
    if word < first + count then some (symbols.getD (index + (word - first)) 0, rest)
    else readFrom symbols counts word (first + count) (index + count) rest

/-- Reads a symbol. -/
def read (code : PrefixCode) : BitReader Nat := readFrom code.symbols code.counts 0 0 0

end PrefixCode

/-- The codes of a block: of bytes and lengths, and of distances. -/
structure BlockCodes where
  literals : PrefixCode
  distances : PrefixCode
  deriving Repr

/-- The lengths of the words of the fixed code of bytes and lengths. -/
def fixedLiteralLengths : List Nat :=
  List.replicate 144 8 ++ List.replicate 112 9 ++ List.replicate 24 7 ++ List.replicate 8 8

/-- The codes of blocks that state none. -/
def fixedCodes : BlockCodes :=
  ⟨PrefixCode.ofLengths fixedLiteralLengths, PrefixCode.ofLengths (List.replicate 32 5)⟩

/-! ## Codes that a block states -/

/-- The order in which a block gives the lengths of the words for lengths. -/
def lengthOrder : List Nat := [16, 17, 18, 0, 8, 7, 9, 6, 10, 5, 11, 4, 12, 3, 13, 2, 14, 1, 15]

/-- Reads a number of three-bit numbers. -/
def readTriples : Nat → BitReader (List Nat)
  | 0, bits => some ([], bits)
  | count + 1, bits => do
    let (n, bits) ← readBits 3 bits
    let (others, bits) ← readTriples count bits
    return (n :: others, bits)

/-- The repetition that a symbol for lengths stands for: the length, and how often it occurs. -/
def readRepeat (before : List Nat) (symbol : Nat) : BitReader (Nat × Nat) := fun bits =>
  match symbol with
  | 16 =>
    match before.getLast? with
    | none => none
    | some length => do
      let (n, bits) ← readBits 2 bits
      return ((length, n + 3), bits)
  | 17 => do
    let (n, bits) ← readBits 3 bits
    return ((0, n + 3), bits)
  | 18 => do
    let (n, bits) ← readBits 7 bits
    return ((0, n + 11), bits)
  | length => some ((length, 1), bits)

/-- Reads lengths until there are as many as are wanted. The first argument bounds the number of
symbols. -/
def readLengths (code : PrefixCode) (wanted : Nat) : Nat → List Nat → BitReader (List Nat)
  | 0, before, bits =>
    if before.length = wanted then some (before, bits) else none
  | bound + 1, before, bits =>
    if before.length = wanted then some (before, bits)
    else if wanted < before.length then none
    else do
      let (symbol, bits) ← code.read bits
      let ((length, times), bits) ← readRepeat before symbol bits
      readLengths code wanted bound (before ++ List.replicate times length) bits

/-- Reads the codes that a block states. -/
def readCodes : BitReader BlockCodes := fun bits => do
  let (literals, bits) ← readBits 5 bits
  let (distances, bits) ← readBits 5 bits
  let (given, bits) ← readBits 4 bits
  let literals := literals + 257
  let distances := distances + 1
  guard (literals ≤ 286 ∧ distances ≤ 30)
  let (triples, bits) ← readTriples (given + 4) bits
  let placed := lengthOrder.zip triples
  let code ← PrefixCode.complete? ((List.range 19).map fun symbol => (placed.lookup symbol).getD 0)
  let wanted := literals + distances
  let (lengths, bits) ← readLengths code wanted wanted [] bits
  let literalCode ← PrefixCode.ofLengths? (lengths.take literals)
  let distanceCode ← PrefixCode.ofLengths? (lengths.drop literals)
  return (⟨literalCode, distanceCode⟩, bits)

/-! ## Symbols -/

/-- The least length, and the number of further bits, of each symbol for lengths. -/
def lengthBases : List (Nat × Nat) :=
  [(3, 0), (4, 0), (5, 0), (6, 0), (7, 0), (8, 0), (9, 0), (10, 0), (11, 1), (13, 1), (15, 1),
    (17, 1), (19, 2), (23, 2), (27, 2), (31, 2), (35, 3), (43, 3), (51, 3), (59, 3), (67, 4),
    (83, 4), (99, 4), (115, 4), (131, 5), (163, 5), (195, 5), (227, 5), (258, 0)]

/-- The least distance, and the number of further bits, of each symbol for distances. -/
def distanceBases : List (Nat × Nat) :=
  [(1, 0), (2, 0), (3, 0), (4, 0), (5, 1), (7, 1), (9, 2), (13, 2), (17, 3), (25, 3), (33, 4),
    (49, 4), (65, 5), (97, 5), (129, 6), (193, 6), (257, 7), (385, 7), (513, 8), (769, 8),
    (1025, 9), (1537, 9), (2049, 10), (3073, 10), (4097, 11), (6145, 11), (8193, 12), (12289, 12),
    (16385, 13), (24577, 13)]

/-- Reads the number of a symbol that has a least value and further bits. -/
def readBased (bases : List (Nat × Nat)) (symbol : Nat) : BitReader Nat := fun bits =>
  match bases[symbol]? with
  | none => none
  | some (base, width) => do
    let (extra, bits) ← readBits width bits
    return (base + extra, bits)

/-- What a symbol says. -/
inductive Symbol where
  | literal (b : UInt8)
  | blockEnd
  | copy (length distance : Nat)
  deriving DecidableEq, Repr

/-- Reads a symbol with all that belongs to it. -/
def readSymbol (codes : BlockCodes) : BitReader Symbol := fun bits => do
  let (symbol, bits) ← codes.literals.read bits
  if symbol < 256 then return (.literal (UInt8.ofNat symbol), bits)
  if symbol = 256 then return (.blockEnd, bits)
  let (length, bits) ← readBased lengthBases (symbol - 257) bits
  let (symbol, bits) ← codes.distances.read bits
  let (distance, bits) ← readBased distanceBases symbol bits
  return (.copy length distance, bits)

/-- The byte at a distance back from the end. -/
def byteBack (distance : Nat) (output : Array UInt8) : UInt8 :=
  if distance ≤ output.size then output.getD (output.size - distance) 0 else 0

/-- Copies bytes from a distance back to the end, one by one. -/
def copyBack (distance : Nat) : Nat → Array UInt8 → Array UInt8
  | 0, output => output
  | length + 1, output => copyBack distance length (output.push (byteBack distance output))

/-! ## Blocks -/

/-- The output so far, and the bits that are left. -/
abbrev Outcome := Option (Array UInt8 × Bits)

/-- Reads symbols up to the end of a block. The first argument bounds their number. -/
def inflateSymbols (codes : BlockCodes) : Nat → Array UInt8 → Bits → Outcome
  | 0, _, _ => none
  | bound + 1, output, bits =>
    match readSymbol codes bits with
    | none => none
    | some (.literal b, bits) => inflateSymbols codes bound (output.push b) bits
    | some (.blockEnd, bits) => some (output, bits)
    | some (.copy length distance, bits) =>
      inflateSymbols codes bound (copyBack distance length output) bits

/-- Reads a number of bytes. -/
def inflateBytes : Nat → Array UInt8 → Bits → Outcome
  | 0, output, bits => some (output, bits)
  | count + 1, output, bits =>
    match readBits 8 bits with
    | none => none
    | some (b, bits) => inflateBytes count (output.push (UInt8.ofNat b)) bits

/-- Reads the length of a block of bytes as they are, which is written twice, the second time with
all bits inverted. Such a block begins at a whole byte. -/
def readStoredLength : BitReader Nat := fun bits => do
  let (length, bits) ← readBits 16 (bits.drop (bits.length % 8))
  let (inverted, bits) ← readBits 16 bits
  guard (length + inverted = 0xFFFF)
  return (length, bits)

/-- Reads a block of symbols in some codes. -/
def inflateCoded (codes : BlockCodes) (output : Array UInt8) (bits : Bits) : Outcome :=
  inflateSymbols codes (bits.length + 1) output bits

/-- Reads a block of a kind, after its first three bits. -/
def inflateBlock (kind : Nat) (output : Array UInt8) (bits : Bits) : Outcome :=
  match kind with
  | 0 => (readStoredLength bits).bind fun (length, bits) => inflateBytes length output bits
  | 1 => inflateCoded fixedCodes output bits
  | 2 => (readCodes bits).bind fun (codes, bits) => inflateCoded codes output bits
  | _ => none

/-- Reads whether a block is the last one, and its kind. -/
def readBlockStart : BitReader (Bool × Nat) := fun bits => do
  let (last, bits) ← readBits 1 bits
  let (kind, bits) ← readBits 2 bits
  return ((last == 1, kind), bits)

/-- Reads blocks up to the last one. The first argument bounds their number. -/
def inflateBlocks : Nat → Array UInt8 → Bits → Option (Array UInt8)
  | 0, _, _ => none
  | bound + 1, output, bits => do
    let ((last, kind), bits) ← readBlockStart bits
    let (output, bits) ← inflateBlock kind output bits
    if last then return output else inflateBlocks bound output bits

/-- The bytes of a deflated byte string, if it makes sense and does not end too early. -/
def inflate (bytes : Bytes) : Option Bytes :=
  let bits := bitsOf bytes
  (inflateBlocks (bits.length + 1) #[] bits).map Array.toList

end TypeAtlas.Archive
