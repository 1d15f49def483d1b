/-!
# Deflated data

`inflate` reads the compressed form of RFC 1951: blocks that are stored or coded with prefix codes,
which stand for bytes and for copies of earlier output. When it comes to a place where it cannot go
on, it returns what it has so far and says why it stopped.
-/

namespace BuiltinAtlas.Archive

/-- Why decompression stopped before the end. -/
inductive Stop where
  /-- The data end too early. -/
  | truncated
  /-- The data are not in the compressed form. -/
  | corrupt
  deriving DecidableEq

/-- Reading bits of some bytes from a position on, the lowest bit of a byte first. -/
abbrev BitReader := ReaderT ByteArray (StateT Nat (Except Stop))

/-- Read from a position on. Returns the position behind what was read. -/
def BitReader.runAt {α : Type} (r : BitReader α) (bytes : ByteArray) (position : Nat) :
    Except Stop (α × Nat) := (r.run bytes).run position

/-- Read a bit. -/
def bit : BitReader Nat := do
  let position ← get
  match (← read)[position / 8]? with
  | none => throw .truncated
  | some b =>
    set (position + 1)
    return b.toNat >>> (position % 8) % 2

/-- Read a number of some bits, the lowest one first. -/
def bits : Nat → BitReader Nat
  | 0 => return 0
  | n + 1 => do
    let low ← bit
    let high ← bits n
    return low + 2 * high

/-- Pass over the rest of a byte. -/
def alignToByte : BitReader Unit := modify fun position ↦ (position + 7) / 8 * 8

/-- A canonical prefix code: how many code words have 1, 2, … 15 bits, and the symbols in the order
of their code words. -/
structure PrefixCode where
  counts : List Nat
  symbols : Array Nat

/-- The longest code word. -/
def maximalLength : Nat := 15

/-- The code in which the symbols 0, 1, … have code words of given lengths, where 0 means none. A
code with several symbols must be complete. -/
def PrefixCode.ofLengths (lengths : List Nat) : Except Stop PrefixCode :=
  let counts := (List.range maximalLength).map fun i ↦ lengths.count (i + 1)
  let weight := counts.zipIdx.foldl (fun sum (n, i) ↦ sum + n <<< (maximalLength - (i + 1))) 0
  if weight != 1 <<< maximalLength && 1 < counts.foldl (· + ·) 0 then .error .corrupt
  else
    let indexed := lengths.zipIdx
    .ok {
      counts := counts
      symbols := ((List.range maximalLength).flatMap fun i ↦
        (indexed.filter (·.1 == i + 1)).map (·.2)).toArray }

/-- Read a code word bit by bit. Of the code words with the present number of bits, the least is
`first` and has the symbol at `index`. -/
def readSymbol (symbols : Array Nat) (code first index : Nat) : List Nat → BitReader Nat
  | [] => throw .corrupt
  | count :: counts => do
    let code := 2 * code + (← bit)
    if code < first + count then
      match symbols[index + (code - first)]? with
      | some s => return s
      | none => throw .corrupt
    else readSymbol symbols code (2 * (first + count)) (index + count) counts

/-- Read a code word. -/
def PrefixCode.read (c : PrefixCode) : BitReader Nat := readSymbol c.symbols 0 0 0 c.counts

/-- The least length of each symbol from 257 on, and how many bits are added to it. -/
def lengthBases : Array (Nat × Nat) :=
  #[(3, 0), (4, 0), (5, 0), (6, 0), (7, 0), (8, 0), (9, 0), (10, 0), (11, 1), (13, 1), (15, 1),
    (17, 1), (19, 2), (23, 2), (27, 2), (31, 2), (35, 3), (43, 3), (51, 3), (59, 3), (67, 4),
    (83, 4), (99, 4), (115, 4), (131, 5), (163, 5), (195, 5), (227, 5), (258, 0)]

/-- The least distance of each symbol, and how many bits are added to it. -/
def distanceBases : Array (Nat × Nat) :=
  #[(1, 0), (2, 0), (3, 0), (4, 0), (5, 1), (7, 1), (9, 2), (13, 2), (17, 3), (25, 3), (33, 4),
    (49, 4), (65, 5), (97, 5), (129, 6), (193, 6), (257, 7), (385, 7), (513, 8), (769, 8),
    (1025, 9), (1537, 9), (2049, 10), (3073, 10), (4097, 11), (6145, 11), (8193, 12), (12289, 12),
    (16385, 13), (24577, 13)]

/-- Read the bits that a symbol adds to its base. -/
def readBased (bases : Array (Nat × Nat)) (symbol : Nat) : BitReader Nat :=
  match bases[symbol]? with
  | some (base, extra) => return base + (← bits extra)
  | none => throw .corrupt

/-- What a block is made of. -/
inductive Element where
  | byte (b : UInt8)
  | copy (length distance : Nat)
  | endOfBlock

/-- Read an element with the code for bytes and lengths, and that for distances. -/
def readElement (main distances : PrefixCode) : BitReader Element := do
  let symbol ← main.read
  if symbol < 256 then return .byte symbol.toUInt8
  else if symbol = 256 then return .endOfBlock
  else
    let length ← readBased lengthBases (symbol - 257)
    let distance ← readBased distanceBases (← distances.read)
    return .copy length distance

/-- Append bytes that stand a distance back, which may lie within the copy. Before the first byte
there are zeros. -/
def copyBack (distance : Nat) : Nat → ByteArray → ByteArray
  | 0, out => out
  | length + 1, out =>
    let b := if distance ≤ out.size then (out[out.size - distance]?).getD 0 else 0
    copyBack distance length (out.push b)

/-- Read the elements of a block, at most `fuel` of them, from a position on. Returns the output and
the position behind the block. -/
def inflateElements (bytes : ByteArray) (main distances : PrefixCode) :
    Nat → Nat → ByteArray → ByteArray × Except Stop Nat
  | 0, _, out => (out, .error .corrupt)
  | fuel + 1, position, out =>
    match (readElement main distances).runAt bytes position with
    | .error stop => (out, .error stop)
    | .ok (.byte b, position) => inflateElements bytes main distances fuel position (out.push b)
    | .ok (.copy length distance, position) =>
      inflateElements bytes main distances fuel position (copyBack distance length out)
    | .ok (.endOfBlock, position) => (out, .ok position)

/-- The lengths of the code words in blocks with the fixed code. -/
def fixedLengths : List Nat :=
  List.replicate 144 8 ++ List.replicate 112 9 ++ List.replicate 24 7 ++ List.replicate 8 8

/-- The order in which the lengths of the code for lengths are given. -/
def lengthOrder : List Nat := [16, 17, 18, 0, 8, 7, 9, 6, 10, 5, 11, 4, 12, 3, 13, 2, 14, 1, 15]

/-- Read lengths of code words until there are `count`. They are given by a code with symbols for
repetitions. The last length comes first in `found`. -/
def readLengths (code : PrefixCode) (count : Nat) : Nat → List Nat → BitReader (List Nat)
  | 0, _ => throw .corrupt
  | fuel + 1, found => do
    if count < found.length then throw .corrupt
    else if found.length = count then return found.reverse
    else
      let symbol ← code.read
      if symbol < 16 then readLengths code count fuel (symbol :: found)
      else if symbol = 16 then
        match found with
        | [] => throw .corrupt
        | last :: _ =>
          let n ← bits 2
          readLengths code count fuel (List.replicate (3 + n) last ++ found)
      else
        let n ← if symbol = 17 then (3 + ·) <$> bits 3 else (11 + ·) <$> bits 7
        readLengths code count fuel (List.replicate n 0 ++ found)

/-- Read the codes of a block that brings its own. -/
def readCodes : BitReader (PrefixCode × PrefixCode) := do
  let mainCount := 257 + (← bits 5)
  let distanceCount := 1 + (← bits 5)
  let given := 4 + (← bits 4)
  if 286 < mainCount ∨ 30 < distanceCount then throw .corrupt
  let read ← (List.range given).mapM fun _ ↦ bits 3
  let lengths := (List.range 19).map fun symbol ↦ ((lengthOrder.zip read).lookup symbol).getD 0
  let code ← (PrefixCode.ofLengths lengths : Except Stop PrefixCode)
  let all ← readLengths code (mainCount + distanceCount) (mainCount + distanceCount + 1) []
  let main ← (PrefixCode.ofLengths (all.take mainCount) : Except Stop PrefixCode)
  let distances ← (PrefixCode.ofLengths (all.drop mainCount) : Except Stop PrefixCode)
  return (main, distances)

/-- Read the length of a stored block. -/
def readStoredLength : BitReader Nat := do
  alignToByte
  let length ← bits 16
  if length + (← bits 16) = 0xFFFF then return length else throw .corrupt

/-- Copy a stored block. -/
def inflateStored (bytes : ByteArray) (position : Nat) (out : ByteArray) :
    ByteArray × Except Stop Nat :=
  match readStoredLength.runAt bytes position with
  | .error stop => (out, .error stop)
  | .ok (length, position) =>
    let start := position / 8
    let out := out ++ bytes.extract start (start + length)
    if start + length ≤ bytes.size then (out, .ok (position + 8 * length))
    else (out, .error .truncated)

/-- Copy or decode a block of a given type. -/
def inflateBlock (bytes : ByteArray) (type position : Nat) (out : ByteArray) :
    ByteArray × Except Stop Nat :=
  let fuel := 8 * bytes.size + 1
  let codes : BitReader (PrefixCode × PrefixCode) :=
    if type = 1 then do
      let main ← (PrefixCode.ofLengths fixedLengths : Except Stop PrefixCode)
      let distances ← (PrefixCode.ofLengths (List.replicate 32 5) : Except Stop PrefixCode)
      return (main, distances)
    else if type = 2 then readCodes
    else throw .corrupt
  if type = 0 then inflateStored bytes position out
  else match codes.runAt bytes position with
    | .error stop => (out, .error stop)
    | .ok ((main, distances), position) => inflateElements bytes main distances fuel position out

/-- Decode blocks, at most `fuel` of them, until the last one. -/
def inflateBlocks (bytes : ByteArray) : Nat → Nat → ByteArray → ByteArray × Option Stop
  | 0, _, out => (out, some .corrupt)
  | fuel + 1, position, out =>
    match (do return ((← bit), (← bits 2)) : BitReader (Nat × Nat)).runAt bytes position with
    | .error stop => (out, some stop)
    | .ok ((last, type), position) =>
      match inflateBlock bytes type position out with
      | (out, .error stop) => (out, some stop)
      | (out, .ok position) =>
        if last = 1 then (out, none) else inflateBlocks bytes fuel position out

/-- Decompress, and tell why it stopped if that was before the end. -/
def inflate (bytes : ByteArray) : ByteArray × Option Stop :=
  inflateBlocks bytes (8 * bytes.size + 1) 0 .empty

end BuiltinAtlas.Archive
