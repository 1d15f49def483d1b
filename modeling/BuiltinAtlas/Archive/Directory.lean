import BuiltinAtlas.Archive.Checksum
import BuiltinAtlas.Archive.Inflate
import BuiltinAtlas.Archive.Name

/-!
# Archives

An archive ends with a directory of its members and an end record that says where the directory is.
`members?` reads the directory; `Member.unpack` unpacks a member. Something may stand before the
archive: offsets count from where the archive begins, which follows from where its directory ends.
Numbers that are too large for their fields stand in longer ones: those of a member behind its name,
and those of the whole archive in a second end record, to which a locator leads.
-/

namespace BuiltinAtlas.Archive

/-- The number that some bytes make, the lowest byte first. -/
def number? (bytes : ByteArray) (offset : Nat) : Nat → Option Nat
  | 0 => some 0
  | width + 1 => do
    let low ← bytes[offset]?
    let high ← number? bytes (offset + 1) width
    return low.toNat + 256 * high

/-- How the content of a member is stored. -/
inductive Method where
  | stored
  | deflated
  | unknown
  deriving DecidableEq

/-- A member of an archive. -/
structure Member where
  name : String
  encrypted : Bool
  /-- Whether what stands behind the name says how the content is encrypted. -/
  locked : Bool
  method : Method
  checksum : Nat
  compressedSize : Nat
  /-- Where the header before the content is. -/
  headerStart : Nat
  deriving DecidableEq

/-- Why a member cannot be opened. -/
inductive MemberFault where
  | encrypted
  | noHeader
  | ended
  | unknownMethod
  /-- It is encrypted, but not marked as such. There is no way on then, and nothing to say. -/
  | locked
  deriving DecidableEq

/-- What is said about a member that cannot be opened. -/
def MemberFault.message : MemberFault → String
  | .encrypted => "unsupported Zip archive: Password required to decrypt file"
  | .noHeader => "invalid Zip archive: Invalid local file header"
  | .ended => "failed to fill whole buffer"
  | .unknownMethod => "unsupported Zip archive: Compression method not supported"
  | .locked => "invalid password for file in archive"

/-- What of the entry of a member may be corrected by what stands behind its name. -/
structure Particulars where
  size : Nat
  compressedSize : Nat
  headerStart : Nat
  method : Nat
  locked : Bool := false

namespace Particulars

/-- A number, unless it has the highest value of its field: then it is read from a longer field at
an offset. Returns the offset behind that, or nothing if the bytes end there. -/
def readLong? (extra : ByteArray) (number offset : Nat) : Option (Nat × Nat) :=
  if number = 0xFFFFFFFF then (number? extra offset 8).map (·, offset + 8)
  else some (number, offset)

/-- Read long numbers, as far as the bytes go. Returns the offset behind them if they go far
enough. -/
def lengthen (p : Particulars) (extra : ByteArray) (offset : Nat) : Particulars × Option Nat :=
  match readLong? extra p.size offset with
  | none => (p, none)
  | some (size, offset) =>
    let p := { p with size := size }
    match readLong? extra p.compressedSize offset with
    | none => (p, none)
    | some (compressedSize, offset) =>
      let p := { p with compressedSize := compressedSize }
      match readLong? extra p.headerStart offset with
      | none => (p, none)
      | some (headerStart, offset) => ({ p with headerStart := headerStart }, some offset)

/-- Read how a content is encrypted, and by which method it was compressed before. Nothing is read
if the bytes end early, and the archive cannot be read if it is done in no known way. -/
def lock? (p : Particulars) (extra : ByteArray) (offset : Nat) : Option (Option Particulars) :=
  let field at_ width := number? extra (offset + at_) width
  match field 0 2, field 2 2, field 4 1, field 5 2 with
  | some version, some vendor, some strength, some method =>
    if vendor = 0x4541 ∧ (version = 1 ∨ version = 2) ∧ 1 ≤ strength ∧ strength ≤ 3 then
      some (some { p with method := method, locked := true })
    else none
  | _, _, _, _ => some none

/-- Read what stands behind the name of a member from an offset on, at most `fuel` fields: each one
has a kind and a length in front. It need not be complete. -/
def correct? (extra : ByteArray) : Nat → Nat → Particulars → Option Particulars
  | 0, _, p => some p
  | fuel + 1, offset, p =>
    match number? extra offset 2, number? extra (offset + 2) 2 with
    | some kind, some length =>
      let start := offset + 4
      if kind = 0x0001 then
        match p.lengthen extra start with
        | (p, none) => some p
        | (p, some stop) => correct? extra fuel (max stop (start + length)) p
      else if kind = 0x9901 then
        if length ≠ 7 then none
        else match p.lock? extra start with
        | none => none
        | some none => some p
        -- The length is counted again behind the field.
        | some (some p) => correct? extra fuel (start + 7 + length) p
      else correct? extra fuel (start + length) p
    | _, _ => some p

end Particulars

/-- The offset of the end record: the last one at which its mark stands, not below `least`. -/
def findEnd? (bytes : ByteArray) (least last : Nat) : Option Nat :=
  (List.range' least (last + 1 - least)).reverse.find? fun offset ↦
    number? bytes offset 4 == some 0x06054b50

/-- Numbers are below that bound. -/
def numberLimit : Nat := 0x10000000000000000

/-- The member whose entry in the directory is at an offset, and the offset behind the entry. The
archive begins at `base`. -/
def readEntry? (bytes : ByteArray) (base offset : Nat) : Option (Member × Nat) := do
  let field at_ width := number? bytes (offset + at_) width
  if (← field 0 4) ≠ 0x02014b50 then none
  let flags ← field 8 2
  let checksum ← field 16 4
  let nameLength ← field 28 2
  let extraLength ← field 30 2
  let behindName := offset + 46 + nameLength
  let behind := behindName + extraLength + (← field 32 2)
  let written : Particulars := {
    method := ← field 10 2
    compressedSize := ← field 20 4
    size := ← field 24 4
    headerStart := ← field 42 4 }
  if bytes.size < behind then none
  let extra := bytes.extract behindName (behindName + extraLength)
  let p ← written.correct? extra (extraLength + 1) 0
  if p.method = 99 ∧ ¬ p.locked ∨ numberLimit ≤ p.headerStart + base then none
  return ({
    name := decodeName (flags >>> 11 % 2 = 1) (bytes.extract (offset + 46) behindName)
    encrypted := flags % 2 = 1
    locked := p.locked
    method := if p.method = 0 then .stored else if p.method = 8 then .deflated else .unknown
    checksum := checksum
    compressedSize := p.compressedSize
    headerStart := p.headerStart + base }, behind)

/-- The members whose entries stand one behind the other from an offset on. -/
def readEntries? (bytes : ByteArray) (base : Nat) : Nat → Nat → Option (List Member)
  | 0, _ => some []
  | count + 1, offset => do
    let (m, offset) ← readEntry? bytes base offset
    return m :: (← readEntries? bytes base count offset)

/-- Where an archive begins, where its directory does, and how many members there are. -/
structure Layout where
  base : Nat
  start : Nat
  count : Nat

/-- What an end record says. -/
structure EndRecord where
  disk : Nat
  directoryDisk : Nat
  count : Nat
  total : Nat
  size : Nat
  start : Nat
  commentLength : Nat

namespace EndRecord

/-- The end record at an offset. -/
def read? (bytes : ByteArray) (offset : Nat) : Option EndRecord := do
  let field at_ width := number? bytes (offset + at_) width
  return {
    disk := ← field 4 2
    directoryDisk := ← field 6 2
    count := ← field 8 2
    total := ← field 10 2
    size := ← field 12 4
    start := ← field 16 4
    commentLength := ← field 20 2 }

/-- Whether some number is too large for its field. -/
def isLarge (r : EndRecord) : Bool :=
  r.disk = 0xFFFF ∨ r.directoryDisk = 0xFFFF ∨ r.count = 0xFFFF ∨ r.total = 0xFFFF ∨
    r.size = 0xFFFFFFFF ∨ r.start = 0xFFFFFFFF

/-- The layout that an end record at an offset describes by itself. -/
def layout? (r : EndRecord) (offset : Nat) : Option Layout :=
  if offset < r.size + r.start then none
  else some ⟨offset - r.size - r.start, offset - r.size, r.count⟩

/-- The offset of the locator in front of an end record, if there is one. The record counts as if it
were the end of the bytes. -/
def locator? (r : EndRecord) (bytes : ByteArray) : Option Nat :=
  let behind := 42 + r.commentLength
  if bytes.size < behind then none
  else if number? bytes (bytes.size - behind) 4 == some 0x07064b50 then some (bytes.size - behind)
  else none

/-- The layout that the second end record describes, to which the locator leads. It is looked for
from where it would be in an archive with nothing before it. -/
def longLayout? (r : EndRecord) (bytes : ByteArray) (offset locator : Nat) : Option Layout := do
  let directoryDisk ← number? bytes (locator + 4) 4
  let nominal ← number? bytes (locator + 8) 8
  if ¬ r.isLarge ∧ r.disk ≠ directoryDisk ∨ offset < 60 then none
  let record ← (List.range' nominal (offset - 60 + 1 - nominal)).find? fun i ↦
    number? bytes i 4 == some 0x06064b50
  let field at_ width := number? bytes (record + at_) width
  let start := (← field 48 8) + (record - nominal)
  if (← field 16 4) ≠ (← field 20 4) ∨ numberLimit ≤ start then none
  return ⟨record - nominal, start, ← field 32 8⟩

end EndRecord

/-- The members of an archive, if it can be read. -/
def members? (bytes : ByteArray) : Option (List Member) := do
  if bytes.size < 22 then none
  let last := bytes.size - 22
  let offset ← findEnd? bytes (last - 0xFFFF) last
  let record ← EndRecord.read? bytes offset
  if bytes.size < offset + 22 + record.commentLength then none
  if ¬ record.isLarge ∧ record.disk ≠ record.directoryDisk then none
  let layout ← match record.locator? bytes with
    | none => record.layout? offset
    | some locator => record.longLayout? bytes offset locator
  readEntries? bytes layout.base layout.count layout.start

/-- The bytes of a member as they are stored. -/
def Member.raw (m : Member) (bytes : ByteArray) : Except MemberFault ByteArray :=
  if m.encrypted then .error .encrypted
  else match number? bytes m.headerStart 4 with
  | none => .error .ended
  | some 0x04034b50 =>
    match number? bytes (m.headerStart + 26) 2, number? bytes (m.headerStart + 28) 2 with
    | some nameLength, some extraLength =>
      let start := m.headerStart + 30 + nameLength + extraLength
      if m.method = .unknown then .error .unknownMethod
      else if m.locked then .error .locked
      else .ok (bytes.extract start (start + m.compressedSize))
    | _, _ => .error .ended
  | some _ => .error .noHeader

/-- The size of the window that decompression hands over at once. -/
def windowSize : Nat := 0x8000

/-- The content of a member from its stored bytes, as far as it can be unpacked, and whether it is
complete and has the right checksum. A window in which the data turn out corrupt is lost. -/
def Member.unpack (m : Member) (raw : ByteArray) : ByteArray × Bool :=
  let (content, stop) := match m.method with
    | .deflated => inflate raw
    | .stored | .unknown => (raw, none)
  match stop with
  | none => (content, (Archive.checksum content).toNat = m.checksum)
  | some .truncated => (content, false)
  | some .corrupt => (content.extract 0 (content.size / windowSize * windowSize), false)

end BuiltinAtlas.Archive
