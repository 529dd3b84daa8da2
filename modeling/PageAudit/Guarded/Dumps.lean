import PageAudit.Guarded.Operations
import PageAudit.Memory.Image

/-!
# Reading and writing dumps step by step

The lines of a log are checked one after the other up to the last line of a dump, and the five data
lines are then looked up by number. A dump of the right length falls into pieces with a tag and a flag
each, and gives every page of an address space an entry. Writing an address space adds the number of a
process to the character zero.
-/
namespace PageAudit.Guarded

/-! ## The lines of a log -/

/-- The header that has to stand on a line, if one has to.
mirrors src/io.rs:20-28 -/
def header? (n : Nat) : Except Lapse (Option Text) :=
  if n = 0 then .ok (some bannerHeader)
  else if n = 1 then .ok (some physicalHeader)
  else if 3 ≤ n ∧ n % 2 = 1 then do
    return some (virtualHeaderStem ++ Text.decimal ((← difference n 1) / 2))
  else .ok none

/-- The check of lines by their numbers: each is there, and is the header if one has to stand there.
mirrors src/io.rs:43-57 -/
def checkLines (ls : List Text) : List Nat → Except Lapse (Except Fault Unit)
  | [] => .ok (.ok ())
  | n :: ns => do
    match ls[n]?, ← header? n with
    | none, _ => return .error (.missingLine n ls.length)
    | some l, some t => if l = t then checkLines ls ns else return .error (.badHeader n t l)
    | some _, none => checkLines ls ns

/-- The line with the virtual dump number `i`.
mirrors src/io.rs:61 -/
def virtualLine (ls : List Text) (i : Nat) : Except Lapse Text := do
  item ls (← size (4 + (← size (2 * i))))

/-- The dump with these texts; there are as many virtual ones as there have to be. -/
def dumpOf (physical : Text) (virtuals : List Text) : Except Lapse Dump :=
  if h : virtuals.length = 4 then .ok ⟨physical, ⟨⟨virtuals⟩, h⟩⟩ else .error .place

/-- The dump that the lines of a log show.
mirrors src/io.rs:40-63 -/
def ofLines (ls : List Text) : Except Lapse (Except Fault Dump) := do
  match ← checkLines ls (List.range logLength) with
  | .error f => return .error f
  | .ok () => return .ok (← dumpOf (← item ls 2) (← (List.range 4).mapM (virtualLine ls)))

/-! ## Tags -/

/-- The owner that a tag stands for. The tag of a process is a digit, its number the distance to the
digit zero.
mirrors src/memory.rs:25-35 -/
def ofTag (s : Space) (c : Char) : Except Lapse Owner :=
  if c = vacantTag then .ok s.vacant
  else if c = 'R' then .ok .reserved
  else if c = 'K' then .ok .kernel
  else if c = 'C' then .ok .console
  else if '1' ≤ c ∧ c ≤ '4' then do
    return .process (← byte (← difference c.toNat '0'.toNat))
  else .ok (.other c)

/-- The character for an owner. The tag of a process is computed as a byte.
mirrors src/memory.rs:37-47 -/
def tag : Owner → Except Lapse Char
  | .process pid => do return Char.ofUInt8 (← byte ('0'.toNat + pid.toNat))
  | o => .ok o.tag

/-! ## Memory -/

/-- The frame map with these owners; every frame has one. -/
def framesOf (owners : List Owner) : Except Lapse FrameMap :=
  if h : owners.length = frameCount then .ok ⟨owners, h⟩ else .error .place

/-- The address space with these pages; there are as many as there have to be. -/
def spaceOf (pid : UInt8) (entries : List Entry) : Except Lapse AddressSpace :=
  if h : entries.length = pageCount then .ok ⟨pid, entries, h⟩ else .error .place

/-- The page that a piece of a dump shows: its first character is the tag, its second the flag.
mirrors src/memory.rs:184-187 -/
def entryOf (piece : List Char) : Except Lapse Entry := do
  return ⟨← ofTag .virtual (← item piece 0), (← item piece 1) == userFlag⟩

/-- The frames that a dump shows.
mirrors src/memory.rs:121-132 -/
def decodeFrames (raw : Text) : Except Lapse (Except Fault FrameMap) :=
  if raw.length ≠ frameCount then return .error (.frameTags raw.length)
  else do
    return .ok (← framesOf (← raw.mapM (ofTag .physical)))

/-- The address space that a dump shows.
mirrors src/memory.rs:176-190 -/
def decodeSpace (pid : UInt8) (raw : Text) : Except Lapse (Except Fault AddressSpace) :=
  if raw.length ≠ 2 * pageCount then return .error (.pageTags pid raw.length)
  else do
    return .ok (← spaceOf pid (← (← pieces 2 raw).mapM entryOf))

/-- The address space that one of several dumps shows. The processes are numbered from one on. -/
def decodePlace (x : Text × Nat) : Except Lapse (Except Fault AddressSpace) := do
  decodeSpace (← byte (x.2 + 1)) x.1

/-- The memory that a dump shows.
mirrors src/grader.rs:192-201 -/
def decode (d : Dump) : Except Lapse (Except Fault Image) := do
  let frames ← decodeFrames d.physical
  let spaces ← d.virtuals.toList.zipIdx.mapM decodePlace
  return do return ⟨← frames, ← spaces.mapM id⟩

/-! ## Writing -/

/-- The characters for a page.
mirrors src/memory.rs:106-109 -/
def code (e : Entry) : Except Lapse Text := do
  return [← tag e.owner, if e.user then userFlag else closedFlag]

/-- The dump of an address space, for which room is made first.
mirrors src/memory.rs:193-199 -/
def encode (s : AddressSpace) : Except Lapse Text := do
  let _room ← size (2 * s.entries.length)
  return (← s.entries.mapM code).flatten

/-- The header and the dump of one of several processes, which are numbered from one on. -/
def linesOfPlace (x : Text × Nat) : Except Lapse (List Text) := do
  return [virtualHeaderStem ++ Text.decimal (← size (x.2 + 1)), x.1]

/-- The lines of a log that show the dump.
mirrors src/io.rs:82-93 -/
def lines (d : Dump) : Except Lapse (List Text) := do
  return [bannerHeader, physicalHeader, d.physical] ++
    (← d.virtuals.toList.zipIdx.mapM linesOfPlace).flatten

end PageAudit.Guarded
