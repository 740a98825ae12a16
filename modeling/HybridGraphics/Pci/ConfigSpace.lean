import HybridGraphics.Pci.Device
import HybridGraphics.World

/-!
# Configuration space and the capability list

A device lists its capabilities in its 256 bytes of configuration space: a
pointer in the header leads to the first entry, and every entry holds the id of
a capability and the offset of the next entry. `ConfigSpace` reads these bytes
on demand, 64 at first and then doubling, and keeps what it has read;
`findCapability` walks the list.

The bytes come from a `ConfigSource`, which may return fewer bytes than asked
for and may fail from some offset on. Nothing about the list is trusted: offsets
are taken without their two low bits, an entry with id `0xff` ends the walk, and
so does an entry that was visited before. The list can hold at most 63 entries,
which is what bounds the walk.
-/

namespace HybridGraphics.Pci

/-! ## Where the bytes come from -/

/-- A supply of configuration space bytes. -/
structure ConfigSource where
  content : Bytes
  /-- The most bytes that one read returns. -/
  chunk : Option Nat := none
  /-- The offset from which on every read fails. -/
  failFrom : Option Nat := none
  deriving DecidableEq, Repr

namespace ConfigSource

/-- Reads up to `count` bytes from `offset` on. -/
def readAt (s : ConfigSource) (offset count : Nat) : Except Fault Bytes :=
  if s.failFrom.any (· ≤ offset) then .error (.refused "read failed")
  else
    let most := match s.chunk with
      | some chunk => min chunk count
      | none => count
    .ok ((s.content.drop offset).take most)

/-- What a read returns stands in the content at that offset. -/
theorem readAt_isPrefix {s : ConfigSource} {offset count : Nat} {more : Bytes}
    (h : s.readAt offset count = .ok more) : more <+: s.content.drop offset := by
  unfold readAt at h
  split at h
  · cases h
  · rw [← Except.ok.inj h]
    exact List.take_prefix _ _

/-- A read returns no more bytes than were asked for. -/
theorem length_readAt_le {s : ConfigSource} {offset count : Nat} {more : Bytes}
    (h : s.readAt offset count = .ok more) : more.length ≤ count := by
  unfold readAt at h
  split at h
  · cases h
  · rw [← Except.ok.inj h, List.length_take]
    refine Nat.le_trans (Nat.min_le_left _ _) ?_
    cases s.chunk with
    | none => exact Nat.le_refl _
    | some chunk => exact Nat.min_le_right _ _

end ConfigSource

/-! ## Bytes on demand -/

/-- A source, and the bytes read from it so far. -/
structure ConfigSpace where
  source : ConfigSource
  cache : Bytes
  deriving DecidableEq, Repr

/-- Power states that a device can be woken from. -/
structure Capability where
  d3hot : Bool := false
  d3cold : Bool := false
  deriving DecidableEq, Repr, Inhabited

namespace ConfigSpace

/-- A computation that may extend the cache. -/
abbrev Reading := StateT ConfigSpace Noted

def configSize : Nat := 256

def headerSize : Nat := 64

def statusOffset : Nat := 0x06

def headerTypeOffset : Nat := 0x0e

def listPointerOffset : Nat := 0x34

/-- A CardBus bridge keeps the pointer to its list elsewhere. -/
def cardBusListPointerOffset : Nat := 0x14

def cardBusHeaderType : UInt8 := 2

/-- The header type, without the flag for several functions; zero if it was not read. -/
def headerType (s : ConfigSpace) : UInt8 :=
  match s.cache[headerTypeOffset]? with
  | some byte => byte &&& 0x7f
  | none => 0

def isCardBus (s : ConfigSpace) : Bool := s.headerType == cardBusHeaderType

/-- How many bytes to hold in order to hold `need`, doubling what is held now. -/
def sizeFor (held need : Nat) : Nat :=
  let start := max held headerSize
  -- two doublings of the least size reach the whole space
  let size := if need ≤ start then start else if need ≤ 2 * start then 2 * start else 4 * start
  min size configSize

theorem sizeFor_le (held need : Nat) : sizeFor held need ≤ configSize := Nat.min_le_right _ _

/-- No more is asked for than configuration space holds, and no less than is held. -/
theorem le_sizeFor {held : Nat} (h : held ≤ configSize) (need : Nat) :
    held ≤ sizeFor held need := by
  have hs : held ≤ max held headerSize := Nat.le_max_left _ _
  unfold sizeFor
  refine Nat.le_min.mpr ⟨?_, h⟩
  split
  · exact hs
  · split <;> omega

/-- Extends the cache to `need` bytes, if the source has them. -/
def growTo (need : Nat) : Reading Bool := fun s =>
  let held := s.cache.length
  let size := sizeFor held need
  if need ≤ held then pure (true, s)
  else if size < need then pure (false, s)
  else
    -- one read; if it falls short, the next query asks for the rest
    match s.source.readAt held (size - held) with
    | .ok more =>
      let grown := { s with cache := s.cache ++ more }
      pure (decide (need ≤ grown.cache.length), grown)
    | .error why => do
      let offset := String.ofList (Text.hex held)
      Noted.debug s!"configuration space read at 0x{offset} failed: {why.message}"
      pure (false, s)

/-- The byte at an offset, if it can be had. -/
def byte? (offset : Nat) : Reading (Option UInt8) := do
  if ← growTo (offset + 1) then
    return (← get).cache[offset]?
  else
    return none

/-! ## The capability list -/

/-- The offset that a list pointer stands for. -/
def offsetOf (pointer : UInt8) : Nat := (pointer &&& 0xfc).toNat

theorem offsetOf_lt (pointer : UInt8) : offsetOf pointer < configSize :=
  (pointer &&& 0xfc).toNat_lt

/-- How many steps a walk takes at most: one for each offset a pointer can stand for. -/
def maxSteps : Nat := 64

/-- Walks the list from `offset` to the entry with this id. -/
def walk (id : UInt8) : Nat → List Nat → Nat → Reading (Option Nat)
  | 0, _, _ => pure none
  | steps + 1, visited, offset => do
    if offset = 0 then
      return none
    else if visited.contains offset then
      let place := String.ofList (Text.hex offset)
      Noted.warn s!"PCI capability list loops back to 0x{place}"
      return none
    else
      match ← byte? offset with
      | none => return none
      | some found =>
        -- what reads as all ones is not there
        if found = 0xff then return none
        else if found = id then return some offset
        else
          match ← byte? (offset + 1) with
          | none => return none
          | some next => walk id steps (offset :: visited) (offsetOf next)

/-- The offset of the first list entry with this id. -/
def findCapability (id : UInt8) : Reading (Option Nat) := do
  match ← byte? statusOffset with
  | none => return none
  | some status =>
    if status &&& 0x10 = 0 then return none
    else
      let place := if (← get).isCardBus then cardBusListPointerOffset else listPointerOffset
      match ← byte? place with
      | none => return none
      | some pointer => walk id maxSteps [] (offsetOf pointer)

/-- The id of the power management capability. -/
def powerManagementId : UInt8 := 0x01

/-- What the power management capability says, at two bytes past its start. -/
def powerManagement : Reading Capability := do
  match ← findCapability powerManagementId with
  | none => return {}
  | some offset =>
    match ← byte? (offset + 2) with
    | none => return {}
    | some _ =>
      match ← byte? (offset + 3) with
      | none => return {}
      -- the two flags are the highest bits of a little-endian word
      | some high => return { d3hot := high &&& 0x40 ≠ 0, d3cold := high &&& 0x80 ≠ 0 }

/-! ## Opening -/

/-- A CardBus bridge needs more than the plain header. -/
def withCardBusHeader (s : ConfigSpace) : Noted ConfigSpace := do
  if s.isCardBus then
    let (_, grown) ← growTo 128 s
    return grown
  else
    return s

/-- Configuration space over a source, with as much of the header as one read gives. -/
def ofSource (source : ConfigSource) : Noted ConfigSpace :=
  match source.readAt 0 headerSize with
  | .ok header => withCardBusHeader ⟨source, header⟩
  | .error _ => withCardBusHeader ⟨source, []⟩

/-- Configuration space in a file, which has to hold the whole header. -/
def ofFile (p : Path) (t : FileTree) : Noted (Except Fault ConfigSpace) :=
  match t.read p with
  | .error why => pure (.error why)
  | .ok content =>
    if content.length < headerSize then pure (.error .endOfFile)
    else do
      let source : ConfigSource := { content }
      return .ok (← withCardBusHeader ⟨source, content.take headerSize⟩)

end ConfigSpace

end HybridGraphics.Pci
