import HybridGraphics.Pci.Device
import HybridGraphics.World

/-!
# The format of a snapshot

The devices of a boot are kept as one line each,

    8086:3e9b;0000:00:02:0;1

vendor and model, then domain, bus, slot and function, then whether the device
was the firmware's primary one. `serialize` writes the lines. `parse` reads
them back from any bytes: a line that is no record is passed over, and reading
stops at the first record past the limit, so what follows it is never looked at.
Only a line that is not text makes it fail.
-/

namespace HybridGraphics.Snapshot

open Pci (Device Address)

/-! ## Reading -/

/-- The last field of a record. -/
def parseFlag? (field : List Char) : Option Bool :=
  let field := Text.trim field
  if field = ['0'] then some false
  else if field = ['1'] then some true
  else none

/-- Reads the fields of a record. -/
def parseFields? (ids address flag : List Char) : Option Device := do
  let (vendor, model) ← Text.splitAtFirst ':' ids
  match Text.pieces (· == ':') address with
  | [domain, bus, slot, func] =>
    let bootVga ← parseFlag? flag
    let vendor ← Text.readHex16? vendor
    let model ← Text.readHex16? model
    let address ← Address.ofFields? domain bus slot func
    some { vendor, model, address, bootVga }
  | _ => none

/-- Reads a line without blanks around it as a record. -/
def parseRecord? (line : List Char) : Option Device :=
  match Text.pieces (· == ';') line with
  | [ids, address, flag] => parseFields? ids address flag
  | _ => none

/-- Reads lines onto the records read so far. -/
def parseLines : List Bytes → List Device → Noted (Except Fault (List Device))
  | [], records => pure (.ok records)
  | line :: rest, records =>
    match Text.decode? line with
    | none => pure (.error .invalidText)
    | some chars => do
      let line := Text.trim chars
      if line.isEmpty then parseLines rest records
      else
        match parseRecord? line with
        | some record =>
          if records.length = Pci.maxDevices then
            -- what follows is never looked at, be it text or not
            Noted.warn s!"ignoring snapshot records past {Pci.maxDevices}"
            return .ok records
          else
            parseLines rest (records ++ [record])
        | none =>
          let shown := String.ofList line
          Noted.debug s!"skipping malformed snapshot line: {shown}"
          parseLines rest records

/-- The lines of a file that need not be text. -/
def byteLines (content : Bytes) : List Bytes :=
  (Text.terminated (Text.pieces (· == 0x0a) content)).map (·.1)

/-- The records in a file's content. -/
def parse (content : Bytes) : Noted (Except Fault (List Device)) := parseLines (byteLines content) []

/-! ## Writing -/

/-- The line of a device. -/
def line (d : Device) : List Char :=
  Text.hexPadded 4 d.vendor.toNat ++ ':' :: Text.hexPadded 4 d.model.toNat
    ++ ';' :: Text.hexPadded 4 d.address.domain.toNat
    ++ ':' :: Text.hexPadded 2 d.address.bus.toNat
    ++ ':' :: Text.hexPadded 2 d.address.slot.toNat
    ++ ':' :: Text.hex d.address.func.toNat
    ++ ';' :: (if d.bootVga then '1' else '0') :: ['\n']

/-- The lines of a boot's devices. -/
def serialize (devices : List Device) : List Char := devices.flatMap line

/-! ## Comparing -/

/-- True if two boots differ in the number of devices, or in a device at any position. -/
def differs (old new : List Device) : Bool :=
  old.length != new.length || (old.zip new).any fun (a, b) => !a.sameIdentity b

end HybridGraphics.Snapshot
