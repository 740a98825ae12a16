import HybridGraphics.Proofs.Snapshot.Reading
import HybridGraphics.Proofs.Text.Cuts
import HybridGraphics.Proofs.Text.Numeral
import HybridGraphics.Proofs.Text.Utf8

/-!
# Snapshots read back

The devices of one boot are what the next boot reads, but for their outputs, which are
not recorded, and for those past the limit (`parse_serialize`). So a boot that finds the
same devices in the same order sees no change (`differs_recorded`).

The line of a device is put together of numerals and separators. None of the separators
can stand in a numeral, so cutting the line at them gives the numerals back
(`parseRecord?_body`).
-/

namespace HybridGraphics.Snapshot

open Pci (Device Address)

/-! ## One line -/

/-- The line of a device, without its end. -/
def body (d : Device) : List Char :=
  (Text.hexPadded 4 d.vendor.toNat ++ ':' :: Text.hexPadded 4 d.model.toNat)
    ++ ';' :: ((Text.hexPadded 4 d.address.domain.toNat
      ++ ':' :: (Text.hexPadded 2 d.address.bus.toNat
      ++ ':' :: (Text.hexPadded 2 d.address.slot.toNat ++ ':' :: Text.hex d.address.func.toNat)))
    ++ ';' :: [if d.bootVga then '1' else '0'])

theorem line_eq (d : Device) : line d = body d ++ ['\n'] := by
  simp [line, body]

/-- What a snapshot keeps of a device. -/
def recorded (d : Device) : Device := { d with outputs := .unknown }

/-- The line of a device reads back. -/
theorem parseRecord?_body (d : Device) : parseRecord? (body d) = some (recorded d) := by
  have colon : ∀ width n, ':' ∉ Text.hexPadded width n := Text.not_mem_hexPadded (by decide)
  have semicolon : ∀ width n, ';' ∉ Text.hexPadded width n := Text.not_mem_hexPadded (by decide)
  have hflag : parseFlag? [if d.bootVga then '1' else '0'] = some d.bootVga := by
    cases d.bootVga <;> decide
  have hend : ';' ∉ [if d.bootVga then '1' else '0'] := by
    cases d.bootVga <;> decide
  have hids : Text.splitAtFirst ':'
      (Text.hexPadded 4 d.vendor.toNat ++ ':' :: Text.hexPadded 4 d.model.toNat) =
        some (Text.hexPadded 4 d.vendor.toNat, Text.hexPadded 4 d.model.toNat) :=
    Text.splitAtFirst_append_cons ':' _ (colon _ _)
  unfold parseRecord? body
  rw [Text.pieces_cons_of_not_mem (by simp [semicolon]), Text.pieces_cons_of_not_mem
    (by simp [semicolon, Text.hex_eq_hexPadded]), Text.pieces_of_not_mem hend]
  simp only [parseFields?, hids, Option.bind_eq_bind, Option.bind_some, Text.hex_eq_hexPadded,
    Text.pieces_cons_of_not_mem (colon _ _), Text.pieces_of_not_mem (colon _ _), hflag,
    Text.readHex16?_hexPadded, Text.readHex8?_hexPadded, Address.ofFields?]
  rfl

/-! ## All lines -/

/-- There is no other newline in it. -/
theorem newline_not_mem_body (d : Device) : '\n' ∉ body d := by
  have newline : ∀ width n, '\n' ∉ Text.hexPadded width n := Text.not_mem_hexPadded (by decide)
  have hend : '\n' ≠ if d.bootVga then '1' else '0' := by
    cases d.bootVga <;> decide
  simp [body, newline, Text.hex_eq_hexPadded, hend]

/-- The lines of a snapshot are those of its devices, one each. -/
theorem byteLines_serialize (devices : List Device) :
    byteLines (Text.encode (serialize devices)) = devices.map fun d => Text.encode (body d) := by
  unfold byteLines
  induction devices with
  | nil => rfl
  | cons d rest ih =>
    have hsplit : Text.encode (serialize (d :: rest)) =
        Text.encode (body d) ++ 0x0a :: Text.encode (serialize rest) := by
      rw [serialize, List.flatMap_cons, line_eq, Text.encode_append, Text.encode_append,
        List.append_assoc]
      rfl
    have hcut := Text.pieces_append_cons (· == (0x0a : UInt8)) 0x0a rfl
      (Text.encode (serialize rest)) (Text.encode (body d)) fun x hx => by
        simpa using fun he : x = 0x0a =>
          Text.newline_not_mem_encode (newline_not_mem_body d) (he ▸ hx)
    rw [hsplit, hcut]
    cases hp : Text.pieces (· == 0x0a) (Text.encode (serialize rest)) with
    | nil => exact absurd hp (Text.pieces_ne_nil _ _)
    | cons next more =>
      rw [hp] at ih
      rw [Text.terminated, List.map_cons, List.map_cons, ih]

theorem trim_body (d : Device) : Text.trim (body d) = body d := by
  have blank : ∀ width n, ∀ c ∈ Text.hexPadded width n, Text.isBlank c = false :=
    Text.forall_mem_hexPadded (by decide)
  have hflag : Text.isBlank (if d.bootVga then '1' else '0') = false := by
    cases d.bootVga <;> decide
  have hsep : Text.isBlank ':' = false ∧ Text.isBlank ';' = false := by decide
  have hbody : ∀ c ∈ body d, Text.isBlank c = false := by
    intro c hc
    simp only [body, Text.hex_eq_hexPadded, List.mem_append, List.mem_cons, List.not_mem_nil,
      or_false] at hc
    rcases hc with (hc | rfl | hc) | rfl | (hc | rfl | hc | rfl | hc | rfl | hc) | rfl | rfl
    all_goals first | exact blank _ _ _ hc | exact hsep.1 | exact hsep.2 | exact hflag
  exact Text.trim_eq_self (fun c hc => hbody c (List.mem_of_mem_head? hc))
    (fun c hc => hbody c (List.mem_of_getLast? hc))

/-- The line of a device is read as what a snapshot keeps of it. -/
theorem recordOf?_body (d : Device) : recordOf? (Text.encode (body d)) = some (recorded d) := by
  rw [recordOf?, textOf?, Text.decode?_encode, Option.map_some, trim_body, Option.bind_some,
    parseRecord?_body]

/-- What is read of a snapshot is what was recorded, up to the limit. -/
theorem parse_serialize (devices : List Device) :
    (parse (Text.encode (serialize devices))).value =
      .ok ((devices.map recorded).take Pci.maxDevices) := by
  have hwhole : ¬ Damaged (Text.encode (serialize devices)) := by
    refine not_unreadableWithin_of_text ?_
    rw [byteLines_serialize]
    rintro line hline hbad
    obtain ⟨d, -, rfl⟩ := List.mem_map.mp hline
    rw [Text.decode?_encode] at hbad
    cases hbad
  have hrecords : recordOf? ∘ (fun d => Text.encode (body d)) = fun d => some (recorded d) :=
    funext recordOf?_body
  rw [parse_of_undamaged hwhole, byteLines_serialize, List.filterMap_map, hrecords,
    List.filterMap_eq_map']

/-! ## The next boot -/

/-- A boot with the devices of the last one sees no change. -/
theorem differs_recorded (devices : List Device) : differs (devices.map recorded) devices = false := by
  have hsame : ∀ d : Device, (recorded d).sameIdentity d = true := fun d =>
    (Device.sameIdentity_iff _ _).mpr rfl
  unfold differs
  rw [List.length_map, bne_self_eq_false, Bool.false_or, List.any_eq_false]
  induction devices with
  | nil => exact fun pair hp => by cases hp
  | cons d rest ih =>
    intro pair hp
    rw [List.map_cons, List.zip_cons_cons, List.mem_cons] at hp
    rcases hp with rfl | hp
    · simp [hsame]
    · exact ih pair hp

end HybridGraphics.Snapshot
