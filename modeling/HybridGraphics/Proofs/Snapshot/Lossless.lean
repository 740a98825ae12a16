import HybridGraphics.Proofs.Run.ChangeSignal

/-!
# What a snapshot keeps

`kept` is what is left of a boot's devices in a snapshot: the first of them, up to the limit, without
what is known of their outputs. `snapshot_lossless` says that nothing else is lost. Saving and loading
give just that, from any file that can be written, so the next boot sees a change in the same devices
only if there are more of them than a snapshot holds. What was read once is read again when it is
written back, and two boots that leave the same snapshot had the same devices.

The last of these is about all lines, also those past the limit, where reading the whole file does
not help. It is shown line by line instead: a line by itself tells its device (`deviceOf?_body`).
-/

namespace HybridGraphics.Snapshot

open Pci (Device)

variable {σ : Type} {file : Path} {w : World σ}

/-- What a snapshot keeps of the devices of a boot. -/
def kept (devices : List Device) : List Device := (devices.take Pci.maxDevices).map recorded

/-- A snapshot keeps everything of a device but its connectors. -/
theorem recorded_eq_self_iff {d : Device} : recorded d = d ↔ d.outputs = .unknown := by
  cases d
  simp [recorded, eq_comm]

theorem map_recorded_eq_self {devices : List Device} (h : ∀ d ∈ devices, d.outputs = .unknown) :
    devices.map recorded = devices := by
  have hself : devices.map recorded = devices.map id :=
    List.map_congr_left fun d hd => recorded_eq_self_iff.mpr (h d hd)
  rw [hself, List.map_id]

/-! ## Saving and loading -/

/-- A snapshot reads back as what it keeps of the devices. -/
theorem parse_serialize_kept (devices : List Device) :
    (parse (Text.encode (serialize devices))).value = .ok (kept devices) := by
  rw [parse_serialize, kept, List.map_take]

/-- Where a snapshot can be written, one of any devices can be saved. -/
theorem save_of_writable (h : w.tree.Writable file) (devices : List Device) :
    (save file devices w).1 = .ok () := by
  rw [(save_eq file devices w).1, h.writeWithParents]
  rfl

/-- What is loaded is what was saved. -/
theorem load_of_saved {devices : List Device} (h : (save file devices w).1 = .ok ()) :
    (load file (save file devices w).2).1 = .ok (kept devices, .existed) := by
  obtain ⟨hsaved, htree⟩ := save_eq file devices w
  have hwritten : (w.tree.writeWithParents file (Text.encode (serialize devices))).2 = .ok () := by
    rw [hsaved] at h
    cases ho : (w.tree.writeWithParents file (Text.encode (serialize devices))).2 with
    | error cause =>
      rw [ho] at h
      cases h
    | ok done => rfl
  have hread : (save file devices w).2.tree.read file = .ok (Text.encode (serialize devices)) := by
    rw [htree]
    exact FileTree.read_of_writeWithParents hwritten
  rw [(load_of_content hread).1, parse_serialize_kept]
  rfl

/-- A boot with the same devices sees no change, unless there are more than a snapshot holds. -/
theorem differs_kept_iff (devices : List Device) :
    differs (kept devices) devices = false ↔ devices.length ≤ Pci.maxDevices := by
  constructor
  · intro h
    have hlength := congrArg List.length ((differs_eq_false_iff _ _).mp h)
    simp only [List.length_map, kept, List.length_take] at hlength
    omega
  · intro hle
    rw [kept, List.take_of_length_le hle]
    exact differs_recorded devices

/-! ## Reading again -/

/-- What is read is what a snapshot can hold. -/
theorem kept_of_parse {content : Bytes} {found : List Device} (h : (parse content).value = .ok found) :
    kept found = found := by
  have houtputs : ∀ d ∈ found, d.outputs = .unknown := by
    intro d hd
    rw [eq_of_parse h] at hd
    obtain ⟨line, -, hrecord⟩ := List.mem_filterMap.mp (List.mem_of_mem_take hd)
    obtain ⟨text, -, hparse⟩ := Option.bind_eq_some_iff.mp hrecord
    exact outputs_of_parseRecord? hparse
  rw [kept, List.take_of_length_le (parse_length_le h), map_recorded_eq_self houtputs]

/-! ## Each line tells its device -/

/-- The device that a line of bytes is about, whatever lines stand before it. -/
def deviceOf? (line : Bytes) : Option Device := (Text.decode? line).bind parseRecord?

/-- The line of a device is about that device. -/
theorem deviceOf?_body (d : Device) : deviceOf? (Text.encode (body d)) = some (recorded d) := by
  rw [deviceOf?, Text.decode?_encode]
  exact parseRecord?_body d

/-- Two boots leave the same snapshot only if they differ in nothing but outputs. -/
theorem recorded_of_serialize_eq {devices others : List Device}
    (h : serialize devices = serialize others) : devices.map recorded = others.map recorded := by
  have hdevices : ∀ xs : List Device,
      (byteLines (Text.encode (serialize xs))).map deviceOf? = (xs.map recorded).map some := by
    intro xs
    rw [byteLines_serialize, List.map_map, List.map_map]
    exact List.map_congr_left fun d _ => deviceOf?_body d
  have hsome : (devices.map recorded).map some = (others.map recorded).map some := by
    rw [← hdevices devices, h, hdevices others]
  exact (List.map_inj_right fun _ _ => Option.some.inj).mp hsome

/-! ## Nothing else is lost -/

/-- What is read back of a snapshot is what it was to keep of the devices, and that is all of them
up to the limit. Reading and writing again change nothing, and no two boots look alike. -/
theorem snapshot_lossless (σ : Type) :
    (∀ devices : List Device,
      (parse (Text.encode (serialize devices))).value = .ok (kept devices)) ∧
    (∀ (w : World σ) (file : Path), w.tree.Writable file → ∀ devices : List Device,
      (save file devices w).1 = .ok () ∧
        ∃ last, (load file (save file devices w).2).1 = .ok (last, .existed) ∧
          last = kept devices ∧
          (differs last devices = false ↔ devices.length ≤ Pci.maxDevices)) ∧
    (∀ (content : Bytes) (found : List Device), (parse content).value = .ok found →
      (parse (Text.encode (serialize found))).value = .ok found) ∧
    (∀ devices others : List Device, (∀ d ∈ devices ++ others, d.outputs = .unknown) →
      serialize devices = serialize others → devices = others) := by
  refine ⟨parse_serialize_kept, ?saved, ?again, ?alike⟩
  case saved =>
    intro w file hwritable devices
    have hsaved := save_of_writable hwritable devices
    exact ⟨hsaved, kept devices, load_of_saved hsaved, rfl, differs_kept_iff devices⟩
  case again =>
    intro content found h
    rw [parse_serialize_kept, kept_of_parse h]
  case alike =>
    intro devices others hunknown h
    have hsame := recorded_of_serialize_eq h
    rwa [map_recorded_eq_self fun d hd => hunknown d (List.mem_append_left _ hd),
      map_recorded_eq_self fun d hd => hunknown d (List.mem_append_right _ hd)] at hsame

/-- A machine with more cards than a snapshot holds, each with a display attached. -/
def Laptop.manyCards : List Device :=
  (List.range 12).map fun n =>
    { vendor := Pci.Vendor.nvidia, model := 0x1f91, address := ⟨0xffff, .ofNat n, 0xff, 0x1f⟩,
      outputs := .connected }

/-- All but its last two cards are read back. A line in other spelling is read as well as the one
that is written for it, and a card with another function has another line. -/
theorem snapshot_lossless_laptop :
    (save Laptop.config.lastSnapshot Laptop.manyCards (Laptop.world "on\n" [])).1 = .ok () ∧
    (∃ last, (load Laptop.config.lastSnapshot (save Laptop.config.lastSnapshot Laptop.manyCards
        (Laptop.world "on\n" [])).2).1 = .ok (last, .existed) ∧ last.length = 10 ∧
      differs last Laptop.manyCards = true) ∧
    (parse (Text.encode (serialize [⟨0x8086, 0x3e9b, ⟨0, 0, 2, 0⟩, true, .unknown⟩]))).value =
      .ok [⟨0x8086, 0x3e9b, ⟨0, 0, 2, 0⟩, true, .unknown⟩] ∧
    serialize [⟨0x8086, 0x3e9b, ⟨0, 0, 2, 1⟩, true, .unknown⟩] ≠
      serialize [⟨0x8086, 0x3e9b, ⟨0, 0, 2, 0x10⟩, true, .unknown⟩] := by
  obtain ⟨-, hsaved, hagain, halike⟩ := snapshot_lossless (Recorded Rehearsal)
  have hwritable : (Laptop.world "on\n" []).tree.Writable Laptop.config.lastSnapshot := by
    unfold FileTree.Writable
    decide +kernel
  obtain ⟨hok, last, hload, rfl, hdiffers⟩ := hsaved _ _ hwritable Laptop.manyCards
  have hspelled : (parse (Text.encode "what is this\n +8086:3E9B;0:0:2:0; 1\n".toList)).value =
      .ok [⟨0x8086, 0x3e9b, ⟨0, 0, 2, 0⟩, true, .unknown⟩] := by
    decide +kernel
  refine ⟨hok, ⟨kept Laptop.manyCards, hload, by decide +kernel, ?_⟩, hagain _ _ hspelled, ?_⟩
  · rw [← Bool.not_eq_false, hdiffers]
    decide
  · intro h
    have hsame := halike _ _ (by decide) h
    simp at hsame

end HybridGraphics.Snapshot
