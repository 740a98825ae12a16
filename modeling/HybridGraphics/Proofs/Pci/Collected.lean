import HybridGraphics.Proofs.FileTree.Listing
import HybridGraphics.Proofs.Pci.Address
import HybridGraphics.Proofs.Pci.Qualifying
import HybridGraphics.Proofs.System.Rehearsal

/-!
# What a scan collects

A scan goes through the entries of a directory one by one, passing over the ones that do not qualify,
and stops when there is one too many. `collect_eq` says what that comes to from any entry on, by
induction on the names: the devices so far, and then the ones that the rest show, as far as there is
room.

So the scan is told by the set of entries that qualify (`scan_collects_qualifying`). `Collected` is
that set, put in order, and there is one such list only (`Collected.eq_of_iff`). The order of the
listing does not enter it, and neither does any entry that does not qualify.
-/

namespace HybridGraphics.Pci

open Scan (isDiscreteNvidia)

variable {t t' : FileTree} {dir : Path} {names : List FileName}
  {found first : List (FileName × Device)}

/-! ## What is collected -/

/-- The device that the entry shows, if it qualifies. -/
def deviceIn? (t : FileTree) (dir : Path) (name : FileName) : Option Device :=
  match (Scan.identify t (dir.child name) name).value with
  | .ok (some device) =>
    some { device with outputs := (connectedOutputs (dir.child name) t).value }
  | _ => none

/-- An entry shows a device exactly if it qualifies. -/
theorem deviceIn?_eq_some_iff {name : FileName} {d : Device} :
    deviceIn? t dir name = some d ↔ Qualifies t (dir.child name) name d := by
  unfold deviceIn?
  constructor
  · intro h
    split at h
    next device hid =>
      cases h
      exact (identify_eq_some_iff.mp hid).2
    next => cases h
  · intro h
    rw [identify_of_qualifies h]
    show some { d with outputs := _ } = some d
    rw [← h.outputs]

/-- The devices that the entries show, each with the name of its entry. -/
def foundIn (t : FileTree) (dir : Path) (names : List FileName) : List (FileName × Device) :=
  names.filterMap fun name => (deviceIn? t dir name).map (name, ·)

/-- What the power states of a device are, by its own file. -/
def ownCapability (t : FileTree) (place : Path) : Capability :=
  match t.read (place.child "config") with
  | .ok content =>
    if content.length < 64 then { d3hot := false, d3cold := false }
    else (ConfigSpace.powerManagement (ConfigSpace.ofSource { content }).value).value.1
  | .error _ => { d3hot := false, d3cold := false }

/-- The scan that takes these devices in. -/
def scanOf (t : FileTree) (dir : Path) (found : List (FileName × Device)) : Scan where
  devices := found.map (·.2)
  capabilities := (found.filter fun p => isDiscreteNvidia p.2).map fun p =>
    (p.2.address, ownCapability t (dir.child p.1))

/-- The power states that a scan notes are told by the device's own file. -/
theorem value_readCapability (t : FileTree) (place : Path) (address : Address) :
    (Scan.readCapability t place address).value = ownCapability t place := by
  unfold Scan.readCapability ownCapability ConfigSpace.ofFile
  cases t.read (place.child "config") with
  | error cause => rfl
  | ok content =>
    have hsize : ConfigSpace.headerSize = 64 := rfl
    rw [hsize]
    simp only
    split <;> rfl

/-- Looking closer at a device takes it into the scan. -/
theorem value_inspect (t : FileTree) (dir : Path) (first : List (FileName × Device))
    (name : FileName) (device : Device) :
    (Scan.inspect t (dir.child name) (scanOf t dir first) device).value =
      scanOf t dir (first ++ [(name,
        { device with outputs := (connectedOutputs (dir.child name) t).value })]) := by
  unfold Scan.inspect scanOf
  rw [List.filter_append, List.map_append, List.map_append]
  split
  next h =>
    have hkept : isDiscreteNvidia
        { device with outputs := (connectedOutputs (dir.child name) t).value } = true := h
    simp only [Noted.value_bind, Noted.value_pure, value_readCapability, List.filter_cons, hkept,
      if_true, List.filter_nil, List.map_cons, List.map_nil]
  next h =>
    have hdropped : ¬ isDiscreteNvidia
        { device with outputs := (connectedOutputs (dir.child name) t).value } = true := h
    simp only [Noted.value_bind, Noted.value_pure, List.filter_cons, hdropped, if_false,
      List.filter_nil, List.map_cons, List.map_nil, List.append_nil, Bool.false_eq_true]

/-- The entries that are looked at add their devices, as far as there is room. -/
theorem collect_eq :
    ∀ (names : List FileName) (first : List (FileName × Device)), first.length ≤ maxDevices →
      (∀ before name after, names = before ++ name :: after →
        first.length + (foundIn t dir before).length ≤ maxDevices →
          ¬ Malformed t (dir.child name) name) →
      (Scan.collect t dir names (scanOf t dir first)).value =
        .ok (scanOf t dir (first ++ (foundIn t dir names).take (maxDevices - first.length)))
  | [], first, _, _ => by
    simp [Scan.collect, foundIn]
  | name :: rest, first, hlen, hcalm => by
    have hlook : foundIn t dir (name :: rest) =
        (foundIn t dir [name]) ++ foundIn t dir rest := by
      rw [foundIn, ← List.singleton_append, List.filterMap_append]
      rfl
    have hrest : ∀ taken, taken = first.length + (foundIn t dir [name]).length →
        ∀ before other after, rest = before ++ other :: after →
          taken + (foundIn t dir before).length ≤ maxDevices →
            ¬ Malformed t (dir.child other) other := by
      rintro taken rfl before other after hsplit hroom
      refine hcalm (name :: before) other after (by rw [hsplit]; rfl) ?_
      rw [foundIn, ← List.singleton_append, List.filterMap_append, List.length_append]
      unfold foundIn at hroom
      omega
    unfold Scan.collect
    simp only [Noted.value_bind]
    cases hid : (Scan.identify t (dir.child name) name).value with
    | error cause =>
      exact absurd (identify_error_iff.mp ⟨cause, hid⟩) (hcalm [] name rest rfl hlen)
    | ok device? =>
      cases device? with
      | none =>
        have hnone : foundIn t dir [name] = [] := by
          simp [foundIn, deviceIn?, hid]
        rw [hlook, hnone, List.nil_append]
        rw [hnone] at hrest
        exact collect_eq rest first hlen (hrest first.length rfl)
      | some device =>
        let entry : FileName × Device :=
          (name, { device with outputs := (connectedOutputs (dir.child name) t).value })
        have hone : foundIn t dir [name] = [entry] := by
          simp [foundIn, deviceIn?, hid, entry]
        have hdevices : (scanOf t dir first).devices.length = first.length := List.length_map _
        rw [hlook, hone, List.singleton_append]
        simp only [hdevices]
        split
        next hfull =>
          rw [hfull, Nat.sub_self, List.take_zero, List.append_nil]
          rfl
        next hroom =>
          have hnext : (first ++ [entry]).length = first.length + 1 := by
            rw [List.length_append, List.length_singleton]
          have hleft : maxDevices - first.length = (maxDevices - (first.length + 1)) + 1 := by omega
          rw [hone, List.length_singleton] at hrest
          have ih := collect_eq rest (first ++ [entry]) (by omega) (hrest _ hnext)
          rw [hnext] at ih
          rw [List.append_assoc, List.singleton_append] at ih
          rw [Noted.value_bind, value_inspect, hleft, List.take_succ_cons]
          exact ih

/-! ## All that qualify -/

/-- The qualifying entries among the listed ones, in ascending order of name, each with the device
that it shows. -/
structure Collected (t : FileTree) (dir : Path) (names : List FileName)
    (found : List (FileName × Device)) : Prop where
  ascending : (found.map (·.1)).Pairwise (· < ·)
  exactly : ∀ name d, (name, d) ∈ found ↔ name ∈ names ∧ Qualifies t (dir.child name) name d

/-- No entry that is read is malformed: one that is comes after so many that qualify that there is no
room left. -/
def ReadsWell (t : FileTree) (dir : Path) (names : List FileName) : Prop :=
  ∀ name ∈ names, Malformed t (dir.child name) name →
    ∃ earlier : List (FileName × Device), maxDevices < earlier.length ∧ (earlier.map (·.1)).Nodup ∧
      ∀ p ∈ earlier, p.1 ∈ names ∧ p.1 < name ∧ Qualifies t (dir.child p.1) p.1 p.2

/-- The devices found among names are those of the qualifying entries. -/
theorem mem_foundIn {p : FileName × Device} :
    p ∈ foundIn t dir names ↔ p.1 ∈ names ∧ Qualifies t (dir.child p.1) p.1 p.2 := by
  unfold foundIn
  simp only [List.mem_filterMap, Option.map_eq_some_iff, deviceIn?_eq_some_iff]
  constructor
  · rintro ⟨name, hname, d, hd, rfl⟩
    exact ⟨hname, hd⟩
  · exact fun h => ⟨p.1, h.1, p.2, h.2, rfl⟩

theorem map_fst_foundIn (t : FileTree) (dir : Path) (names : List FileName) :
    (foundIn t dir names).map (·.1) = names.filter fun name => (deviceIn? t dir name).isSome := by
  induction names with
  | nil => rfl
  | cons name rest ih =>
    unfold foundIn at ih ⊢
    rw [List.filterMap_cons, List.filter_cons]
    cases deviceIn? t dir name with
    | none => exact ih
    | some d => exact congrArg (name :: ·) ih

/-- What is found along the sorted names of a directory is what there is to collect there. -/
theorem collected_foundIn (h : t.list dir = .ok names) :
    Collected t dir names (foundIn t dir (FileTree.sortNames names)) where
  ascending := by
    rw [map_fst_foundIn]
    exact (FileTree.ascending_of_list h).filter _
  exactly name d := by
    rw [mem_foundIn, FileTree.mem_sortNames]

/-- Listings in which the same entries qualify, with the same devices, give the same list. -/
theorem Collected.eq_of_iff {names' : List FileName} {found' : List (FileName × Device)}
    (h : Collected t dir names found) (h' : Collected t' dir names' found')
    (hsame : ∀ name d, name ∈ names ∧ Qualifies t (dir.child name) name d ↔
      name ∈ names' ∧ Qualifies t' (dir.child name) name d) : found = found' := by
  have hnodup : ∀ {xs : List (FileName × Device)}, (xs.map (·.1)).Pairwise (· < ·) → xs.Nodup :=
    fun hasc => List.Nodup.of_map _ (hasc.imp ne_of_lt)
  have hperm : found.Perm found' := by
    refine (List.perm_ext_iff_of_nodup (hnodup h.ascending) (hnodup h'.ascending)).mpr ?_
    intro (name, d)
    rw [h.exactly, h'.exactly]
    exact hsame name d
  exact hperm.eq_of_pairwise (fun p q _ _ hlt hgt => absurd hgt (lt_asymm hlt))
    (List.pairwise_map.mp h.ascending) (List.pairwise_map.mp h'.ascending)

/-- Before an entry that is read, there is room. -/
theorem ReadsWell.not_malformed (hwell : ReadsWell t dir names) (hlist : t.list dir = .ok names)
    {before after : List FileName} {name : FileName}
    (hsplit : FileTree.sortNames names = before ++ name :: after)
    (hroom : (foundIn t dir before).length ≤ maxDevices) : ¬ Malformed t (dir.child name) name := by
  intro hmalformed
  have hsorted := FileTree.ascending_of_list hlist
  have hmem : ∀ other, other ∈ names ↔ other ∈ before ++ name :: after := by
    intro other
    rw [← hsplit, FileTree.mem_sortNames]
  obtain ⟨earlier, hmany, hnodup, hearlier⟩ :=
    hwell name ((hmem name).mpr (by simp)) hmalformed
  rw [hsplit, List.pairwise_append, List.pairwise_cons] at hsorted
  have hsubset : earlier ⊆ foundIn t dir before := by
    intro p hp
    obtain ⟨hlisted, hlt, hq⟩ := hearlier p hp
    refine mem_foundIn.mpr ⟨?_, hq⟩
    rcases List.mem_append.mp ((hmem p.1).mp hlisted) with hbefore | hafter
    · exact hbefore
    · rcases List.mem_cons.mp hafter with he | hafter
      · exact absurd (he ▸ hlt) (lt_irrefl _)
      · exact absurd (hsorted.2.1.1 _ hafter) (lt_asymm hlt)
  have hle := (List.Nodup.of_map _ hnodup).length_le_of_subset hsubset
  omega

/-- A scan takes in the first devices found along the sorted names, as many as it has room for. -/
theorem scan_eq (hlist : t.list dir = .ok names) (hwell : ReadsWell t dir names) :
    (scan dir t).value =
      .ok (scanOf t dir ((foundIn t dir (FileTree.sortNames names)).take maxDevices)) := by
  have hsorted : t.listSorted dir = .ok (FileTree.sortNames names) := by
    unfold FileTree.listSorted
    rw [hlist]
    rfl
  unfold scan
  rw [hsorted]
  have hcollect := collect_eq (t := t) (FileTree.sortNames names) [] (Nat.zero_le _)
    fun before name after hsplit hroom =>
      hwell.not_malformed hlist hsplit (by simpa using hroom)
  exact hcollect

/-! ## Entries that do not qualify -/

/-- The same entries qualify in both trees, and the trees agree on them. The other entries may have
come, gone or changed. -/
structure SameQualifying (dir : Path) (t t' : FileTree) (names names' : List FileName) : Prop where
  kept : ∀ name ∈ names, ∀ d, Qualifies t (dir.child name) name d →
    name ∈ names' ∧ SameDevice (dir.child name) t t'
  known : ∀ name ∈ names', ∀ d, Qualifies t' (dir.child name) name d →
    name ∈ names ∧ ∃ d, Qualifies t (dir.child name) name d

/-- Whether an entry is listed and qualifies does not tell the trees apart. -/
theorem SameQualifying.iff {names' : List FileName} (h : SameQualifying dir t t' names names')
    (name : FileName) (d : Device) :
    name ∈ names ∧ Qualifies t (dir.child name) name d ↔
      name ∈ names' ∧ Qualifies t' (dir.child name) name d := by
  constructor
  · rintro ⟨hname, hq⟩
    obtain ⟨hname', hsame⟩ := h.kept name hname d hq
    exact ⟨hname', (qualifies_same hsame).mpr hq⟩
  · rintro ⟨hname', hq'⟩
    obtain ⟨hname, d', hq⟩ := h.known name hname' d hq'
    obtain ⟨-, hsame⟩ := h.kept name hname d' hq
    exact ⟨hname, (qualifies_same hsame).mp hq'⟩

theorem ownCapability_same {place : Path} (h : SameDevice place t t') :
    ownCapability t' place = ownCapability t place := by
  rw [← value_readCapability t' place default, ← value_readCapability t place default]
  exact readCapability_same h.own default

theorem scanOf_same (h : ∀ p ∈ found, SameDevice (dir.child p.1) t t') :
    scanOf t' dir found = scanOf t dir found := by
  have hcapabilities : (scanOf t' dir found).capabilities = (scanOf t dir found).capabilities := by
    refine List.map_congr_left fun p hp => ?_
    rw [ownCapability_same (h p (List.mem_filter.mp hp).1)]
  show Scan.mk _ (scanOf t' dir found).capabilities = Scan.mk _ (scanOf t dir found).capabilities
  rw [hcapabilities]

/-! ## Entries that are named by addresses -/

/-- All directories are named as addresses are written. -/
def Canonical (t : FileTree) (dir : Path) (names : List FileName) : Prop :=
  ∀ name ∈ names, t.hasDir (dir.child name) = true → ∃ a : Address, name = a.text

/-- A device is named by its own address. -/
theorem Canonical.name_eq (hc : Canonical t dir names) {name : FileName} {d : Device}
    (hname : name ∈ names) (hq : Qualifies t (dir.child name) name d) : name = d.address.text := by
  obtain ⟨a, rfl⟩ := hc name hname hq.display.1
  have hnamed := hq.named
  rw [Address.parse?_text] at hnamed
  rw [Option.some.inj hnamed]

/-- No two collected devices have the same address. -/
theorem Canonical.nodup (hc : Canonical t dir names) (h : Collected t dir names found) :
    (found.map (·.2.address)).Nodup := by
  have hnames : found.map (·.1) = (found.map (·.2.address)).map Address.text := by
    rw [List.map_map]
    refine List.map_congr_left fun p hp => ?_
    obtain ⟨hname, hq⟩ := (h.exactly p.1 p.2).mp hp
    exact hc.name_eq hname hq
  have hnodup : (found.map (·.1)).Nodup := h.ascending.imp ne_of_lt
  rw [hnames] at hnodup
  exact List.Nodup.of_map _ hnodup

/-- Among devices with addresses of their own, the power states of one are its own. -/
theorem capabilityOf_scanOf (hnodup : (found.map (·.2.address)).Nodup) {p : FileName × Device}
    (hp : p ∈ found) (hd : isDiscreteNvidia p.2 = true) :
    (scanOf t dir found).capabilityOf p.2.address = ownCapability t (dir.child p.1) := by
  have hmem : p ∈ found.filter fun p => isDiscreteNvidia p.2 := List.mem_filter.mpr ⟨hp, hd⟩
  have hfind : (found.filter fun p => isDiscreteNvidia p.2).find?
      (fun q => q.2.address == p.2.address) = some p := by
    cases hf : (found.filter fun p => isDiscreteNvidia p.2).find?
        (fun q => q.2.address == p.2.address) with
    | none => exact absurd (List.find?_eq_none.mp hf p hmem) (by simp)
    | some q =>
      have hq : q ∈ found := (List.mem_filter.mp (List.mem_of_find?_eq_some hf)).1
      have hbeq := List.find?_some hf
      have haddress : q.2.address = p.2.address := eq_of_beq hbeq
      rw [List.inj_on_of_nodup_map hnodup hq hp haddress]
  unfold Scan.capabilityOf scanOf
  rw [List.find?_map, Function.comp_def, hfind]
  rfl

/-! ## The scan -/

/-- A scan of a directory takes in the entries that qualify, each judged by itself, in ascending order
of name and up to the limit, with a power state for each device that is one of NVIDIA's and not the
firmware's primary one. Nothing else in the directory matters, nor does the order in which it is
listed. If its directories are named as addresses are written, no two devices have one address, and
the power states that are found for such a device are the ones of its own file. -/
theorem scan_collects_qualifying (hlist : t.list dir = .ok names) (hwell : ReadsWell t dir names) :
    ∃ found s, Collected t dir names found ∧ (scan dir t).value = .ok s ∧
      s.devices = (found.take maxDevices).map (·.2) ∧
      s.capabilities =
        ((found.take maxDevices).filter fun p => !p.2.bootVga && p.2.vendor == Vendor.nvidia).map
          (fun p => (p.2.address, ownCapability t (dir.child p.1))) ∧
      (∀ t' names', t'.list dir = .ok names' → ReadsWell t' dir names' →
        SameQualifying dir t t' names names' → (scan dir t').value = .ok s) ∧
      (Canonical t dir names →
        (s.devices.map (·.address)).Nodup ∧
          ∀ d ∈ s.devices, d.bootVga = false → d.vendor = Vendor.nvidia →
            s.capabilityOf d.address = ownCapability t (dir.child d.address.text)) := by
  have hcollected := collected_foundIn hlist
  refine ⟨_, _, hcollected, scan_eq hlist hwell, rfl, rfl, ?same, fun hc => ⟨?apart, ?own⟩⟩
  case same =>
    intro t' names' hlist' hwell' hsame
    have hfound := (collected_foundIn hlist').eq_of_iff hcollected fun name d =>
      (hsame.iff name d).symm
    rw [scan_eq hlist' hwell', hfound, scanOf_same]
    intro p hp
    obtain ⟨hname, hq⟩ := (hcollected.exactly p.1 p.2).mp (List.mem_of_mem_take hp)
    exact (hsame.kept p.1 hname p.2 hq).2
  case apart =>
    rw [scanOf, List.map_map]
    exact (hc.nodup hcollected).sublist ((List.take_sublist _ _).map _)
  case own =>
    intro d hd hvga hvendor
    obtain ⟨p, hp, rfl⟩ := List.mem_map.mp hd
    obtain ⟨hname, hq⟩ := (hcollected.exactly p.1 p.2).mp (List.mem_of_mem_take hp)
    have hdiscrete : isDiscreteNvidia p.2 = true := by
      unfold isDiscreteNvidia
      rw [hvga, hvendor]
      rfl
    have hnodup := (hc.nodup hcollected).sublist ((List.take_sublist maxDevices _).map _)
    rw [capabilityOf_scanOf hnodup hp hdiscrete, hc.name_eq hname hq]

namespace Laptop

open HybridGraphics.Laptop (file)

def pciDevices : Path := { base := "/", names := ["pci"] }

/-- Configuration space of 64 bytes, with a power management entry that promises D3hot. -/
def configSpace : Bytes :=
  List.replicate 6 0 ++ [0x10] ++ List.replicate 45 0 ++ [0x38, 0, 0, 0, 1, 0, 0, 0x40, 0, 0, 0, 0]

def card (code vendor model bootVga : String) : Node :=
  .dir [("class", file code), ("vendor", file vendor), ("device", file model),
    ("boot_vga", file bootVga), ("driver", .dir []), ("config", .file configSpace .forbidden)]

def intelCard : Node := card "0x030000\n" "0x8086\n" "0x3e9b\n" "1\n"

def nvidiaCard : Node := card "0x030200\n" "0x10de\n" "0x1f91\n" "0\n"

def bus : FileTree := ⟨[("pci", .dir [("0000:01:00.0", nvidiaCard), ("0000:00:02.0", intelCard)])]⟩

/-- The bus with its entries in another order, a network card, and two entries that show nothing. -/
def crowdedBus : FileTree :=
  ⟨[("pci", .dir [("0000:00:1f.6", card "0x020000\n" "0x8086\n" "0x15bc\n" ""),
    ("0000:00:02.0", intelCard), ("0000:00:00.0", .dir [("class", file "0xzz")]), ("slot", file ""),
    ("0000:01:00.0", nvidiaCard)])]⟩

/-- Without links, entries that are equal are the same device. -/
theorem sameDevice {t t' : FileTree} (free : t.LinkFree) (free' : t'.LinkFree) {name : FileName}
    (down : (pciDevices.child name).Descends)
    (h : t'.find? (pciDevices.child name).place = t.find? (pciDevices.child name).place) :
    SameDevice (pciDevices.child name) t t' := by
  refine .of_unmoved ⟨free, free', down, fun more => ?_⟩
  rw [FileTree.find?_append, FileTree.find?_append, h]

end Laptop

/-- That all entries read well can be checked by identifying each. -/
theorem readsWell_of_check
    (h : ∀ name ∈ names, (Scan.identify t (dir.child name) name).value.toOption.isSome = true) :
    ReadsWell t dir names := by
  intro name hname hmalformed
  obtain ⟨cause, hcause⟩ := identify_of_malformed hmalformed
  have hok := h name hname
  rw [hcause] at hok
  cases hok

/-- Both cards are taken in, in order, with the power states of the one of NVIDIA's. It is the same
for the crowded bus. -/
theorem scan_collects_qualifying_laptop :
    ∃ s, (scan Laptop.pciDevices Laptop.bus).value = .ok s ∧
      s.devices.map (·.address) = [⟨0, 0, 2, 0⟩, ⟨0, 1, 0, 0⟩] ∧
      s.capabilities = [(⟨0, 1, 0, 0⟩, { d3hot := true, d3cold := false })] ∧
      (scan Laptop.pciDevices Laptop.crowdedBus).value = .ok s ∧
      s.capabilityOf ⟨0, 1, 0, 0⟩ =
        ownCapability Laptop.bus (Laptop.pciDevices.child "0000:01:00.0") := by
  have hlist : Laptop.bus.list Laptop.pciDevices = .ok ["0000:01:00.0", "0000:00:02.0"] :=
    eq_ok_of_toOption (by decide +kernel)
  have hlist' : Laptop.crowdedBus.list Laptop.pciDevices =
      .ok ["0000:00:1f.6", "0000:00:02.0", "0000:00:00.0", "slot", "0000:01:00.0"] :=
    eq_ok_of_toOption (by decide +kernel)
  have hwell : ReadsWell Laptop.bus Laptop.pciDevices ["0000:01:00.0", "0000:00:02.0"] :=
    readsWell_of_check (by decide +kernel)
  have hwell' : ReadsWell Laptop.crowdedBus Laptop.pciDevices
      ["0000:00:1f.6", "0000:00:02.0", "0000:00:00.0", "slot", "0000:01:00.0"] :=
    readsWell_of_check (by decide +kernel)
  obtain ⟨found, s, -, hscan, -, -, hothers, hcanonical⟩ := scan_collects_qualifying hlist hwell
  have free : Laptop.bus.LinkFree := FileTree.linkFree_of_check (by decide +kernel)
  have free' : Laptop.crowdedBus.LinkFree := FileTree.linkFree_of_check (by decide +kernel)
  have hintel : SameDevice (Laptop.pciDevices.child "0000:00:02.0") Laptop.bus Laptop.crowdedBus :=
    Laptop.sameDevice free free' (by decide) rfl
  have hnvidia : SameDevice (Laptop.pciDevices.child "0000:01:00.0") Laptop.bus Laptop.crowdedBus :=
    Laptop.sameDevice free free' (by decide) rfl
  have hsame : SameQualifying Laptop.pciDevices Laptop.bus Laptop.crowdedBus
      ["0000:01:00.0", "0000:00:02.0"]
      ["0000:00:1f.6", "0000:00:02.0", "0000:00:00.0", "slot", "0000:01:00.0"] := by
    have hpassed : ∀ name ∈ ["0000:00:1f.6", "0000:00:00.0", "slot"], ∀ d,
        ¬ Qualifies Laptop.crowdedBus (Laptop.pciDevices.child name) name d := by
      intro name hname d hq
      have hnone : ∀ name ∈ ["0000:00:1f.6", "0000:00:00.0", "slot"],
          (Scan.identify Laptop.crowdedBus (Laptop.pciDevices.child name) name).value = .ok none := by
        decide +kernel
      cases (identify_of_qualifies hq).symm.trans (hnone name hname)
    constructor
    case kept =>
      simp only [List.forall_mem_cons, List.not_mem_nil, IsEmpty.forall_iff, implies_true, and_true]
      exact ⟨fun _ _ => ⟨by decide, hnvidia⟩, fun _ _ => ⟨by decide, hintel⟩⟩
    case known =>
      intro name hname d hq
      simp only [List.mem_cons, List.not_mem_nil, or_false] at hname
      rcases hname with rfl | rfl | rfl | rfl | rfl
      · exact absurd hq (hpassed _ (by decide) d)
      · exact ⟨by decide, d, (qualifies_same hintel).mp hq⟩
      · exact absurd hq (hpassed _ (by decide) d)
      · exact absurd hq (hpassed _ (by decide) d)
      · exact ⟨by decide, d, (qualifies_same hnvidia).mp hq⟩
  have hvalue : (scan Laptop.pciDevices Laptop.bus).value =
      .ok ⟨[⟨0x8086, 0x3e9b, ⟨0, 0, 2, 0⟩, true, .unknown⟩,
          ⟨0x10de, 0x1f91, ⟨0, 1, 0, 0⟩, false, .unknown⟩],
        [(⟨0, 1, 0, 0⟩, { d3hot := true, d3cold := false })]⟩ := by
    decide +kernel
  obtain rfl := Except.ok.inj (hscan.symm.trans hvalue)
  refine ⟨_, hscan, rfl, rfl, hothers _ _ hlist' hwell' hsame, ?_⟩
  have hcanon : Canonical Laptop.bus Laptop.pciDevices ["0000:01:00.0", "0000:00:02.0"] := by
    have hnamed : ∀ name ∈ ["0000:01:00.0", "0000:00:02.0"],
        ∃ a ∈ [(⟨0, 1, 0, 0⟩ : Address), ⟨0, 0, 2, 0⟩], name = a.text := by
      decide +kernel
    intro name hname _
    obtain ⟨a, -, ha⟩ := hnamed name hname
    exact ⟨a, ha⟩
  exact (hcanonical hcanon).2 _ (List.mem_cons_of_mem _ (List.mem_singleton_self _)) rfl rfl

end HybridGraphics.Pci
