import HybridGraphics.Proofs.Run.Boots
import HybridGraphics.Proofs.Snapshot.RoundTrip

/-!
# The change signal

Fragments are generated anew when the hardware has changed since the last boot. A run knows of that
boot what its snapshot says. `change_compares_with_last_recorded` says that this is the right thing
to know: over any history of runs on a snapshot that nothing else touches, a run that finds its
cards compares them with those of the last run before it that found any, and sees a first boot if
there was none. It compares by what a card is and where, so displays that come and go are no change.

A run that finds its cards leaves the snapshot with just them (`Boot.records`), and one that does
not leaves the snapshot alone. What goes on between the two is reading the lines back that were
written, which gives all of the cards because a run takes no more into account than a snapshot may
hold (`findDevices_length_le`).
-/

namespace HybridGraphics

open Pci (Device Vendor Scan)

variable {σ : Type}

/-! ## As many cards as a snapshot may hold -/

/-- Reading stops at the limit. -/
theorem Snapshot.parse_length_le {content : Bytes} {found : List Device}
    (h : (parse content).value = .ok found) : found.length ≤ Pci.maxDevices := by
  rw [eq_of_parse h]
  exact List.length_take_le _ _

/-- A device that is looked at is one more. -/
theorem Pci.Scan.inspect_length (t : FileTree) (place : Path) (s : Scan) (device : Device) :
    (inspect t place s device).value.devices.length = s.devices.length + 1 := by
  unfold inspect
  split <;> simp only [Noted.value_bind, Noted.value_pure, List.length_append,
    List.length_singleton]

/-- So does looking through the bus. -/
theorem Pci.Scan.collect_length_le (t : FileTree) (dir : Path) :
    ∀ (names : List FileName) (s : Scan) {found : Scan}, s.devices.length ≤ maxDevices →
      (collect t dir names s).value = .ok found → found.devices.length ≤ maxDevices
  | [], s, found, hlen, h => by
    cases h
    exact hlen
  | name :: rest, s, found, hlen, h => by
    unfold collect at h
    simp only [Noted.value_bind] at h
    split at h
    next => cases h
    next => exact collect_length_le t dir rest s hlen h
    next device _ =>
      split at h
      next =>
        cases h
        exact hlen
      next hroom =>
        refine collect_length_le t dir rest _ ?_ h
        rw [inspect_length]
        omega

/-- A run takes no more cards into account than a snapshot may hold. -/
theorem Run.findDevices_length_le {config : Config} {t : FileTree} {scan : Scan}
    (h : (findDevices config t).value = .ok scan) : scan.devices.length ≤ Pci.maxDevices := by
  unfold findDevices at h
  split at h
  next file _ =>
    unfold readListing at h
    split at h
    next => cases h
    next content _ =>
      simp only [Noted.value_bind] at h
      split at h
      next => cases h
      next devices hp =>
        cases h
        exact Snapshot.parse_length_le hp
  next =>
    simp only [Noted.value_bind, Noted.value_pure, Pci.scan] at h
    split at h
    next => cases h
    next names _ =>
      cases hc : (Scan.collect t config.pciDevices names {}).value with
      | error cause =>
        rw [hc] at h
        cases h
      | ok found =>
        rw [hc] at h
        cases h
        exact Scan.collect_length_le t config.pciDevices names {} (Nat.zero_le _) hc

/-! ## What counts as a change -/

/-- What a card is and where. -/
def Pci.Device.identity (d : Device) : Vendor × UInt16 × Pci.Address × Bool :=
  (d.vendor, d.model, d.address, d.bootVga)

/-- A card is the same if it is of the same make and in the same place. -/
theorem Pci.Device.sameIdentity_eq_true (a b : Device) :
    a.sameIdentity b = true ↔ a.identity = b.identity := by
  rw [sameIdentity_iff]
  cases a
  cases b
  simp only [identity, Prod.mk.injEq, Device.mk.injEq, and_true]

/-- Two boots differ if the sequences of their cards do. -/
theorem Snapshot.differs_eq_false_iff :
    ∀ old new : List Device,
      differs old new = false ↔ old.map Device.identity = new.map Device.identity
  | [], [] => by simp [differs]
  | [], _ :: _ => by simp [differs]
  | _ :: _, [] => by simp [differs]
  | a :: old, b :: new => by
    have ih := differs_eq_false_iff old new
    have hsame := Device.sameIdentity_eq_true a b
    rw [List.map_cons, List.map_cons, List.cons.injEq, ← ih, ← hsame]
    cases hs : a.sameIdentity b <;> simp [differs, hs]

/-- Displays are not recorded, and make no difference. -/
theorem Snapshot.differs_recorded_iff (old new : List Device) :
    differs (old.map recorded) new = true ↔
      new.map Device.identity ≠ old.map Device.identity := by
  have hrecorded : (old.map recorded).map Device.identity = old.map Device.identity := by
    rw [List.map_map]
    rfl
  rw [← Bool.not_eq_false, differs_eq_false_iff, hrecorded]
  exact not_congr eq_comm

/-! ## One run -/

/-- What a reading of the snapshot comes to: the cards of the last run that recorded any, or that
there is none. -/
def SnapshotHolds (recorded : Option (List Device)) (reading : Except Fault Bytes) : Prop :=
  match recorded with
  | some devices =>
    devices.length ≤ Pci.maxDevices ∧ reading = .ok (Text.encode (Snapshot.serialize devices))
  | none => reading = .error .notFound

namespace Run

variable {config : Config}

/-- Recording the cards fails where the snapshot cannot be written. -/
def WriteFailed (config : Config) (cause : Snapshot.Error) : Prop :=
  (∃ fault, cause = .create config.lastSnapshot fault) ∨
    ∃ fault, cause = .write config.newSnapshot fault

/-- What is known of the last boot when the snapshot holds this. -/
def lastBoot : Option (List Device) → List Device × Snapshot.Status
  | some devices => (devices.map Snapshot.recorded, .existed)
  | none => (Snapshot.placeholder, .created)

/-- Recording the cards yields what the snapshot held, unless it cannot be written. -/
theorem recordDevices_cases {held : Option (List Device)} {w : World σ}
    (h : SnapshotHolds held (w.tree.read config.lastSnapshot)) (devices : List Device) :
    (recordDevices config devices w).1 = .ok (lastBoot held) ∨
      ∃ cause, (recordDevices config devices w).1 = .error cause ∧ WriteFailed config cause := by
  have hload : (Snapshot.load config.lastSnapshot w).1 = .ok (lastBoot held) ∨
      ∃ fault, (Snapshot.load config.lastSnapshot w).1 =
        .error (.create config.lastSnapshot fault) := by
    cases held with
    | some old =>
      obtain ⟨hlen, hread⟩ := h
      have hparse := Snapshot.parse_serialize old
      rw [List.take_of_length_le (by rwa [List.length_map])] at hparse
      rw [(Snapshot.load_of_content hread).1, hparse]
      exact .inl rfl
    | none =>
      rw [(Snapshot.load_of_missing h).1]
      cases (w.tree.writeWithParents config.lastSnapshot
        (Text.encode (Snapshot.serialize Snapshot.placeholder))).2 with
      | ok _ => exact .inl rfl
      | error fault => exact .inr ⟨fault, rfl⟩
  rcases recordDevices_eq config devices w with ⟨cause, he, hr⟩ | ⟨last, w1, heq, hr, -⟩
  · rcases hload with hload | ⟨fault, hload⟩
    · cases he.symm.trans hload
    · cases he.symm.trans hload
      exact .inr ⟨_, by rw [hr], .inl ⟨fault, rfl⟩⟩
  · rw [heq] at hload
    have hlast : last = lastBoot held := by
      rcases hload with hload | ⟨fault, hload⟩
      · exact Except.ok.inj hload
      · cases hload
    rw [hr, hlast, (Snapshot.save_eq config.newSnapshot devices w1).1]
    cases (w1.tree.writeWithParents config.newSnapshot
      (Text.encode (Snapshot.serialize devices))).2 with
    | ok _ => exact .inl rfl
    | error fault => exact .inr ⟨_, rfl, .inr ⟨fault, rfl⟩⟩

/-- Recording the cards keeps to the kind of world in which the snapshot is owned. -/
theorem Owned.recordDevices {actions : Actions σ} {Kind : World σ → Prop}
    (h : Owned config actions .snapshot Kind) (hsame : config.newSnapshot = config.lastSnapshot)
    (devices : List Device) :
    Act.Keeps (Remains Kind) (recordDevices config devices : Act σ _) := by
  refine recordDevices_keeps (Remains.frame h.alike) h.own.write ?_ devices
  rw [hsame]
  exact h.own.write

end Run

namespace Boot

open Run (Owned Prepared Surveyed)

variable {b : Boot σ} {Kind : World σ → Prop} {held : Option (List Device)}

/-- The run does not end because the snapshot cannot be written. -/
def Writable (b : Boot σ) : Prop :=
  ∀ cause, b.outcome = .error (.snapshot cause) → ¬ Run.WriteFailed b.config cause

/-- What a run tells of its cards, after a last run that recorded these cards, or after none: they
were changed if they differ from those in number or, at any position, in what they are. -/
structure Tells (held : Option (List Device)) (found : List Device) (s : Situation) : Prop where
  devices : s.devices = found
  firstBoot : s.firstBoot = held.isNone
  hasChanged : ∀ old, held = some old →
    (s.hasChanged = true ↔ found.map Device.identity ≠ old.map Device.identity)

/-- A run that finds its cards gets to decide, compares them with what the snapshot holds and leaves
them there. A run that does not leaves the snapshot as it is. -/
theorem records (hsame : b.config.newSnapshot = b.config.lastSnapshot)
    (howned : Owned b.config b.actions .snapshot Kind) (hkind : Kind b.start)
    (hheld : SnapshotHolds held (b.start.tree.read b.config.lastSnapshot))
    (hwritable : b.Writable) :
    SnapshotHolds (b.scanned?.or held) (b.finish.tree.read b.config.lastSnapshot) ∧
      ∀ devices, b.scanned? = some devices →
        ∃ s, b.situation? = some s ∧ Tells held devices s := by
  cases hscanned : b.scanned? with
  | none =>
    obtain ⟨-, hread⟩ := spares_of_scanned?_none howned hscanned hkind
    rw [Option.none_or, show b.finish.tree.read b.config.lastSnapshot = _ from hread]
    exact ⟨hheld, fun devices h => by cases h⟩
  | some devices =>
    obtain ⟨triplet, scan, w1, hsurvey, rfl⟩ := scanned?_eq_some_iff.mp hscanned
    have hlen : scan.devices.length ≤ Pci.maxDevices := by
      obtain ⟨t, hfound⟩ := Run.findDevices_of_survey hsurvey.eq
      exact Run.findDevices_length_le hfound
    -- up to where the cards are recorded, the snapshot is as it was
    obtain ⟨w2, before, hcases⟩ := hsurvey.run_cases b.actions
    have hspared : Spares Kind (b.config.pathOf .snapshot) b.start w2 := by
      have hkeeps := howned.survey b.start
      rw [hsurvey.eq] at hkeeps
      exact howned.frame.trans hkeeps (.of_alike howned.alike before)
    obtain ⟨hkind2, hread2⟩ := hspared hkind
    have hheld2 : SnapshotHolds held (w2.tree.read b.config.lastSnapshot) := by
      rw [show w2.tree.read b.config.lastSnapshot = _ from hread2]
      exact hheld
    rcases hcases with ⟨cause, hr, hrun⟩ | ⟨last, w3, s, w', hs, hprepared⟩
    · -- a run that cannot record its cards could not write the snapshot
      exfalso
      rcases Run.recordDevices_cases hheld2 scan.devices with hok | ⟨cause', hr', hfailed⟩
      · cases hr.symm.trans hok
      · cases hr.symm.trans hr'
        exact hwritable cause (congrArg Prod.fst hrun) hfailed
    · have hrecorded := hs.recorded
      have hlast : last = Run.lastBoot held := by
        rcases Run.recordDevices_cases hheld2 scan.devices with hok | ⟨cause, hr, -⟩
        · exact Except.ok.inj (hrecorded.symm.trans hok)
        · cases hrecorded.symm.trans hr
      refine ⟨?_, fun found hfound => ?_⟩
      · -- and from there on it is what was recorded
        have hread3 := Run.recordDevices_read hrecorded
        have hkind3 := howned.recordDevices hsame scan.devices w2 hkind2
        have hrest : Spares Kind (b.config.pathOf .snapshot)
            (Run.recordDevices b.config scan.devices w2).2 b.finish := by
          have hdrivers := howned.driverStates scan.devices w3
          have heffects := howned.carryOutFrom (by simp) triplet (Decision.decide s).mode
            (fun e (_ : e ∈ (Decision.decide s).effects) => Course.file?_ne_snapshot e)
            (Decision.decide s).mode w'
          rw [finish, hprepared.run_eq]
          exact howned.frame.trans (.of_alike howned.alike hs.between)
            (howned.frame.trans hdrivers
              (howned.frame.trans (.of_alike howned.alike hs.after) heffects))
        obtain ⟨-, hread⟩ := hrest hkind3
        rw [hsame] at hread3
        exact ⟨hlen, Eq.trans hread hread3⟩
      · cases hfound
        refine ⟨s, situation?_eq_some_iff.mpr ⟨triplet, w', hprepared⟩, ?_⟩
        rw [hs.situation, Run.value_situationOf, hlast]
        constructor
        case devices => rfl
        case firstBoot => cases held <;> rfl
        case hasChanged =>
          rintro old rfl
          exact Snapshot.differs_recorded_iff old scan.devices

end Boot

/-! ## Over a history -/

open Run (Owned)

/-- Over any history of runs on a snapshot that starts out missing, is always writable and is
touched by nothing else: a run that finds its cards gets to decide on them, and compares them
with those of the last such run before it. If there was none, it sees a first boot. -/
theorem change_compares_with_last_recorded {Kind : World σ → Prop} {file : Path}
    {boots : List (Boot σ)}
    (hfile : ∀ b ∈ boots, b.config.lastSnapshot = file ∧ b.config.newSnapshot = file)
    (howned : ∀ b ∈ boots, Owned b.config b.actions .snapshot Kind ∧ Kind b.start)
    (hundisturbed : Undisturbed file boots)
    (hmissing : ∀ first, boots.head? = some first → first.start.tree.read file = .error .notFound)
    (hwritable : ∀ b ∈ boots, b.Writable) :
    ∀ before b after, boots = before ++ b :: after → ∀ devices, b.scanned? = some devices →
      ∃ s, b.situation? = some s ∧
        Boot.Tells (before.filterMap Boot.scanned?).getLast? devices s := by
  rintro before b after rfl devices hdevices
  have hrecords : ∀ c ∈ before ++ b :: after, ∀ held,
      SnapshotHolds held (c.start.tree.read file) →
        SnapshotHolds (c.scanned?.or held) (c.finish.tree.read file) ∧
          ∀ devices, c.scanned? = some devices →
            ∃ s, c.situation? = some s ∧ Boot.Tells held devices s := by
    intro c hc held hheld
    obtain ⟨hlast, hnew⟩ := hfile c hc
    obtain ⟨hown, hkind⟩ := howned c hc
    rw [← hlast] at hheld ⊢
    exact Boot.records (hnew.trans hlast.symm) hown hkind hheld (hwritable c hc)
  have hfirst : ∀ first, (before ++ b :: after).head? = some first →
      SnapshotHolds none (first.start.tree.read file) := hmissing
  have hheld := found_last before
    (fun c hc held hheld => (hrecords c (List.mem_append_left _ hc) held hheld).1) hundisturbed
    hfirst
  rw [Option.or_none] at hheld
  exact (hrecords b (List.mem_append_right _ List.mem_cons_self) _ hheld).2 devices hdevices

/-- The laptop that lost its NVIDIA card is seen to have changed, although the run of the last boot
did not look for cards. -/
theorem change_compares_with_last_recorded_laptop :
    ∃ s, Laptop.undocked.situation? = some s ∧ s.firstBoot = false ∧ s.hasChanged = true := by
  have hfile : ∀ b ∈ Laptop.boots, b.config.lastSnapshot = Laptop.config.lastSnapshot ∧
      b.config.newSnapshot = Laptop.config.lastSnapshot := by decide +kernel
  have hundisturbed : Undisturbed Laptop.config.lastSnapshot Laptop.boots := by decide +kernel
  have hmissing : ∀ first, Laptop.boots.head? = some first →
      first.start.tree.read Laptop.config.lastSnapshot = .error .notFound := by
    intro first h
    obtain rfl : Laptop.docked = first := Option.some.inj h
    decide +kernel
  have hwritable : ∀ b ∈ Laptop.boots, b.Writable := by
    have hok : ∀ b ∈ Laptop.boots, b.outcome.toOption.isSome = true := by decide +kernel
    intro b hb cause herror
    have h := hok b hb
    rw [herror] at h
    cases h
  have hdocked : Laptop.docked.scanned?.map List.length = some 2 := by decide +kernel
  have hoff : Laptop.turnedOff.scanned? = none := by decide +kernel
  have hundocked : Laptop.undocked.scanned?.map List.length = some 1 := by decide +kernel
  obtain ⟨last, hlast, htwo⟩ := Option.map_eq_some_iff.mp hdocked
  obtain ⟨devices, hdevices, hone⟩ := Option.map_eq_some_iff.mp hundocked
  obtain ⟨s, hs, htells⟩ := change_compares_with_last_recorded hfile
    (fun b hb => Laptop.boots_owned hb .snapshot) hundisturbed hmissing hwritable
    _ _ _ Laptop.boots_eq devices hdevices
  rw [List.filterMap_cons_some hlast, List.filterMap_cons_none hoff, List.filterMap_nil,
    List.getLast?_singleton] at htells
  refine ⟨s, hs, htells.firstBoot, (htells.hasChanged last rfl).mpr fun h => ?_⟩
  have hlength := congrArg List.length h
  rw [List.length_map, List.length_map] at hlength
  omega

end HybridGraphics
