import HybridGraphics.Proofs.Config.Separate
import HybridGraphics.Proofs.FileTree.Creation
import HybridGraphics.Proofs.Run.Prepare

/-!
# Recording the cards

A run reads which cards the last boot had, and then puts its own in their place. What comes of the
first step is a matter of the file: its content is parsed (`load_of_content`), a missing one is
created (`load_of_missing`), and anything else in its place makes the run fail (`load_of_fault`).
The second step is a write and fails where that does (`save_eq`).

Neither step asks anything of the system (`recordDevices_system`). `recordDevices_failed` says what
is left behind if one of them fails: every file is as it was, unless the snapshot had to be created
before this boot's could not be written. If none fails, this boot's cards are what the snapshot holds
(`recordDevices_read`).
-/

namespace HybridGraphics

open Pci (Device)

variable {σ : Type}

namespace Snapshot

variable {file : Path} {w : World σ}

/-- What comes of a snapshot that could be read. -/
def loaded (file : Path) : Except Fault (List Device) → Except Error (List Device × Status)
  | .ok devices => .ok (devices, .existed)
  | .error cause => .error (.read file cause)

/-- A snapshot that can be read is loaded as its bytes say, and nothing is changed. -/
theorem load_of_content {content : Bytes} (h : w.tree.read file = .ok content) :
    (load file w).1 = loaded file (parse content).value ∧ w.Alike (load file w).2 := by
  unfold load
  simp only [Act.bind_apply, Act.get_apply, h, Act.value_look]
  have hlook := World.Alike.look w fun _ => parse content
  cases (parse content).value with
  | ok devices => exact ⟨rfl, hlook⟩
  | error cause => exact ⟨rfl, hlook⟩

/-- What comes of creating a snapshot. -/
def created (file : Path) : Except Fault Unit → Except Error (List Device × Status)
  | .ok () => .ok (placeholder, .created)
  | .error cause => .error (.create file cause)

/-- A snapshot that is missing is created with a placeholder. -/
theorem load_of_missing (h : w.tree.read file = .error .notFound) :
    (load file w).1 =
        created file (w.tree.writeWithParents file (Text.encode (serialize placeholder))).2 ∧
      (load file w).2.tree =
        (w.tree.writeWithParents file (Text.encode (serialize placeholder))).1 := by
  unfold load
  simp only [Act.bind_apply, Act.get_apply, h, Act.info, Act.note_apply, Act.writeText,
    Act.changeInSteps]
  cases (w.tree.writeWithParents file (Text.encode (serialize placeholder))).2 <;> exact ⟨rfl, rfl⟩

/-- A snapshot that is there and cannot be read fails the loading, and is left alone. -/
theorem load_of_fault {cause : Fault} (h : w.tree.read file = .error cause)
    (hcause : cause ≠ .notFound) : load file w = (.error (.read file cause), w) := by
  unfold load
  simp only [Act.bind_apply, Act.get_apply, h]
  rfl

/-- What reading the snapshot leaves behind: the placeholder, if it was missing and could be
created, and no other change but new directories. -/
theorem load_leaves (file : Path) (w : World σ) :
    w.tree.GainsDirs (load file w).2.tree ∨
      (load file w).1 = .ok (placeholder, .created) ∧
        FileTree.Created file (Text.encode (serialize placeholder)) w.tree (load file w).2.tree := by
  cases hread : w.tree.read file with
  | ok content =>
    rw [(load_of_content hread).2.tree]
    exact .inl (.refl _)
  | error cause =>
    by_cases hmissing : cause = .notFound
    · subst hmissing
      obtain ⟨hload, htree⟩ := load_of_missing hread
      rw [hload, htree]
      rcases w.tree.writeWithParents_cases file (Text.encode (serialize placeholder)) with
        ⟨-, -, hgains⟩ | ⟨hok, -⟩
      · exact .inl hgains
      · rw [hok]
        exact .inr ⟨rfl, FileTree.created_of_missing hread hok⟩
    · rw [load_of_fault hread hmissing]
      exact .inl (.refl _)

theorem save_eq (file : Path) (devices : List Device) (w : World σ) :
    (save file devices w).1 =
        (w.tree.writeWithParents file (Text.encode (serialize devices))).2.mapError (.write file) ∧
      (save file devices w).2.tree =
        (w.tree.writeWithParents file (Text.encode (serialize devices))).1 := by
  simp only [save, Act.bind_apply, Act.writeText, Act.changeInSteps]
  cases (w.tree.writeWithParents file (Text.encode (serialize devices))).2 <;> exact ⟨rfl, rfl⟩

end Snapshot

namespace Run

variable {config : Config}

/-- Whatever comes of recording the cards, nothing is asked of the system. -/
theorem recordDevices_system (devices : List Device) (w : World σ) :
    (recordDevices config devices w).2.system = w.system := by
  have hR : Act.Frame fun w w' : World σ => w'.system = w.system :=
    { refl := fun _ => rfl
      trans := fun h h' => h'.trans h
      report := fun _ _ => rfl }
  exact recordDevices_keeps hR (fun _ _ => rfl) (fun _ _ => rfl) devices w

/-- What the last boot's cards came to, this boot's were recorded unless that failed. -/
theorem recordDevices_eq (config : Config) (devices : List Device) (w : World σ) :
    (∃ cause, (Snapshot.load config.lastSnapshot w).1 = .error cause ∧
        recordDevices config devices w =
          (.error cause, (Snapshot.load config.lastSnapshot w).2)) ∨
      ∃ last w1, Snapshot.load config.lastSnapshot w = (.ok last, w1) ∧
        (recordDevices config devices w).1 =
          (Snapshot.save config.newSnapshot devices w1).1.map (fun _ => last) ∧
        (recordDevices config devices w).2 = (Snapshot.save config.newSnapshot devices w1).2 := by
  simp only [recordDevices, Act.bind_apply]
  rcases Snapshot.load config.lastSnapshot w with ⟨outcome, w1⟩
  cases outcome with
  | error cause => exact .inl ⟨cause, rfl, rfl⟩
  | ok last =>
    refine .inr ⟨last, w1, rfl, ?_⟩
    simp only [Act.bind_apply]
    cases (Snapshot.save config.newSnapshot devices w1).1 <;> exact ⟨rfl, rfl⟩

/-- After this boot's devices were recorded, they are what the snapshot holds. -/
theorem recordDevices_read {devices : List Device} {w : World σ}
    {last : List Device × Snapshot.Status} (h : (recordDevices config devices w).1 = .ok last) :
    (recordDevices config devices w).2.tree.read config.newSnapshot =
      .ok (Text.encode (Snapshot.serialize devices)) := by
  rcases recordDevices_eq config devices w with ⟨cause, -, hr⟩ | ⟨_, w1, -, hr, hafter⟩
  · rw [hr] at h
    cases h
  · obtain ⟨hsaved, htree⟩ := Snapshot.save_eq config.newSnapshot devices w1
    rw [hr, hsaved] at h
    rw [hafter, htree]
    cases hw : (w1.tree.writeWithParents config.newSnapshot
      (Text.encode (Snapshot.serialize devices))).2 with
    | error cause =>
      rw [hw] at h
      cases h
    | ok _ => exact FileTree.read_of_writeWithParents hw

/-- Where a snapshot can be read and parsed, only writing this boot's can fail. -/
theorem recordDevices_of_content {devices old : List Device} {w : World σ} {content : Bytes}
    (hread : w.tree.read config.lastSnapshot = .ok content)
    (hparse : (Snapshot.parse content).value = .ok old)
    (hwrite : (w.tree.writeWithParents config.newSnapshot
      (Text.encode (Snapshot.serialize devices))).2 = .ok ()) :
    (recordDevices config devices w).1 = .ok (old, .existed) := by
  obtain ⟨hload, halike⟩ := Snapshot.load_of_content hread
  rw [hparse] at hload
  rcases recordDevices_eq config devices w with ⟨cause, he, -⟩ | ⟨last, w1, heq, hr, -⟩
  · cases he.symm.trans hload
  · rw [heq] at hload halike
    cases hload
    rw [hr, (Snapshot.save_eq config.newSnapshot devices w1).1, halike.tree, hwrite]
    rfl

/-- Where this boot's devices are to take the place of a snapshot that can be read and parsed, they
can. -/
theorem recordDevices_ok (hc : config.WritesApart) (hsame : config.newSnapshot = config.lastSnapshot)
    (devices : List Device) {w : World σ} (free : w.tree.LinkFree) {content : Bytes}
    (hread : w.tree.read config.lastSnapshot = .ok content) {old : List Device}
    (hparse : (Snapshot.parse content).value = .ok old) :
    (recordDevices config devices w).1 = .ok (old, .existed) := by
  have hdown : config.lastSnapshot.Descends := hc.descends .snapshot
  obtain ⟨hwalk, hends, hbytes⟩ := (FileTree.read_eq_ok_iff free hdown).mp hread
  refine recordDevices_of_content hread hparse ?_
  rw [hsame]
  exact FileTree.writeWithParents_of_file free hdown hwalk hends hbytes _

/-- Where a snapshot can be read but not parsed, it stays as it is, and so does everything else. -/
theorem recordDevices_of_unparsed {devices : List Device} {w : World σ} {content : Bytes}
    {cause : Fault} (hread : w.tree.read config.lastSnapshot = .ok content)
    (hparse : (Snapshot.parse content).value = .error cause) :
    (recordDevices config devices w).1 = .error (.read config.lastSnapshot cause) ∧
      w.Alike (recordDevices config devices w).2 := by
  obtain ⟨hload, halike⟩ := Snapshot.load_of_content hread
  rw [hparse] at hload
  rcases recordDevices_eq config devices w with ⟨cause', he, hr⟩ | ⟨last, w1, heq, -, -⟩
  · cases he.symm.trans hload
    rw [hr]
    exact ⟨rfl, halike⟩
  · rw [heq] at hload
    cases hload

/-- What is left behind if recording the cards fails. Nothing but directories is new, unless the
snapshot of this boot cannot be written: then the one of the last boot may have been created. -/
theorem recordDevices_failed {devices : List Device} {w : World σ} {cause : Snapshot.Error}
    (h : (recordDevices config devices w).1 = .error cause) :
    w.tree.GainsDirs (recordDevices config devices w).2.tree ∨
      (∃ fault, cause = .write config.newSnapshot fault) ∧
        FileTree.Created config.lastSnapshot (Text.encode (Snapshot.serialize Snapshot.placeholder))
          w.tree (recordDevices config devices w).2.tree := by
  have hleaves := Snapshot.load_leaves config.lastSnapshot w
  rcases recordDevices_eq config devices w with ⟨cause', he, hr⟩ | ⟨last, w1, heq, hr, hafter⟩
  · -- the snapshot of the last boot was not read
    rw [hr]
    rcases hleaves with hgains | ⟨hok, -⟩
    · exact .inl hgains
    · cases he.symm.trans hok
  · -- it was, so the one of this boot cannot be written
    rw [heq] at hleaves
    obtain ⟨hsaved, htree⟩ := Snapshot.save_eq config.newSnapshot devices w1
    rw [hr, hsaved] at h
    rw [hafter, htree]
    rcases w1.tree.writeWithParents_cases config.newSnapshot
      (Text.encode (Snapshot.serialize devices)) with ⟨fault, he, hgains⟩ | ⟨hok, -⟩
    · rw [he] at h
      cases h
      rcases hleaves with hgains' | ⟨-, hcreated⟩
      · exact .inl (hgains'.trans hgains)
      · exact .inr ⟨⟨fault, rfl⟩, hcreated.gainsDirs hgains⟩
    · rw [hok] at h
      cases h

end Run

end HybridGraphics
