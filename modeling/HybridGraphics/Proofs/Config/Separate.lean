import HybridGraphics.Fragment
import HybridGraphics.Proofs.FileTree.Touches

/-!
# Configurations whose paths keep out of each other's way

A run reads and writes files at paths it is configured with, and nothing in it checks
that these are different files. What it writes must not be what it reads elsewhere:
`WritesApart` says that the files it writes are distinct and none is in the place of
another's directory, `Separate` that what it only reads is apart from them as well. The
snapshot of this boot may be the one of the last boot.

Both are decidable, and hold of every machine laid out beneath one directory
(`separate_rootedAt`).
-/

namespace HybridGraphics

/-- Neither path leads to the other's place, or through it. -/
def Path.Apart (p q : Path) : Prop := FileTree.Apart p.place q.place

instance (a b : List FileName) : Decidable (FileTree.Apart a b) :=
  inferInstanceAs (Decidable (¬ a <+: b ∧ ¬ b <+: a))

instance (p q : Path) : Decidable (p.Apart q) :=
  inferInstanceAs (Decidable (FileTree.Apart p.place q.place))

theorem Path.Apart.symm {p q : Path} (h : p.Apart q) : q.Apart p := FileTree.Apart.symm h

/-- The files that a run writes, each for a purpose of its own. -/
inductive WrittenFile where
  | snapshot
  | marker
  | policy
  | runtimePmSnippet
  | fragment (f : Fragment)
  deriving DecidableEq, Repr

namespace WrittenFile

def all : List WrittenFile :=
  [snapshot, marker, policy, runtimePmSnippet, fragment .outputClass, fragment .serverLayout]

theorem mem_all (file : WrittenFile) : file ∈ all := by
  rcases file with _ | _ | _ | _ | _ | _ <;> decide

end WrittenFile

namespace Config

/-- Where a file that a run writes is. Of the two snapshots, the last boot's is meant. -/
def pathOf (c : Config) : WrittenFile → Path
  | .snapshot => c.lastSnapshot
  | .marker => c.offloadingMarker
  | .policy => c.policyFile
  | .runtimePmSnippet => c.runtimePmSnippet
  | .fragment f => f.file c

/-- The files and directories that a run only reads. -/
def consulted (c : Config) : List Path :=
  c.deviceListing.toList ++ c.modprobeDirs
    ++ [c.detectionDir, c.driverVersion, c.runtimePmOverride, c.driverDocs, c.driverCards,
      c.chassisType, c.kernelRelease, c.pciDevices, c.kernelCommandLine, c.pxScript]

/-- What a run writes are different files, none in another's way. -/
structure WritesApart (c : Config) : Prop where
  descends : ∀ file, (c.pathOf file).Descends
  apart : ∀ file other, file ≠ other → (c.pathOf file).Apart (c.pathOf other)
  descendsNew : c.newSnapshot.Descends
  apartNew : c.newSnapshot = c.lastSnapshot ∨ ∀ file, c.newSnapshot.Apart (c.pathOf file)

/-- What a run writes is not in the way of what it reads either. -/
structure Separate (c : Config) : Prop extends WritesApart c where
  descendsConsulted : ∀ p ∈ c.consulted, p.Descends
  apartConsulted : ∀ p ∈ c.consulted,
    c.newSnapshot.Apart p ∧ ∀ file, (c.pathOf file).Apart p

/-- This boot's snapshot is apart from every file but the last boot's snapshot, which it may be. -/
theorem WritesApart.apart_newSnapshot {c : Config} (h : c.WritesApart) {file : WrittenFile}
    (hf : file ≠ .snapshot) : c.newSnapshot.Apart (c.pathOf file) := by
  rcases h.apartNew with he | ha
  · rw [he]
    exact h.apart .snapshot file hf.symm
  · exact ha file

/-! ## Checking -/

instance (P : WrittenFile → Prop) [DecidablePred P] : Decidable (∀ file, P file) :=
  decidable_of_iff (∀ file ∈ WrittenFile.all, P file)
    ⟨fun h file => h file file.mem_all, fun h file _ => h file⟩

instance (c : Config) : Decidable c.WritesApart :=
  decidable_of_iff
    ((∀ file, (c.pathOf file).Descends)
      ∧ (∀ file other, file ≠ other → (c.pathOf file).Apart (c.pathOf other))
      ∧ c.newSnapshot.Descends
      ∧ (c.newSnapshot = c.lastSnapshot ∨ ∀ file, c.newSnapshot.Apart (c.pathOf file)))
    ⟨fun ⟨h1, h2, h3, h4⟩ => ⟨h1, h2, h3, h4⟩, fun ⟨h1, h2, h3, h4⟩ => ⟨h1, h2, h3, h4⟩⟩

instance (c : Config) : Decidable c.Separate :=
  decidable_of_iff
    (c.WritesApart ∧ (∀ p ∈ c.consulted, p.Descends)
      ∧ ∀ p ∈ c.consulted, c.newSnapshot.Apart p ∧ ∀ file, (c.pathOf file).Apart p)
    ⟨fun ⟨h1, h2, h3⟩ => ⟨h1, h2, h3⟩, fun ⟨h1, h2, h3⟩ => ⟨h1, h2, h3⟩⟩

/-! ## Machines beneath one directory -/

/-- Beneath a common base, a place is that of the base followed by the names. -/
theorem place_of_base {root : String} {p : Path} (hb : p.base = root)
    (hs : p.endsInSlash = false) :
    p.place = Path.named (Path.components root) ++ Path.named p.names := by
  obtain ⟨base, names, slash⟩ := p
  cases hb
  cases hs
  simp [Path.place, Path.route, Path.tail, Path.named_append]

theorem apart_of_names {root : String} {p q : Path} (hp : p.base = root)
    (hps : p.endsInSlash = false) (hq : q.base = root) (hqs : q.endsInSlash = false)
    (h : FileTree.Apart (Path.named p.names) (Path.named q.names)) : p.Apart q := by
  unfold Path.Apart FileTree.Apart at *
  rw [place_of_base hp hps, place_of_base hq hqs, List.prefix_append_right_inj,
    List.prefix_append_right_inj]
  exact h

/-- Beneath a base that does not climb, names that do not climb make no path that does. -/
theorem descends_of_names {root : String} (hroot : ".." ∉ Path.components root) {p : Path}
    (hp : p.base = root) (hps : p.endsInSlash = false) (h : ".." ∉ p.names) : p.Descends := by
  unfold Path.Descends Path.route Path.tail
  rw [hp, hps]
  simpa using ⟨hroot, h⟩

/-- A machine laid out beneath one directory keeps its files apart. -/
theorem separate_rootedAt {root : String} (hroot : ".." ∉ Path.components root) :
    (rootedAt root).Separate := by
  -- beneath the root, a path is told by its names alone, and these are the same for every root
  have hnames : ∀ file, ((rootedAt root).pathOf file).names =
      ((rootedAt "").pathOf file).names := by
    rintro (_ | _ | _ | _ | _ | _) <;> rfl
  have hbase : ∀ file, ((rootedAt root).pathOf file).base = root := by
    rintro (_ | _ | _ | _ | _ | _) <;> rfl
  have hslash : ∀ file, ((rootedAt root).pathOf file).endsInSlash = false := by
    rintro (_ | _ | _ | _ | _ | _) <;> rfl
  have hread : ∀ p ∈ (rootedAt root).consulted, p.base = root ∧ p.endsInSlash = false ∧
      p.names ∈ (rootedAt "").consulted.map (·.names) := by
    simp [consulted, rootedAt]
  have hwrites : ∀ file other, file ≠ other →
      FileTree.Apart (Path.named ((rootedAt "").pathOf file).names)
        (Path.named ((rootedAt "").pathOf other).names) := by
    decide
  have hreads : ∀ file, ∀ names ∈ (rootedAt "").consulted.map (·.names), ".." ∉ names ∧
      FileTree.Apart (Path.named ((rootedAt "").pathOf file).names) (Path.named names) := by
    decide
  have hdown : ∀ file, ".." ∉ ((rootedAt "").pathOf file).names := by decide
  have hapart : ∀ file, ∀ p ∈ (rootedAt root).consulted, ((rootedAt root).pathOf file).Apart p := by
    intro file p hp
    obtain ⟨hb, hs, hn⟩ := hread p hp
    exact apart_of_names (hbase file) (hslash file) hb hs (by
      rw [hnames]
      exact (hreads file _ hn).2)
  constructor
  case toWritesApart =>
    constructor
    case descends =>
      intro file
      exact descends_of_names hroot (hbase file) (hslash file) (hnames file ▸ hdown file)
    case apart =>
      intro file other hne
      refine apart_of_names (hbase file) (hslash file) (hbase other) (hslash other) ?_
      rw [hnames, hnames]
      exact hwrites file other hne
    case descendsNew =>
      exact descends_of_names hroot (hbase .snapshot) (hslash .snapshot)
        (hnames .snapshot ▸ hdown .snapshot)
    case apartNew => exact .inl rfl
  case descendsConsulted =>
    intro p hp
    obtain ⟨hb, hs, hn⟩ := hread p hp
    exact descends_of_names hroot hb hs (hreads .snapshot _ hn).1
  case apartConsulted => exact fun p hp => ⟨hapart .snapshot p hp, fun file => hapart file p hp⟩

end Config

end HybridGraphics
