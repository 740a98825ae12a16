import HybridGraphics.Proofs.Run.Boots
import HybridGraphics.Proofs.Run.Footprint
import HybridGraphics.Proofs.Snapshot.Reading

/-!
# Runs that find a damaged snapshot

A line of the snapshot that is no record is skipped, but one that is not even text makes the run
fail. Which contents that happens with is told by `Snapshot.Damaged`, out of all that a file can
hold.

A run reads the snapshot of the last boot before it writes its own. So it fails with the damaged one
still in place, and the next run fails with it again. `damaged_snapshot_stops_every_run` says that
of a whole history of runs, whatever else changes between them, and that with any other content a
run gets through and records its cards.
-/

namespace HybridGraphics

open Pci (Device Scan)

variable {σ : Type}

namespace Run

open Decision (decide)
open Snapshot (Damaged)

variable {config : Config} {actions : Actions σ} {w w' : World σ} {triplet : String} {scan : Scan}
  {s : Situation} {content : Bytes}

/-! ## One run -/

/-- A run that finds a damaged snapshot leaves everything as it is, and fails as soon as it has
found its cards. -/
theorem run_of_damaged (hq : Quiet config w) (hread : w.tree.read config.lastSnapshot = .ok content)
    (hd : Damaged content) :
    w.Alike (run config actions w).2 ∧
      ∀ triplet scan w1, Surveyed config w triplet scan w1 →
        (run config actions w).1 = .error (.snapshot (.read config.lastSnapshot .invalidText)) := by
  have hsurvey := survey_alike hq
  have hparse : (Snapshot.parse content).value = .error .invalidText :=
    Snapshot.parse_eq_error_iff.mpr ⟨rfl, hd⟩
  have hfails : ∀ triplet scan w1, Surveyed config w triplet scan w1 →
      w.Alike (run config actions w).2 ∧
        (run config actions w).1 = .error (.snapshot (.read config.lastSnapshot .invalidText)) := by
    intro triplet scan w1 hs
    rw [hs.eq] at hsurvey
    obtain ⟨w2, before, hcases⟩ := hs.run_cases actions
    have halike := hsurvey.trans before
    rw [← halike.tree] at hread
    obtain ⟨hr, hsame⟩ : (recordDevices config scan.devices w2).1 = _ ∧ _ :=
      recordDevices_of_unparsed hread hparse
    rcases hcases with ⟨cause, he, hrun⟩ | ⟨last, w3, s, w', hsituated, -⟩
    · cases he.symm.trans hr
      rw [hrun]
      exact ⟨halike.trans hsame, rfl⟩
    · cases hsituated.recorded.symm.trans hr
  refine ⟨?_, fun triplet scan w1 hs => (hfails triplet scan w1 hs).2⟩
  cases ho : Probe.optedOut config.kernelCommandLine w.tree with
  | true => exact (run_of_optedOut ho).2
  | false =>
    rcases hs : survey config w with ⟨outcome, w1⟩
    rw [hs] at hsurvey
    cases outcome with
    | error cause =>
      have hrun : run config actions w = (.error cause, w1) := run_of_survey_error ho hs
      rw [hrun]
      exact hsurvey
    | ok found => exact (hfails found.1 found.2 w1 ⟨ho, hs⟩).1

/-- A run that finds a snapshot which is not damaged is prepared, if it can write its own. -/
theorem FindsCards.prepared_of_undamaged (h : FindsCards config w triplet scan)
    (hread : w.tree.read config.lastSnapshot = .ok content) (hd : ¬ Damaged content)
    (hwritable : (w.tree.writeWithParents config.newSnapshot
      (Text.encode (Snapshot.serialize scan.devices))).2 = .ok ()) :
    ∃ s w', Prepared config actions w triplet s w' := by
  cases hparse : (Snapshot.parse content).value with
  | error cause => exact absurd (Snapshot.parse_eq_error_iff.mp hparse).2 hd
  | ok old =>
    refine h.prepared fun w1 h1 => ⟨(old, .existed), ?_⟩
    rw [← h1.tree] at hread hwritable
    exact recordDevices_of_content hread hparse hwritable

/-- The cards that a prepared run has recorded are what the snapshot holds in the end. -/
theorem Prepared.recorded (h : Prepared config actions w triplet s w') (hc : config.WritesApart)
    (ha : actions.KeepsFiles) (hq : Quiet config w) (free : w.tree.LinkFree)
    (hfound : (findDevices config w.tree).value = .ok scan) :
    (run config actions w).2.tree.read config.newSnapshot =
      .ok (Text.encode (Snapshot.serialize scan.devices)) := by
  obtain ⟨scan', last, drivers, w1, -, hfound', hlast, htree, -⟩ := h.recording hq ha
  cases hfound'.symm.trans hfound
  have hread := recordDevices_read hlast
  rw [← htree] at hread
  -- what the effects leave, they leave elsewhere
  obtain ⟨free', hallowed⟩ := execute_changesTo hc ha triplet (decide s) w'
    (h.linkFree_and_dirAt hc ha free).1
  have hapart : ∀ file, file ≠ .snapshot → config.newSnapshot.place ≠ (config.pathOf file).place :=
    fun file hf => (hc.apart_newSnapshot hf).ne
  have hsame : (run config actions w).2.tree.bytes? config.newSnapshot.place =
      w'.tree.bytes? config.newSnapshot.place := by
    rw [h.run_eq]
    rcases hallowed config.newSnapshot.place with hsame | ⟨f, hplace⟩ | ⟨e, -, file, hl, hplace⟩
    · exact hsame
    · exact absurd hplace (hapart (.fragment f) (by simp))
    · refine absurd hplace (hapart file ?_)
      rintro rfl
      exact Course.file?_ne_snapshot e (file?_of_leaves? hl)
  rw [h.run_eq] at hsame ⊢
  have hanswer := FileTree.sameAnswer_read_of_bytes? (h.linkFree_and_dirAt hc ha free).1 free'
    hc.descendsNew hsame
  rw [hread] at hanswer
  exact hanswer.ok_iff.mp rfl

/-! ## A history of runs -/

/-- The run leaves everything as it is, and fails with this file as soon as it has found its
cards. -/
def Stuck (file : Path) (b : Boot σ) : Prop :=
  b.start.Alike b.finish ∧
    ∀ devices, b.scanned? = some devices → b.outcome = .error (.snapshot (.read file .invalidText))

/-- A run that reads a damaged snapshot is stuck. -/
theorem stuck_of_damaged {b : Boot σ} (hq : Quiet b.config b.start)
    (hread : b.start.tree.read b.config.lastSnapshot = .ok content) (hd : Damaged content) :
    Stuck b.config.lastSnapshot b := by
  obtain ⟨halike, hfails⟩ : b.start.Alike (run b.config b.actions b.start).2 ∧ _ :=
    run_of_damaged hq hread hd
  refine ⟨halike, fun devices h => ?_⟩
  obtain ⟨triplet, scan, w1, hs, -⟩ := Boot.scanned?_eq_some_iff.mp h
  exact hfails triplet scan w1 hs

/-- Once a run has found a damaged snapshot, it and all runs after it are stuck. -/
theorem stuck_history {file : Path} {boots : List (Boot σ)}
    (hruns : ∀ b ∈ boots, b.config.lastSnapshot = file ∧ Quiet b.config b.start)
    (hundisturbed : Undisturbed file boots) (hd : Damaged content)
    (hfirst : ∀ first, boots.head? = some first → first.start.tree.read file = .ok content) :
    ∀ b ∈ boots, Stuck file b := by
  have hstuck : ∀ b ∈ boots, b.start.tree.read file = .ok content → Stuck file b := by
    intro b hb hread
    obtain ⟨rfl, hq⟩ := hruns b hb
    exact stuck_of_damaged hq hread hd
  intro b hb
  obtain ⟨before, after, rfl⟩ := List.append_of_mem hb
  -- no run leaves anything in the file, so each finds what the first one found
  have hkept : ∀ earlier ∈ before, ∀ _ : Option Bytes,
      earlier.start.tree.read file = .ok content → earlier.finish.tree.read file = .ok content := by
    intro earlier hearlier _ hread
    obtain ⟨halike, -⟩ := hstuck earlier (List.mem_append_left _ hearlier) hread
    rw [halike.tree]
    exact hread
  exact hstuck b hb (@found_last σ Bytes file (fun _ => none) (fun _ found => found = .ok content)
    before b after none hkept hundisturbed hfirst)

/-- A run that could find its cards and write its snapshot does so, unless the snapshot of the last
boot is damaged. Then the run fails, and so does every later one that finds that file as it was left
and gets to its cards, whatever else has changed by then. -/
theorem damaged_snapshot_stops_every_run (h : FindsCards config w triplet scan)
    (hread : w.tree.read config.lastSnapshot = .ok content)
    (hwritable : (w.tree.writeWithParents config.newSnapshot
      (Text.encode (Snapshot.serialize scan.devices))).2 = .ok ()) :
    (Damaged content →
      (run config actions w).1 = .error (.snapshot (.read config.lastSnapshot .invalidText)) ∧
        ∀ later : List (Boot σ),
          (∀ b ∈ later, b.config.lastSnapshot = config.lastSnapshot ∧ Quiet b.config b.start) →
          Undisturbed config.lastSnapshot (⟨config, actions, w⟩ :: later) →
            ∀ b ∈ later, Stuck config.lastSnapshot b) ∧
    (¬ Damaged content →
      (∃ mode, (run config actions w).1 = .ok mode) ∧
        (config.WritesApart → actions.KeepsFiles → w.tree.LinkFree →
          (run config actions w).2.tree.read config.newSnapshot =
            .ok (Text.encode (Snapshot.serialize scan.devices)))) := by
  constructor
  case left =>
    intro hd
    obtain ⟨w1, -, hsurveyed⟩ := h.surveyed
    refine ⟨(run_of_damaged h.quiet hread hd).2 triplet scan w1 hsurveyed, ?_⟩
    intro later hruns hundisturbed b hb
    refine stuck_history ?_ hundisturbed hd ?_ b (List.mem_cons_of_mem _ hb)
    · intro b hb
      rcases List.mem_cons.mp hb with rfl | hb
      · exact ⟨rfl, h.quiet⟩
      · exact hruns b hb
    · rintro first ⟨⟩
      exact hread
  case right =>
    intro hd
    obtain ⟨s, w', hprepared⟩ := h.prepared_of_undamaged hread hd hwritable
    refine ⟨⟨_, congrArg Prod.fst hprepared.run_eq⟩, fun hc ha free => ?_⟩
    exact hprepared.recorded hc ha h.quiet free h.found

/-- A laptop that is started with a snapshot which holds a byte that is not text. -/
def Laptop.garbled : Boot (Recorded Rehearsal) where
  config := Laptop.config
  actions := Rehearsal.actions.recorded
  start :=
    { tree := ⟨[("m", .dir [
        ("lspci", Laptop.file Laptop.bothCards),
        ("last_gfx_boot", .file [0xff, 0x0a] .forbidden),
        ("prime-discrete", Laptop.file "on\n")])]⟩
      system := { system := { loaded := ["nvidia"] } } }

/-- Its run fails, and fails again when it is started once more. -/
theorem damaged_snapshot_stops_every_run_laptop :
    Laptop.garbled.outcome = .error (.snapshot (.read Laptop.config.lastSnapshot .invalidText)) ∧
      Undisturbed Laptop.config.lastSnapshot [Laptop.garbled, Laptop.garbled] ∧
        Stuck Laptop.config.lastSnapshot Laptop.garbled := by
  have free : Laptop.garbled.start.tree.LinkFree := FileTree.linkFree_of_check (by decide +kernel)
  have hdown : Laptop.config.lastSnapshot.Descends := by decide +kernel
  have hwalk : Laptop.config.lastSnapshot.Walkable := by decide +kernel
  have hends : Path.EndsInName Laptop.config.lastSnapshot.route := by decide +kernel
  have hbytes : Laptop.garbled.start.tree.bytes? Laptop.config.lastSnapshot.place =
      some [0xff, 0x0a] := by
    decide +kernel
  have hread := (FileTree.read_eq_ok_iff free hdown).mpr ⟨hwalk, hends, hbytes⟩
  have hnew : Laptop.config.newSnapshot = Laptop.config.lastSnapshot := rfl
  have hwritable := FileTree.writeWithParents_of_file free hdown hwalk hends hbytes
  rw [← hnew] at hwritable
  have hd : Damaged [0xff, 0x0a] := ⟨[], [0xff], [], by decide +kernel, by decide +kernel, by decide⟩
  have hquiet : Quiet Laptop.garbled.config Laptop.garbled.start := fun _ _ h => by cases h
  have hfound : (findDevices Laptop.config Laptop.garbled.start.tree).value.toOption.isSome =
      true := by
    decide +kernel
  obtain ⟨scan, hscan⟩ := Option.isSome_iff_exists.mp hfound
  have hcards : FindsCards Laptop.garbled.config Laptop.garbled.start "x86_64-linux-gnu" scan :=
    ⟨by decide +kernel, hquiet, eq_ok_of_toOption (by decide +kernel), eq_ok_of_toOption hscan⟩
  obtain ⟨hfails, hlater⟩ : Laptop.garbled.outcome = _ ∧ _ :=
    (damaged_snapshot_stops_every_run hcards hread (hwritable _)).1 hd
  have hkept : Laptop.garbled.start.Alike Laptop.garbled.finish :=
    (stuck_of_damaged hquiet hread hd).1
  have hundisturbed : Undisturbed Laptop.config.lastSnapshot [Laptop.garbled, Laptop.garbled] := by
    refine .cons_cons ?_ (.singleton _)
    rw [hkept.tree]
  refine ⟨hfails, hundisturbed, hlater [Laptop.garbled] ?_ hundisturbed _ List.mem_cons_self⟩
  intro b hb
  rw [List.mem_singleton.mp hb]
  exact ⟨rfl, hquiet⟩

end Run

end HybridGraphics
