import HybridGraphics.Proofs.Run.Readings
import HybridGraphics.Proofs.Run.Recording
import HybridGraphics.Proofs.Run.Survey
import HybridGraphics.Proofs.Run.Writes
import HybridGraphics.Proofs.Snapshot.RoundTrip
import HybridGraphics.Proofs.System.Modules

/-!
# Preparing a run on a rehearsed system

A rehearsed system answers questions as it is, so the drivers that a run finds are a
function of the system and the tree (`driversOf`). With that, `Sees` says what a prepared
run saw: the cards from the tree that it started in, everything else from the tree that
it decided on, which differs from the first in the snapshot at most.

`Prepared.sees` takes a prepared run apart in this way. In return, `FindsCards.prepared` says what
it takes to prepare one: an architecture, cards that can be found, and a snapshot that can
be read and written. A snapshot that an earlier run has left can be (`recordDevices_ok`).
-/

namespace HybridGraphics

open Act (Answers Keeps)
open Pci (Device Vendor Scan)
open KernelModule (loadedMark)

namespace Act.Answers

variable {α β : Type}

/-- A step that asks either way yields what the way taken says. -/
theorem branch {c : Prop} [Decidable c] {x y : Act (Recorded Rehearsal) α}
    {g : α → Act (Recorded Rehearsal) β} {f f' : Rehearsal → FileTree → α}
    {h : α → Rehearsal → FileTree → β} (hx : Answers x f) (hy : Answers y f')
    (hg : ∀ a, Answers (g a) (h a)) :
    Answers (if c then x >>= g else y >>= g) fun r t => h (if c then f r t else f' r t) r t := by
  split
  next hc => simpa only [hc, if_true] using hx.bind hg
  next hc => simpa only [hc, if_false] using hy.bind hg

end Act.Answers

namespace Run

variable {config : Config}

/-! ## The drivers -/

/-- The states of the drivers of a rehearsed system. -/
def driversOf (config : Config) (devices : List Device) (r : Rehearsal) (t : FileTree) :
    DriverStates :=
  { nvidiaLoaded := r.shows "nvidia"
    nvidiaUnloaded := t.has (loadedMark config "nvidia") && !r.shows "nvidia"
    nvidiaBlacklisted := (KernelModule.isBlacklisted config "nvidia" t).value
    nvidiaAvailable := r.shows "nvidia" || r.available.contains "nvidia"
    nouveauLoaded := r.shows "nouveau"
    amdgpuLoaded := r.shows "amdgpu"
    amdgpuUnloaded := t.has (loadedMark config "amdgpu") && !r.shows "amdgpu"
    amdgpuVersioned :=
      (r.shows "amdgpu" || hasVendor Vendor.amd devices) && r.versioned.contains "amdgpu"
    radeonLoaded := r.shows "radeon" }

/-- A module was unloaded if its mark of the last boot is there and the table does not list it. -/
theorem wasUnloaded_answers (name : String) :
    Answers (KernelModule.wasUnloaded config Rehearsal.actions.recorded name) fun r t =>
      t.has (loadedMark config name) && !r.shows name := by
  have hsay : ∀ unloaded : Bool, Answers (do
      Act.info s!"Was {name} unloaded? {yesNo unloaded}"
      return unloaded) fun _ _ => unloaded := fun _ => .note_bind (.pure _)
  have hseen : ∀ seen : Bool, Answers (if seen then do
      let loaded ← KernelModule.isLoaded Rehearsal.actions.recorded name
      let unloaded ← pure !loaded
      Act.info s!"Was {name} unloaded? {yesNo unloaded}"
      return unloaded
    else do
      let unloaded ← pure false
      Act.info s!"Was {name} unloaded? {yesNo unloaded}"
      return unloaded) fun r _ => seen && !r.shows name := by
    intro seen
    cases seen with
    | false => exact .congr (.bind (.pure _) hsay) fun _ _ => rfl
    | true =>
      exact .congr (.bind (Rehearsal.isLoaded_answers name) fun _ => .bind (.pure _) hsay)
        fun _ _ => rfl
  exact fun w => hseen (w.tree.has (loadedMark config name)) w

/-- The states of the drivers are told by the system and the marks. -/
theorem driverStates_answers (devices : List Device) :
    Answers (driverStates config Rehearsal.actions.recorded devices)
      (driversOf config devices) := by
  have hloaded : ∀ name, Answers (reportLoaded Rehearsal.actions.recorded name) fun r _ =>
      r.shows name := by
    intro name
    unfold reportLoaded
    exact .congr (.bind (Rehearsal.isLoaded_answers name) fun _ => .note_bind (.pure _))
      fun _ _ => rfl
  unfold driverStates
  refine Answers.congr
    (.bind (hloaded _) fun _ => .bind (hloaded _) fun _ => .bind (hloaded _) fun _ =>
      .bind (hloaded _) fun _ => .bind (wasUnloaded_answers _) fun _ =>
      .bind (wasUnloaded_answers _) fun _ => .bind (.look _) fun _ => .note_bind
      (.branch (.pure _) (Rehearsal.available_answers _) fun _ => .note_bind
      (.branch (Rehearsal.versioned_answers _) (.pure _) fun _ => .note_bind (.pure _))))
    fun r t => ?_
  simp only [driversOf]
  cases r.shows "nvidia" <;> cases r.shows "amdgpu" <;> cases hasVendor Vendor.amd devices <;> rfl

/-! ## The architecture -/

variable {σ : Type} {actions : Actions σ}

/-- The package manager, if it has to be asked, changes no file. -/
def Quiet (config : Config) (w : World σ) : Prop :=
  config.architecture = none →
    ∀ program, w.programs.lookup "dpkg" = some program → program.overwrites = none

theorem Quiet.congr {w w' : World σ} (h : Quiet config w) (hp : w'.programs = w.programs) :
    Quiet config w' := by
  intro hnone program hl
  rw [hp] at hl
  exact h hnone program hl

/-- Asking the package manager changes nothing. -/
theorem call_alike {w : World σ} (hq : Quiet config w) (hnone : config.architecture = none) :
    w.Alike (Act.call "dpkg" ["--print-architecture"] w).2 := by
  unfold Act.call
  split
  next => exact .refl w
  next =>
    simp only [Act.bind_apply, Act.get_apply]
    cases hl : w.programs.lookup "dpkg" with
    | none => exact .refl w
    | some program =>
      refine ⟨?_, rfl, rfl⟩
      show (Act.perform "dpkg" _ program w).2.tree = w.tree
      unfold Act.perform
      simp only [hq hnone program hl]

/-- Changing nothing where the package manager is quiet is a frame. -/
theorem Quiet.frame (config : Config) :
    Act.Frame fun w w' : World σ => Quiet config w → w.Alike w' where
  refl w _ := .refl w
  trans h h' hq := (h hq).trans (h' (hq.congr (h hq).programs))
  report _ _ _ := ⟨rfl, rfl, rfl⟩

/-- Asking for the architecture changes nothing. -/
theorem triplet_alike {w : World σ} (hq : Quiet config w) :
    w.Alike (Architecture.triplet config.architecture w).2 :=
  triplet_keeps (Quiet.frame config) config.architecture
    (fun hnone _ hq => call_alike hq hnone) w hq

/-- The architecture is a matter of the programs. -/
theorem triplet_congr {w w' : World σ} (hp : w'.programs = w.programs) :
    (Architecture.triplet config.architecture w').1 =
      (Architecture.triplet config.architecture w).1 := by
  have hcall : (Act.call "dpkg" ["--print-architecture"] w').1 =
      (Act.call "dpkg" ["--print-architecture"] w).1 := by
    unfold Act.call
    split
    next => rfl
    next =>
      simp only [Act.bind_apply, Act.get_apply, hp]
      cases w.programs.lookup "dpkg" <;> rfl
  have hname : (Architecture.name config.architecture w').1 =
      (Architecture.name config.architecture w).1 := by
    unfold Architecture.name
    cases config.architecture with
    | some architecture => rfl
    | none =>
      simp only [Act.bind_apply, hcall]
      cases (Act.call "dpkg" ["--print-architecture"] w).1 <;> rfl
  unfold Architecture.triplet
  simp only [Act.bind_apply, hname]
  cases (Architecture.name config.architecture w).1 with
  | error cause => rfl
  | ok architecture =>
    simp only [Act.bind_apply]
    cases Architecture.triplet? architecture <;> rfl

/-! ## What a prepared run saw -/

/-- What the situation of a prepared run tells of the world it was prepared in. -/
structure Sees (config : Config) (triplet : String) (w : World (Recorded Rehearsal))
    (scan : Scan) (s : Situation) (w' : World (Recorded Rehearsal)) : Prop where
  found : (findDevices config w.tree).value = .ok scan
  touches : w.tree.Touches [config.lastSnapshot.place, config.newSnapshot.place] w'.tree
  programs : w'.programs = w.programs
  system : w'.system.system = w.system.system
  architecture : (Architecture.triplet config.architecture w).1 = .ok triplet
  snapshot : w'.tree.read config.newSnapshot = .ok (Text.encode (Snapshot.serialize scan.devices))
  situation : ∃ last, s = (situationOf config triplet scan last (neededOffloading config w.tree)
    (driversOf config scan.devices w'.system.system w'.tree) w'.tree).value

/-- Gathering asks the system, and does not change it. -/
theorem gatherSteps_system : GatherSteps
    (fun w w' : World (Recorded Rehearsal) => w'.system.system = w.system.system) config
      Rehearsal.actions.recorded where
  last _ _ := rfl
  new _ _ := rfl
  listing _ := rfl
  available _ _ := rfl
  versioned _ _ := rfl

/-- A prepared run on a rehearsed system saw the tree it started in, and changed nothing but the
snapshot. -/
theorem Prepared.sees {w w' : World (Recorded Rehearsal)} {triplet : String} {s : Situation}
    (h : Prepared config Rehearsal.actions.recorded w triplet s w') (hc : config.WritesApart)
    (hq : Quiet config w) (free : w.tree.LinkFree) :
    ∃ scan, Sees config triplet w scan s w' := by
  obtain ⟨w0, w3, h0, htriplet, hgather, h3⟩ := h.gathered
  have hstart := h0.trans (triplet_alike (hq.congr h0.programs))
  generalize (Architecture.triplet config.architecture w0).2 = wa at hgather hstart
  have hkeeps := Rehearsal.actions_keepsFiles.recorded
  have htouch := (gather_touches hc hkeeps triplet wa).2 (hstart.tree ▸ free)
  have hprograms := (gather_touches hc hkeeps triplet wa).1
  have hsystem : (gather config Rehearsal.actions.recorded triplet wa).2.system.system =
      wa.system.system := gather_keeps Rehearsal.systemFrame gatherSteps_system triplet wa
  rw [hgather] at htouch hprograms hsystem
  obtain ⟨scan, last, w1, w2, hstages⟩ := gather_eq_ok hgather
  have hrecord := recordDevices_read hstages.recorded
  obtain ⟨hdrivers, hstill⟩ :
      (driverStates config Rehearsal.actions.recorded scan.devices w2).1 = _ ∧ _ :=
    driverStates_answers scan.devices w2
  have htree : w'.tree = w2.tree := h3.tree.trans (hstages.after.tree.trans hstill.tree)
  have hsys : w'.system.system = w2.system.system := by
    rw [h3.system, hstages.after.system, hstill.system]
  refine ⟨scan, ⟨?_, ?_, ?_, ?_, ?_, ?_, last, ?_⟩⟩
  · rw [← hstart.tree]
    exact hstages.found
  · rw [h3.tree, ← hstart.tree]
    exact htouch
  · rw [h3.programs, hprograms, hstart.programs]
  · rw [h3.system, hsystem, hstart.system]
  · rw [← triplet_congr h0.programs]
    exact htriplet
  · rw [htree, hstages.between.tree]
    exact hrecord
  · rw [hstages.situation, hdrivers, hstages.after.tree, hstill.tree, htree, hsys, hstart.tree]

/-! ## What it takes to prepare a run -/

/-- Finding the cards changes nothing. -/
theorem survey_alike {w : World σ} (hq : Quiet config w) : w.Alike (survey config w).2 :=
  survey_keeps (Quiet.frame config) config (fun hnone _ hq => call_alike hq hnone) w hq

/-- The run is not opted out of, and finds its architecture and its cards without a change to any
file. -/
structure FindsCards (config : Config) (w : World σ) (triplet : String) (scan : Scan) : Prop where
  enabled : Probe.optedOut config.kernelCommandLine w.tree = false
  quiet : Quiet config w
  supported : (Architecture.triplet config.architecture w).1 = .ok triplet
  found : (findDevices config w.tree).value = .ok scan

namespace FindsCards

variable {triplet : String} {w w' : World σ} {scan : Scan}

theorem alike (h : FindsCards config w triplet scan) (halike : w.Alike w') :
    FindsCards config w' triplet scan where
  enabled := by rw [halike.tree]; exact h.enabled
  quiet := h.quiet.congr halike.programs
  supported := (triplet_congr halike.programs).trans h.supported
  found := by rw [halike.tree]; exact h.found

/-- Such a run is surveyed. -/
theorem surveyed (h : FindsCards config w triplet scan) :
    ∃ w1, w.Alike w1 ∧ Surveyed config w triplet scan w1 := by
  have key : ∀ w0, w.Alike w0 → (surveySettled config w0).1 = .ok (triplet, scan) := by
    intro w0 h0
    have hthere := h.alike h0
    have htree := (triplet_alike hthere.quiet).tree
    simp only [surveySettled, Act.bind_apply, hthere.supported]
    simp only [Act.value_look, htree, hthere.found]
    rfl
  have hok : (survey config w).1 = .ok (triplet, scan) := by
    unfold survey
    split
    next =>
      rw [Act.bind_apply]
      exact key _ (.look w _)
    next => exact key w (.refl w)
  exact ⟨(survey config w).2, survey_alike h.quiet, h.enabled, Prod.ext hok rfl⟩

/-- It is prepared, if the cards can be recorded. -/
theorem prepared (h : FindsCards config w triplet scan)
    (hr : ∀ w1, w.Alike w1 → ∃ last, (recordDevices config scan.devices w1).1 = .ok last) :
    ∃ s w', Prepared config actions w triplet s w' := by
  obtain ⟨w1, h1, hsurveyed⟩ := h.surveyed
  obtain ⟨w2, before, ⟨cause, he, -⟩ | ⟨last, w3, s, w', -, hprepared⟩⟩ :=
    hsurveyed.run_cases actions
  · obtain ⟨last, hl⟩ := hr w2 (h1.trans before)
    cases he.symm.trans hl
  · exact ⟨s, w', hprepared⟩

end FindsCards

end Run

end HybridGraphics
