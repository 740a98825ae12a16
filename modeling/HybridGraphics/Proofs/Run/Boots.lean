import HybridGraphics.Proofs.Run.Owned
import Mathlib.Data.List.Chain

/-!
# Histories of runs

A machine is started again and again, and each time there is a run. Between two of them anything
may change: the cards and their displays, the drivers, the operator's policy, the kernel's command
line, even the configuration. What one run leaves in a file for the next one is not to be touched:
`Undisturbed`.

What a run finds in the file was left by the last run before it that left anything. That is
`found_last`, by induction over the runs. What a run leaves, if anything, is for each file to say.
-/

namespace HybridGraphics

open Pci (Device)
open Run (run survey prepare Surveyed Prepared)

variable {σ α : Type}

/-- One run of a history: what it goes by, and the world that it starts in. -/
structure Boot (σ : Type) where
  config : Config
  actions : Actions σ
  start : World σ

namespace Boot

def outcome (b : Boot σ) : Except Run.Error Mode := (run b.config b.actions b.start).1

/-- The world that the run ends in. -/
def finish (b : Boot σ) : World σ := (run b.config b.actions b.start).2

/-- The cards that the run found, if it got past that. -/
def scanned? (b : Boot σ) : Option (List Device) :=
  if Probe.optedOut b.config.kernelCommandLine b.start.tree then none
  else
    match (survey b.config b.start).1 with
    | .ok (_, scan) => some scan.devices
    | .error _ => none

/-- The situation that the run decided on, if it got to that. -/
def situation? (b : Boot σ) : Option Situation :=
  if Probe.optedOut b.config.kernelCommandLine b.start.tree then none
  else
    match (prepare b.config b.actions b.start).1 with
    | .ok (_, s) => some s
    | .error _ => none

/-- The cards that a run found are those that it was surveyed with. -/
theorem scanned?_eq_some_iff {b : Boot σ} {devices : List Device} :
    b.scanned? = some devices ↔
      ∃ triplet scan w1, Surveyed b.config b.start triplet scan w1 ∧ scan.devices = devices := by
  unfold scanned?
  constructor
  · intro h
    split at h
    next => cases h
    next henabled =>
      split at h
      next triplet scan hs =>
        cases h
        exact ⟨triplet, scan, (survey b.config b.start).2,
          ⟨Bool.eq_false_iff.mpr henabled, Prod.ext hs rfl⟩, rfl⟩
      next => cases h
  · rintro ⟨triplet, scan, w1, hs, rfl⟩
    rw [if_neg (Bool.eq_false_iff.mp hs.enabled), hs.eq]

/-- The situation that a run decided on is the one that it was prepared with. -/
theorem situation?_eq_some_iff {b : Boot σ} {s : Situation} :
    b.situation? = some s ↔ ∃ triplet w', Prepared b.config b.actions b.start triplet s w' := by
  unfold situation?
  constructor
  · intro h
    split at h
    next => cases h
    next henabled =>
      split at h
      next triplet s' hs =>
        cases h
        exact ⟨triplet, (prepare b.config b.actions b.start).2,
          ⟨Bool.eq_false_iff.mpr henabled, Prod.ext hs rfl⟩⟩
      next => cases h
  · rintro ⟨triplet, w', hs⟩
    rw [if_neg (Bool.eq_false_iff.mp hs.enabled), hs.eq]

/-- A run that decides on a situation yields the mode that it reached. -/
theorem outcome_of_situation? {b : Boot σ} {s : Situation} (h : b.situation? = some s) :
    ∃ mode, b.outcome = .ok mode := by
  obtain ⟨triplet, w', hs⟩ := situation?_eq_some_iff.mp h
  exact ⟨_, congrArg Prod.fst hs.run_eq⟩

/-- A run that did not get past finding its cards touches no file that is owned. -/
theorem spares_of_scanned?_none {b : Boot σ} {file : WrittenFile} {Kind : World σ → Prop}
    (h : Run.Owned b.config b.actions file Kind) (hnone : b.scanned? = none) :
    Spares Kind (b.config.pathOf file) b.start b.finish := by
  cases ho : Probe.optedOut b.config.kernelCommandLine b.start.tree with
  | true => exact .of_alike h.alike (Run.run_of_optedOut ho).2
  | false =>
    have hkeeps := h.survey b.start
    rcases hs : survey b.config b.start with ⟨outcome, w1⟩
    cases outcome with
    | error cause =>
      rw [finish, Run.run_of_survey_error ho hs]
      rw [hs] at hkeeps
      exact hkeeps
    | ok found =>
      have hsome := scanned?_eq_some_iff.mpr ⟨found.1, found.2, w1, ⟨ho, hs⟩, rfl⟩
      cases hnone.symm.trans hsome

/-- A run that did not get to decide touches no file that is owned, if that is no snapshot. -/
theorem spares_of_situation?_none {b : Boot σ} {file : WrittenFile} {Kind : World σ → Prop}
    (h : Run.Owned b.config b.actions file Kind) (hfile : file ≠ .snapshot)
    (hnone : b.situation? = none) :
    Spares Kind (b.config.pathOf file) b.start b.finish := by
  rcases Run.run_cases b.config b.actions b.start with ⟨-, -, halike⟩ | ⟨cause, -, hrun⟩ |
    ⟨triplet, s, w', hs⟩
  · exact .of_alike h.alike halike
  · rw [finish, hrun]
    exact Run.prepare_keeps h.frame (h.gatherSteps hfile) h.packageManager b.start
  · cases hnone.symm.trans (situation?_eq_some_iff.mpr ⟨triplet, w', hs⟩)

end Boot

/-- Nothing touches the file between one run and the next. -/
def Undisturbed (file : Path) (boots : List (Boot σ)) : Prop :=
  boots.IsChain fun earlier later => later.start.tree.read file = earlier.finish.tree.read file

instance (file : Path) (boots : List (Boot σ)) : Decidable (Undisturbed file boots) :=
  inferInstanceAs (Decidable (boots.IsChain _))

/-- If a run that leaves something in a file leaves that for the next one, and one that leaves
nothing leaves what it found, then each run finds what the last run before it left that left
anything. -/
theorem found_last {file : Path} {left : Boot σ → Option α}
    {Holds : Option α → Except Fault Bytes → Prop} :
    ∀ (before : List (Boot σ)) {b : Boot σ} {after : List (Boot σ)} {found : Option α},
      (∀ earlier ∈ before, ∀ found, Holds found (earlier.start.tree.read file) →
        Holds ((left earlier).or found) (earlier.finish.tree.read file)) →
      Undisturbed file (before ++ b :: after) →
      (∀ first, (before ++ b :: after).head? = some first →
        Holds found (first.start.tree.read file)) →
        Holds ((before.filterMap left).getLast?.or found) (b.start.tree.read file)
  | [], b, _, _, _, _, hfirst => hfirst b rfl
  | earlier :: before, b, after, found, hleaves, hundisturbed, hfirst => by
    rw [List.cons_append, Undisturbed, List.isChain_cons] at hundisturbed
    have hleft := hleaves earlier List.mem_cons_self found (hfirst earlier rfl)
    have ih := found_last before (fun c hc => hleaves c (List.mem_cons_of_mem _ hc)) hundisturbed.2
      fun next hnext => (hundisturbed.1 next hnext) ▸ hleft
    have hlast : ((earlier :: before).filterMap left).getLast?.or found =
        (before.filterMap left).getLast?.or ((left earlier).or found) := by
      cases hl : left earlier with
      | none => rw [List.filterMap_cons_none hl, Option.none_or]
      | some value =>
        rw [List.filterMap_cons_some hl, List.getLast?_cons, Option.some_or, Option.some_or]
        cases (before.filterMap left).getLast? <;> rfl
    rw [hlast]
    exact ih

/-! ## A laptop started several times -/

namespace Laptop

/-- The laptop, started with these files. -/
def started (files : List (FileName × String)) : Boot (Recorded Rehearsal) where
  config := config
  actions := Rehearsal.actions.recorded
  start :=
    { tree := ⟨[("m", .dir (files.map fun f => (f.1, file f.2)))]⟩
      system := { system := { loaded := ["i915"], available := ["nvidia"] } } }

def bothCards : String := "8086:3e9b;0000:00:02:0;1\n10de:1f91;0000:01:00:0;0\n"

/-- The laptop is started with both of its cards. -/
def docked : Boot (Recorded Rehearsal) := started [("lspci", bothCards), ("prime-discrete", "on\n")]

/-- It is started again, and its operator wants no run. -/
def turnedOff : Boot (Recorded Rehearsal) :=
  started [("cmdline", "nogpumanager\n"), ("last_gfx_boot", bothCards),
    ("requires_offloading", "ON\n")]

/-- At last it is started without the NVIDIA card. -/
def undocked : Boot (Recorded Rehearsal) :=
  started [("lspci", "8086:3e9b;0000:00:02:0;1\n"), ("last_gfx_boot", bothCards),
    ("requires_offloading", "ON\n")]

def boots : List (Boot (Recorded Rehearsal)) := [docked, turnedOff, undocked]

theorem boots_eq : boots = [docked, turnedOff] ++ undocked :: [] := by
  rw [boots, List.cons_append, List.cons_append, List.nil_append]

/-- Each of its runs owns all of its files. -/
theorem boots_owned {b : Boot (Recorded Rehearsal)} (hb : b ∈ boots) (f : WrittenFile) :
    Run.Owned b.config b.actions f (Run.ClearWay config (config.pathOf f)) ∧
      Run.ClearWay config (config.pathOf f) b.start := by
  have hsame : ∀ b ∈ boots, b.config = config ∧ b.actions = Rehearsal.actions.recorded := by
    simp [boots, docked, turnedOff, undocked, started]
  have hfree : ∀ b ∈ boots, Node.areLinkFree b.start.tree.entries = true := by decide +kernel
  have hclear : ∀ b ∈ boots, ∀ f, ¬ b.start.tree.DirAt (config.pathOf f).place ∧
      ∀ q ∈ (config.pathOf f).place.inits, q ≠ (config.pathOf f).place →
        b.start.tree.bytes? q = none := by decide +kernel
  have hends : ∀ f, (config.pathOf f).Walkable ∧ Path.EndsInName (config.pathOf f).route := by
    decide +kernel
  obtain ⟨hnotDir, habove⟩ := hclear b hb f
  rw [(hsame b hb).1, (hsame b hb).2]
  exact ⟨Run.owned_of_writesApart (by decide +kernel) Rehearsal.actions_keepsFiles.recorded
    (hends f).1 (hends f).2, .of_check (hfree b hb) habove hnotDir rfl⟩

end Laptop

end HybridGraphics
