import HybridGraphics.Proofs.Decision.WellFormed
import HybridGraphics.Proofs.Run.Boots

/-!
# The offloading marker

A run learns from the offloading marker whether offloading was needed before. The marker is the last
effect of every decision but no action, and no failure of another effect keeps a run from it
(`execute_eq`). `marker_remembers_last_decisive_run` says what that comes to over a history of
runs, on a marker that nothing else touches: a run that decides is told what the last decisive
run needed, where a run is decisive if it came to a mode and was to take some action, and no dry
run. All other runs leave the marker alone.

What is left open is a run that cannot set the marker where it comes to that, so that it can is a
hypothesis (`Boot.SetsMarker`).
-/

namespace HybridGraphics

open Act (Keeps)

variable {σ : Type}

namespace Run

variable (config : Config) (actions : Actions σ) (triplet : String) (s : Situation)

/-- The world in which a run sets the marker: every other effect was attempted or left out. -/
def enacted (w : World σ) : World σ :=
  (carryOutFrom (attempt config actions triplet) (fallBack config) (Decision.decide s).mode
    (Decision.decide s).mode (Decision.choose s).effects w).2

/-- Whatever failed before, a run attempts to set the marker, unless it is to take no action. -/
theorem execute_eq (w : World σ) :
    (execute config actions triplet (Decision.decide s) w).2 =
      if (Decision.decide s).mode = .noAction then enacted config actions triplet s w
      else (attempt config actions triplet (.setOffloadingMarker s.requiresOffloading)
        (enacted config actions triplet s w)).2 := by
  obtain ⟨hmode, heffects⟩ := Decision.decide_effects s
  unfold execute carryOut
  rw [heffects, carryOutFrom_append, Act.bind_apply, hmode]
  split
  next => rw [enacted, hmode]; rfl
  next =>
    rw [carryOutFrom_cons _ _ _ _ rfl, Act.bind_apply, enacted, hmode]
    rfl

end Run

/-! ## What the marker says -/

/-- What a reading of the marker comes to: what the last run needed, if there was one. -/
def MarkerHolds (required : Option Bool) (reading : Except Fault Bytes) : Prop :=
  reading = if required.getD false then .ok (Text.encode Run.markerText) else .error .notFound

namespace Run

variable {config : Config} {actions : Actions σ} {triplet : String}

/-- The marker reads back as what it was set to. -/
theorem neededOffloading_of_markerHolds {t : FileTree} {required : Option Bool}
    (h : MarkerHolds required (t.read config.offloadingMarker)) :
    neededOffloading config t = required.getD false := by
  unfold MarkerHolds at h
  cases hr : required.getD false with
  | true =>
    rw [hr, if_pos rfl] at h
    exact neededOffloading_of_marker h
  | false =>
    rw [hr, if_neg Bool.false_ne_true] at h
    unfold neededOffloading Probe.firstLine FileTree.readText
    rw [h]
    rfl

/-- Setting the marker, if that is done, leaves what it was to be set to. -/
theorem markerHolds_of_attempt {required : Bool} {w : World σ} (hdry : config.dryRun = false)
    (h : (attempt config actions triplet (.setOffloadingMarker required) w).1 = true) :
    MarkerHolds (some required)
      ((attempt config actions triplet (.setOffloadingMarker required) w).2.tree.read
        config.offloadingMarker) := by
  simp only [attempt, apply, setOffloadingMarker, hdry, Bool.false_eq_true, if_false] at h ⊢
  cases required with
  | true =>
    simp only [if_true, Act.bind_apply] at h ⊢
    cases hw : (Act.writeText config.offloadingMarker markerText w).1 with
    | ok done => exact Act.read_of_writeText hw
    | error cause =>
      rw [hw] at h
      cases h
  | false =>
    simp only [Bool.false_eq_true, if_false, Act.bind_apply] at h ⊢
    cases hw : (Act.removeFile config.offloadingMarker w).1 with
    | ok wasThere => exact Act.read_of_removeFile hw
    | error cause =>
      rw [hw] at h
      cases h

/-- A dry run leaves the marker as it is. -/
theorem attempt_alike_of_dryRun (hdry : config.dryRun = true) (required : Bool) (w : World σ) :
    w.Alike (attempt config actions triplet (.setOffloadingMarker required) w).2 := by
  simp only [attempt, apply, setOffloadingMarker, hdry, if_true]
  exact .info w _

end Run

/-! ## One run -/

namespace Boot

open Run (Owned Prepared enacted)

variable {b : Boot σ} {Kind : World σ → Prop} {held : Option Bool}

/-- What a decisive run needed: one that came to a mode and was to take some action, and no dry
run. -/
def required? (b : Boot σ) : Option Bool :=
  match b.outcome, b.situation? with
  | .ok _, some s =>
    if b.config.dryRun = true ∨ (Decision.decide s).mode = .noAction then none
    else some s.requiresOffloading
  | _, _ => none

/-- Where the run comes to set the marker, that succeeds. -/
def SetsMarker (b : Boot σ) : Prop :=
  ∀ triplet s w', Prepared b.config b.actions b.start triplet s w' →
    (Decision.decide s).mode ≠ .noAction →
      (Run.attempt b.config b.actions triplet (.setOffloadingMarker s.requiresOffloading)
        (enacted b.config b.actions triplet s w')).1 = true

/-- Whether the marker can be set is known once the run is prepared. -/
theorem setsMarker_iff : b.SetsMarker ↔
    (Probe.optedOut b.config.kernelCommandLine b.start.tree = false →
      ∀ found ∈ (Run.prepare b.config b.actions b.start).1.toOption,
        (Decision.decide found.2).mode ≠ .noAction →
          (Run.attempt b.config b.actions found.1 (.setOffloadingMarker found.2.requiresOffloading)
            (enacted b.config b.actions found.1 found.2
              (Run.prepare b.config b.actions b.start).2)).1 = true) := by
  constructor
  · intro h ho found hfound hmode
    cases hr : (Run.prepare b.config b.actions b.start).1 with
    | error cause =>
      rw [hr] at hfound
      cases hfound
    | ok prepared =>
      rw [hr] at hfound
      cases hfound
      exact h _ _ _ ⟨ho, Prod.ext hr rfl⟩ hmode
  · intro h triplet s w' hprepared hmode
    have hdone := h hprepared.enabled (triplet, s) (by rw [hprepared.eq]; rfl) hmode
    rwa [hprepared.eq] at hdone

instance (b : Boot σ) : Decidable b.SetsMarker := decidable_of_iff _ setsMarker_iff.symm

/-- A run that decided on a situation needed what the situation requires, unless it was a dry run or
had nothing to do. -/
theorem required?_of_situation? {s : Situation} (h : b.situation? = some s) :
    b.required? =
      if b.config.dryRun = true ∨ (Decision.decide s).mode = .noAction then none
      else some s.requiresOffloading := by
  obtain ⟨mode, hok⟩ := outcome_of_situation? h
  unfold required?
  rw [hok, h]

theorem required?_of_situation?_none (h : b.situation? = none) : b.required? = none := by
  unfold required?
  rw [h]
  cases b.outcome <;> rfl

/-- Up to where it sets the marker, a run does not touch it. -/
theorem spares_enacted (howned : Owned b.config b.actions .marker Kind) {triplet : String}
    {s : Situation} {w' : World σ} (h : Prepared b.config b.actions b.start triplet s w') :
    Spares Kind b.config.offloadingMarker b.start
      (enacted b.config b.actions triplet s w') := by
  have hprepare := Run.prepare_keeps howned.frame (howned.gatherSteps (by simp))
    howned.packageManager b.start
  rw [h.eq] at hprepare
  exact howned.frame.trans hprepare (howned.carryOutFrom (by simp) triplet _
    (fun e he => Decision.file?_ne_marker he) _ w')

/-- A run that is not decisive leaves the marker alone. -/
theorem read_of_required?_none (howned : Owned b.config b.actions .marker Kind)
    (hkind : Kind b.start) (hnone : b.required? = none) :
    b.finish.tree.read b.config.offloadingMarker = b.start.tree.read b.config.offloadingMarker := by
  cases hs : b.situation? with
  | none => exact (spares_of_situation?_none howned (by simp) hs hkind).2
  | some s =>
    obtain ⟨triplet, w', hprepared⟩ := situation?_eq_some_iff.mp hs
    obtain ⟨-, hread⟩ := spares_enacted howned hprepared hkind
    rw [required?_of_situation? hs] at hnone
    rw [finish, hprepared.run_eq, ← hread]
    simp only [Run.execute_eq]
    by_cases hmode : (Decision.decide s).mode = .noAction
    · rw [if_pos hmode]
    · rw [if_neg hmode]
      have hdry : b.config.dryRun = true := by
        by_contra hdry
        rw [if_neg (not_or.mpr ⟨hdry, hmode⟩)] at hnone
        cases hnone
      rw [(Run.attempt_alike_of_dryRun hdry s.requiresOffloading _).tree]

/-- A decisive run leaves what it needed. -/
theorem read_of_required?_some (hsets : b.SetsMarker) {required : Bool}
    (hsome : b.required? = some required) :
    MarkerHolds (some required) (b.finish.tree.read b.config.offloadingMarker) := by
  cases hs : b.situation? with
  | none => cases hsome.symm.trans (required?_of_situation?_none hs)
  | some s =>
    obtain ⟨triplet, w', hprepared⟩ := situation?_eq_some_iff.mp hs
    rw [required?_of_situation? hs] at hsome
    split at hsome
    next => cases hsome
    next hdecisive =>
      obtain ⟨hdry, hmode⟩ := not_or.mp hdecisive
      cases hsome
      rw [finish, hprepared.run_eq]
      simp only [Run.execute_eq, if_neg hmode]
      exact Run.markerHolds_of_attempt (Bool.eq_false_iff.mpr hdry)
        (hsets triplet s w' hprepared hmode)

/-- What a run is told of the last decisive run is what the marker said when it started. -/
theorem offloadingWasRequired_eq (howned : Owned b.config b.actions .marker Kind)
    (hkind : Kind b.start)
    (hheld : MarkerHolds held (b.start.tree.read b.config.offloadingMarker)) {s : Situation}
    (hs : b.situation? = some s) : s.offloadingWasRequired = held.getD false := by
  obtain ⟨triplet, w', hprepared⟩ := situation?_eq_some_iff.mp hs
  obtain ⟨scan, w1, last, w2, w3, hsurveyed, hsituated⟩ := hprepared.surveyed
  have hsurvey := howned.survey b.start hkind
  rw [hsurveyed.eq] at hsurvey
  rw [hsituated.situation, Run.value_situationOf]
  refine Run.neededOffloading_of_markerHolds ?_
  rw [show w1.tree.read b.config.offloadingMarker = _ from hsurvey.2]
  exact hheld

end Boot

/-! ## Over a history -/

open Run (Owned)

/-- A run that is not decisive leaves the marker alone: it was opted out of, it failed, it was to
take no action, or it was a dry run. Over any history of runs on a marker that starts out
missing, can be set and is touched by nothing else, each run that decides is told what the last
decisive run before it needed, or that none was needed if there was none. -/
theorem marker_remembers_last_decisive_run {Kind : World σ → Prop} {file : Path}
    {boots : List (Boot σ)} (hfile : ∀ b ∈ boots, b.config.offloadingMarker = file)
    (howned : ∀ b ∈ boots, Owned b.config b.actions .marker Kind ∧ Kind b.start) :
    (∀ b ∈ boots, b.required? = none → b.finish.tree.read file = b.start.tree.read file) ∧
      (Undisturbed file boots →
        (∀ first, boots.head? = some first → first.start.tree.read file = .error .notFound) →
        (∀ b ∈ boots, b.SetsMarker) →
        ∀ before b after, boots = before ++ b :: after → ∀ s, b.situation? = some s →
          s.offloadingWasRequired = (before.filterMap Boot.required?).getLast?.getD false) := by
  have halone : ∀ b ∈ boots, b.required? = none →
      b.finish.tree.read file = b.start.tree.read file := by
    intro b hb hnone
    rw [← hfile b hb]
    exact Boot.read_of_required?_none (howned b hb).1 (howned b hb).2 hnone
  refine ⟨halone, ?_⟩
  rintro hundisturbed hmissing hsets before b after rfl s hs
  have hleaves : ∀ c ∈ before, ∀ held, MarkerHolds held (c.start.tree.read file) →
      MarkerHolds (c.required?.or held) (c.finish.tree.read file) := by
    intro c hc held hheld
    have hmem : c ∈ before ++ b :: after := List.mem_append_left _ hc
    cases hr : c.required? with
    | none =>
      rw [halone c hmem hr]
      exact hheld
    | some required =>
      rw [← hfile c hmem]
      exact Boot.read_of_required?_some (hsets c hmem) hr
  have hfirst : ∀ first, (before ++ b :: after).head? = some first →
      MarkerHolds none (first.start.tree.read file) := hmissing
  have hheld := found_last before hleaves hundisturbed hfirst
  have hmem : b ∈ before ++ b :: after := List.mem_append_right _ List.mem_cons_self
  rw [Option.or_none, ← hfile b hmem] at hheld
  exact Boot.offloadingWasRequired_eq (howned b hmem).1 (howned b hmem).2 hheld hs

/-- The laptop that lost its NVIDIA card is told that offloading was needed, although the last boot
had no run. -/
theorem marker_remembers_last_decisive_run_laptop :
    ∃ s, Laptop.undocked.situation? = some s ∧ s.offloadingWasRequired = true := by
  have hfile : ∀ b ∈ Laptop.boots,
      b.config.offloadingMarker = Laptop.config.offloadingMarker := by decide +kernel
  have hundisturbed : Undisturbed Laptop.config.offloadingMarker Laptop.boots := by decide +kernel
  have hmissing : ∀ first, Laptop.boots.head? = some first →
      first.start.tree.read Laptop.config.offloadingMarker = .error .notFound := by
    intro first h
    obtain rfl : Laptop.docked = first := Option.some.inj h
    decide +kernel
  have hsets : ∀ b ∈ Laptop.boots, b.SetsMarker := by decide +kernel
  have hdocked : Laptop.docked.required? = some true := by decide +kernel
  have hoff : Laptop.turnedOff.required? = none := by decide +kernel
  have hdecides : Laptop.undocked.situation?.isSome = true := by decide +kernel
  obtain ⟨s, hs⟩ := Option.isSome_iff_exists.mp hdecides
  have htold := (marker_remembers_last_decisive_run hfile
    fun b hb => Laptop.boots_owned hb .marker).2 hundisturbed hmissing hsets
    _ _ _ Laptop.boots_eq s hs
  rw [List.filterMap_cons_some hdocked, List.filterMap_cons_none hoff, List.filterMap_nil,
    List.getLast?_singleton] at htold
  exact ⟨s, hs, htold⟩

end HybridGraphics
