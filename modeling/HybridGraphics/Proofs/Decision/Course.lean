import HybridGraphics.Proofs.Config.Separate
import HybridGraphics.Proofs.Decision.Chosen

/-!
# What a decision aims at

A run leaves out what is in place already, so two runs on one machine may have different
effects. What they aim at is the same. `Course` is what there is to decide on a machine
with several cards, or none, and `Course.goals` lists the effects there would be on a
machine on which nothing is in place. `effects_sublist_goals` says that a decision's
effects are some of these, and `seen_of_mem_goals` that what is left out was seen to be in
place.

PRIME has several ways to go, by the policy and the driver. `PrimeWay` lists them with the mode
and the aims of each, so what is proved of PRIME is proved by these cases.

The course is a matter of the hardware, of the other drivers, and of whether the NVIDIA
driver can be used. All of that is the same when a run has been carried out:
`SameMachine` lists it, and `course` says that machines which are the same take the same
course.
-/

namespace HybridGraphics

open Pci (Device Vendor)

/-! ## Effects by what they are about -/

namespace Effect

/-- The file that an effect may write or remove. -/
def file? : Effect → Option WrittenFile
  | writeOutputClass _ => some (.fragment .outputClass)
  | writeServerLayout => some (.fragment .serverLayout)
  | removeFragment f => some (.fragment f)
  | setRuntimePm _ _ _ _ => some .runtimePmSnippet
  | persistPolicy _ => some .policy
  | setOffloadingMarker _ => some .marker
  | loadModule _ | unloadNvidiaStack | runPxScript _ => none

/-- True for the effects that load or unload the driver. -/
def drives : Effect → Bool
  | loadModule _ | unloadNvidiaStack => true
  | _ => false

/-- Of all modules, the effect loads at most the NVIDIA driver. -/
def LoadsOnlyNvidia (e : Effect) : Prop := ∀ name, e = loadModule name → name = "nvidia"

/-- Two effects that are about different files, and not both about the driver. -/
def Apart (e e' : Effect) : Prop :=
  (∀ file, e.file? = some file → e'.file? ≠ some file) ∧ ¬ (e.drives = true ∧ e'.drives = true)

theorem Apart.symm {e e' : Effect} (h : e.Apart e') : e'.Apart e :=
  ⟨fun file hf hf' => h.1 file hf' hf, fun ⟨h1, h2⟩ => h.2 ⟨h2, h1⟩⟩

instance : Std.Symm Apart := ⟨fun _ _ => Apart.symm⟩

/-- The situation shows that what the effect is to bring about is in place. -/
def Seen (s : Situation) : Effect → Prop
  | writeOutputClass _ => s.outputClass = .current
  | writeServerLayout => s.serverLayout = .current
  | removeFragment .outputClass => s.outputClass.isPresent = false
  | removeFragment .serverLayout => s.serverLayout.isPresent = false
  | loadModule _ => s.drivers.nvidiaLoaded = true
  | unloadNvidiaStack => s.drivers.nvidiaLoaded = false
  | _ => False

end Effect

/-! ## Courses -/

/-- What there is to decide on a machine with several cards, or none. -/
inductive Course where
  | nothing
  | prime (discrete : Device)
  | powerXpress
  | muxed
  deriving DecidableEq, Repr

namespace Course

/-- The decision, as far as the course leaves it open. -/
def decision (s : Situation) : Course → Decision
  | nothing => Decision.noAction
  | prime discrete => Decision.prime s discrete
  | powerXpress => Decision.powerXpress (Decision.pxSetting s.policy)
  | muxed => Decision.muxed s

/-- What PRIME aims at where the card is to drive every output. -/
def primeOnGoals (s : Situation) (discrete : Device) : List Effect :=
  [.writeOutputClass discrete, .removeFragment .serverLayout,
    Decision.runtimePm s discrete false, .loadModule "nvidia"]

def primeGoals (s : Situation) (discrete : Device) : List Effect :=
  match s.policy with
  | .off =>
    [.removeFragment .outputClass, .removeFragment .serverLayout, .unloadNvidiaStack,
      Decision.runtimePm s discrete true]
  | .on => primeOnGoals s discrete
  | .onDemand =>
    if s.onDemandCapable then
      [.writeServerLayout, .removeFragment .outputClass, Decision.runtimePm s discrete true,
        .loadModule "nvidia"]
    else .persistPolicy .on :: primeOnGoals s discrete

/-- The ways that PRIME may go, by its mode and what it aims at. -/
inductive PrimeWay (s : Situation) (discrete : Device) : Mode → List Effect → Prop
  | off (policy : s.policy = .off) :
      PrimeWay s discrete .integratedOnly
        [.removeFragment .outputClass, .removeFragment .serverLayout, .unloadNvidiaStack,
          Decision.runtimePm s discrete true]
  | on (policy : s.policy = .on) : PrimeWay s discrete .primeOn (primeOnGoals s discrete)
  | onDemand (policy : s.policy = .onDemand) (capable : s.onDemandCapable = true) :
      PrimeWay s discrete .primeOnDemand
        [.writeServerLayout, .removeFragment .outputClass, Decision.runtimePm s discrete true,
          .loadModule "nvidia"]
  /-- The driver is too old for what the operator asks for. -/
  | tooOld (policy : s.policy = .onDemand) (old : s.onDemandCapable = false) :
      PrimeWay s discrete .primeOn (.persistPolicy .on :: primeOnGoals s discrete)

/-- The effects there would be if nothing were in place. -/
def goals (s : Situation) : Course → List Effect
  | nothing => []
  | prime discrete => primeGoals s discrete ++ [.setOffloadingMarker s.requiresOffloading]
  | powerXpress =>
    [.runPxScript (Decision.pxSetting s.policy), .setOffloadingMarker s.requiresOffloading]
  | muxed =>
    [.removeFragment .outputClass, .removeFragment .serverLayout,
      .setOffloadingMarker s.requiresOffloading]

end Course

/-! ## Machines that take the same course -/

/-- What a run that was carried out leaves as it was. -/
structure Situation.SameMachine (s s' : Situation) : Prop where
  devices : s'.devices = s.devices
  requiresOffloading : s'.requiresOffloading = s.requiresOffloading
  driverMajor : s'.driverMajor = s.driverMajor
  eligibility : s'.eligibility = s.eligibility
  pxScript : s'.pxScriptAvailable = s.pxScriptAvailable
  nouveau : s'.drivers.nouveauLoaded = s.drivers.nouveauLoaded
  blacklisted : s'.drivers.nvidiaBlacklisted = s.drivers.nvidiaBlacklisted
  usable : (s'.drivers.nvidiaLoaded || s'.drivers.nvidiaAvailable) =
    (s.drivers.nvidiaLoaded || s.drivers.nvidiaAvailable)
  amdgpu : s'.drivers.amdgpuLoaded = s.drivers.amdgpuLoaded
  versioned : s'.drivers.amdgpuVersioned = s.drivers.amdgpuVersioned

theorem Situation.SameMachine.refl (s : Situation) : s.SameMachine s :=
  ⟨rfl, rfl, rfl, rfl, rfl, rfl, rfl, rfl, rfl, rfl⟩

/-- Whether PRIME can be had is a matter of the machine. -/
theorem Situation.SameMachine.primeCapable {s s' : Situation} (h : s.SameMachine s') :
    s'.primeCapable = s.primeCapable := by
  unfold Situation.primeCapable
  rw [h.requiresOffloading, h.nouveau, h.blacklisted, h.usable]

namespace Decision

/-- Machines that are the same take the same course, unless they have exactly one card. -/
theorem course (s : Situation) (several : s.devices.length ≠ 1) :
    ∃ c : Course,
      (∀ discrete, c = .prime discrete →
        discrete.vendor = Vendor.nvidia ∧ PrimeRoute s discrete) ∧
      ∀ s', s.SameMachine s' →
        (choose s').mode = (c.decision s').mode ∧ (choose s').effects = (c.decision s').effects := by
  match hs : s.devices with
  | [] =>
    refine ⟨.nothing, (fun _ h => by cases h), fun s' h => ?_⟩
    unfold choose
    rw [h.devices, hs]
    exact ⟨rfl, rfl⟩
  | [device] =>
    rw [hs] at several
    exact absurd rfl several
  | first :: second :: rest =>
    have hchoose : ∀ s', s.SameMachine s' → choose s' = multipleCards s' := by
      intro s' h
      unfold choose
      rw [h.devices, hs]
    have hmany : 2 ≤ s.devices.length := by
      rw [hs]
      exact Nat.le_add_left 2 rest.length
    cases hboot : s.devices.find? (·.bootVga) with
    | none =>
      refine ⟨.muxed, (fun _ h => by cases h), fun s' h => ?_⟩
      rw [hchoose s' h, multipleCards, h.devices, hboot]
      exact ⟨rfl, rfl⟩
    | some boot =>
      cases hother : s.devices.find? (!·.bootVga) with
      | none =>
        refine ⟨.muxed, (fun _ h => by cases h), fun s' h => ?_⟩
        rw [hchoose s' h, multipleCards, h.devices, hboot, hother]
        exact ⟨rfl, rfl⟩
      | some discrete =>
        have hhybrid : ∀ s', s.SameMachine s' → choose s' = hybrid s' boot discrete := by
          intro s' h
          rw [hchoose s' h, multipleCards, h.devices, hboot, hother]
        by_cases hb : ((boot.vendor = Vendor.intel || boot.vendor = Vendor.amd)
            && boot.vendor != discrete.vendor) = true
        · by_cases hn : (discrete.vendor = Vendor.nvidia && s.primeCapable) = true
          · refine ⟨.prime discrete, ?_, fun s' h => ?_⟩
            · rintro _ ⟨⟩
              simp only [Bool.and_eq_true, Bool.or_eq_true, decide_eq_true_eq] at hb hn
              exact ⟨hn.1, .beside boot hmany hboot hb.1 hother hn.2⟩
            · rw [hhybrid s' h, hybrid, if_pos hb, h.primeCapable, if_pos hn]
              exact ⟨rfl, rfl⟩
          · by_cases hp : (discrete.vendor = Vendor.amd && s.drivers.amdgpuVersioned
                && s.pxScriptAvailable && s.requiresOffloading) = true
            · refine ⟨.powerXpress, (fun _ h => by cases h), fun s' h => ?_⟩
              rw [hhybrid s' h, hybrid, if_pos hb, h.primeCapable, if_neg hn, h.versioned,
                h.pxScript, h.requiresOffloading, if_pos hp]
              exact ⟨rfl, rfl⟩
            · refine ⟨.muxed, (fun _ h => by cases h), fun s' h => ?_⟩
              rw [hhybrid s' h, hybrid, if_pos hb, h.primeCapable, if_neg hn, h.versioned,
                h.pxScript, h.requiresOffloading, if_neg hp]
              exact ⟨rfl, rfl⟩
        · refine ⟨.muxed, (fun _ h => by cases h), fun s' h => ?_⟩
          rw [hhybrid s' h, hybrid, if_neg hb]
          exact ⟨rfl, rfl⟩

end Decision

namespace Course

open Decision (removeFragments runtimePm loadDriver)

variable {s : Situation} {c : Course}

/-- Of a condition's effect and nothing, some. -/
theorem optional_sublist (b : Bool) (e : Effect) : (if b then [e] else []).Sublist [e] := by
  cases b with
  | false => exact List.nil_sublist _
  | true => exact List.Sublist.refl _

/-- What is removed of the fragments is some of both removals, in their order. -/
theorem removeFragments_sublist (s : Situation) :
    (removeFragments s).Sublist [.removeFragment .outputClass, .removeFragment .serverLayout] :=
  (optional_sublist _ (.removeFragment .outputClass)).append
    (optional_sublist _ (.removeFragment .serverLayout))

theorem loadDriver_sublist (s : Situation) : (loadDriver s).Sublist [.loadModule "nvidia"] := by
  unfold loadDriver
  split
  next => exact List.nil_sublist _
  next => exact List.Sublist.refl _

/-- Turning PRIME on has the effects that it aims at, less those that are in place. -/
theorem primeOn_sublist (s : Situation) (discrete : Device) (before : List Effect) :
    (Decision.primeOn s discrete before).effects.Sublist
      (before ++ primeOnGoals s discrete) := by
  have hrest : (runtimePm s discrete false :: loadDriver s).Sublist
      [runtimePm s discrete false, .loadModule "nvidia"] :=
    (loadDriver_sublist s).cons_cons _
  simp only [Decision.primeOn, List.append_assoc]
  exact (List.Sublist.refl before).append
    ((optional_sublist _ (.writeOutputClass discrete)).append
      ((optional_sublist _ (.removeFragment .serverLayout)).append hrest))

theorem primeOnDemand_sublist (s : Situation) (discrete : Device) :
    (Decision.primeOnDemand s discrete).effects.Sublist
      [.writeServerLayout, .removeFragment .outputClass, runtimePm s discrete true,
        .loadModule "nvidia"] := by
  have hrest : (runtimePm s discrete true :: loadDriver s).Sublist
      [runtimePm s discrete true, .loadModule "nvidia"] :=
    (loadDriver_sublist s).cons_cons _
  simp only [Decision.primeOnDemand, List.append_assoc]
  exact (optional_sublist _ .writeServerLayout).append
    ((optional_sublist _ (.removeFragment .outputClass)).append hrest)

/-- However PRIME goes, its effects are some of what it aims at. -/
theorem prime_sublist (s : Situation) (discrete : Device) :
    (Decision.prime s discrete).effects.Sublist (primeGoals s discrete) := by
  unfold Decision.prime primeGoals
  cases s.policy with
  | off =>
    simp only [Decision.primeOff, List.append_assoc]
    exact (removeFragments_sublist s).append
      ((optional_sublist _ .unloadNvidiaStack).append (List.Sublist.refl _))
  | on => exact primeOn_sublist s discrete []
  | onDemand =>
    simp only
    split
    next => exact primeOnDemand_sublist s discrete
    next => exact primeOn_sublist s discrete [.persistPolicy .on]

/-- PRIME goes one of these ways. -/
theorem primeWay (s : Situation) (discrete : Device) :
    PrimeWay s discrete (Decision.prime s discrete).mode (primeGoals s discrete) := by
  unfold Decision.prime primeGoals
  cases hp : s.policy with
  | off => exact .off hp
  | on => exact .on hp
  | onDemand =>
    cases hc : s.onDemandCapable with
    | true => exact .onDemand hp hc
    | false => exact .tooOld hp hc

section Ways

variable {discrete : Device} {mode : Mode} {aims : List Effect}

/-- PRIME is on, unless the card is not to be used. -/
theorem PrimeWay.isPrime_or_off (h : PrimeWay s discrete mode aims) :
    mode.isPrime = true ∨ mode = .integratedOnly ∧ s.policy = .off := by
  cases h with
  | off policy => exact .inr ⟨rfl, policy⟩
  | _ => exact .inl rfl

/-- The effects that PRIME aims at, and the marker after them, are about different files, and at
most one is about the driver. -/
theorem PrimeWay.pairwise (h : PrimeWay s discrete mode aims) :
    (aims ++ [Effect.setOffloadingMarker s.requiresOffloading]).Pairwise Effect.Apart := by
  cases h <;> simp [primeOnGoals, Effect.Apart, Effect.file?, Effect.drives, runtimePm]

/-- The driver is to be loaded, unless the card is not to be used. -/
theorem PrimeWay.loadModule_mem_iff (h : PrimeWay s discrete mode aims) (name : String) :
    .loadModule name ∈ aims ↔ s.policy ≠ .off ∧ name = "nvidia" := by
  cases h with
  | off policy => simp [policy, runtimePm]
  | on policy => simp [policy, primeOnGoals, runtimePm]
  | onDemand policy capable => simp [policy, runtimePm]
  | tooOld policy old => simp [policy, primeOnGoals, runtimePm]

/-- The driver is to go only if the card is not to be used. -/
theorem PrimeWay.off_of_unload (h : PrimeWay s discrete mode aims)
    (he : .unloadNvidiaStack ∈ aims) : s.policy = .off := by
  cases h with
  | off policy => exact policy
  | _ => simp [primeOnGoals, runtimePm] at he

/-- The policy is to be written only where the driver is known to be too old for it. -/
theorem PrimeWay.tooOld_of_persist (h : PrimeWay s discrete mode aims) {policy : Policy}
    (he : .persistPolicy policy ∈ aims) :
    policy = .on ∧ s.policy = .onDemand ∧ s.onDemandCapable = false ∧ mode = .primeOn := by
  cases h with
  | tooOld asked old =>
    have hon : policy = .on := by simpa [primeOnGoals, runtimePm] using he
    exact ⟨hon, asked, old, rfl⟩
  | _ => simp [primeOnGoals, runtimePm] at he

/-- Runtime power management is to be switched off only to turn PRIME on. -/
theorem PrimeWay.primeOn_of_switchesOff (h : PrimeWay s discrete mode aims) {device : Device}
    {eligibility : Eligibility} {onBus : Bool}
    (he : .setRuntimePm device false eligibility onBus ∈ aims) : mode = .primeOn := by
  cases h with
  | on policy => rfl
  | tooOld policy old => rfl
  | _ => simp [runtimePm] at he

theorem PrimeWay.no_script (h : PrimeWay s discrete mode aims) {setting : PxMode} :
    .runPxScript setting ∉ aims := by
  cases h <;> simp [primeOnGoals, runtimePm]

/-- The card to be made primary is the one that PRIME is for. -/
theorem PrimeWay.eq_of_writeOutputClass (h : PrimeWay s discrete mode aims) {device : Device}
    (he : .writeOutputClass device ∈ aims) : device = discrete := by
  cases h with
  | on policy => simpa [primeOnGoals, runtimePm] using he
  | tooOld policy old => simpa [primeOnGoals, runtimePm] using he
  | _ => simp [runtimePm] at he

end Ways

/-- Every other course takes action. -/
theorem mode_ne_noAction (s : Situation) (hc : c ≠ .nothing) : (c.decision s).mode ≠ .noAction := by
  cases c with
  | nothing => exact absurd rfl hc
  | prime discrete =>
    intro h
    have hway := (primeWay s discrete).isPrime_or_off
    rw [show (Decision.prime s discrete).mode = .noAction from h] at hway
    rcases hway with hprime | ⟨hoff, -⟩
    · cases hprime
    · cases hoff
  | powerXpress => simp [decision, Decision.powerXpress]
  | muxed =>
    show (Decision.muxed s).mode ≠ .noAction
    unfold Decision.muxed
    simp only
    split <;> simp

/-- The effects of a decision are some of what it aims at. -/
theorem effects_sublist_goals (h : (Decision.choose s).mode = (c.decision s).mode ∧
    (Decision.choose s).effects = (c.decision s).effects) :
    (Decision.decide s).effects.Sublist (c.goals s) := by
  rw [(Decision.decide_effects s).2, h.1, h.2]
  cases c with
  | nothing => exact List.Sublist.refl _
  | prime discrete =>
    rw [if_neg (mode_ne_noAction s (by simp))]
    exact (prime_sublist s discrete).append (List.Sublist.refl _)
  | powerXpress => exact List.Sublist.refl _
  | muxed =>
    rw [if_neg (mode_ne_noAction s (by simp))]
    exact (removeFragments_sublist s).append (List.Sublist.refl _)

/-- What a decision aims at are different things. -/
theorem goals_pairwise (s : Situation) (c : Course) : (c.goals s).Pairwise Effect.Apart := by
  cases c with
  | nothing => exact List.Pairwise.nil
  | prime discrete => exact (primeWay s discrete).pairwise
  | powerXpress => simp [goals, Effect.Apart, Effect.file?, Effect.drives]
  | muxed => simp [goals, Effect.Apart, Effect.file?, Effect.drives]

/-- No effect is about the snapshot of the devices. -/
theorem file?_ne_snapshot (e : Effect) : e.file? ≠ some .snapshot := by
  cases e <;> simp [Effect.file?]

/-- Of all modules, only the NVIDIA driver is ever to be loaded. -/
theorem loadsOnlyNvidia_of_mem_goals {e : Effect} (he : e ∈ c.goals s) : e.LoadsOnlyNvidia := by
  rintro name rfl
  cases c with
  | nothing => cases he
  | prime discrete =>
    rcases List.mem_append.mp he with he | he
    · exact (((primeWay s discrete).loadModule_mem_iff name).mp he).2
    · simp at he
  | powerXpress => simp [goals] at he
  | muxed => simp [goals] at he

/-- Unless the policy is off, PRIME is to have the driver loaded. -/
theorem loadModule_mem_goals (discrete : Device) (hp : s.policy ≠ .off) :
    .loadModule "nvidia" ∈ (Course.prime discrete).goals s :=
  List.mem_append_left _ (((primeWay s discrete).loadModule_mem_iff "nvidia").mpr ⟨hp, rfl⟩)

/-- Only PRIME makes a card primary, and then the one that it is about. -/
theorem eq_prime_of_writeOutputClass {device : Device}
    (he : .writeOutputClass device ∈ c.goals s) : c = .prime device := by
  cases c with
  | nothing => cases he
  | prime discrete =>
    rcases List.mem_append.mp he with he | he
    · rw [(primeWay s discrete).eq_of_writeOutputClass he]
    · simp at he
  | powerXpress => simp [goals] at he
  | muxed => simp [goals] at he

/-- Only PowerXpress has its script run. -/
theorem eq_powerXpress_of_script {setting : PxMode} (he : .runPxScript setting ∈ c.goals s) :
    c = .powerXpress := by
  cases c with
  | nothing => cases he
  | prime discrete =>
    rcases List.mem_append.mp he with he | he
    · exact absurd he (primeWay s discrete).no_script
    · simp at he
  | powerXpress => rfl
  | muxed => simp [goals] at he

/-! ## What is left out -/

/-- A fragment that is not to be removed was found missing. -/
theorem removeFragments_seen (s : Situation) (f : Fragment) :
    .removeFragment f ∈ removeFragments s ∨ (Effect.removeFragment f).Seen s := by
  cases f with
  | outputClass =>
    cases hp : s.outputClass.isPresent with
    | true => exact .inl (by simp [removeFragments, hp])
    | false => exact .inr hp
  | serverLayout =>
    cases hp : s.serverLayout.isPresent with
    | true => exact .inl (by simp [removeFragments, hp])
    | false => exact .inr hp

theorem loadDriver_seen (s : Situation) :
    .loadModule "nvidia" ∈ loadDriver s ∨ (Effect.loadModule "nvidia").Seen s := by
  cases hl : s.drivers.nvidiaLoaded with
  | true => exact .inr hl
  | false => exact .inl (by simp [loadDriver, hl])

/-- What turning PRIME on leaves out of its aims was found in place. -/
theorem primeOn_seen (s : Situation) (discrete : Device) (before : List Effect) :
    ∀ e ∈ before ++ primeOnGoals s discrete,
      e ∈ (Decision.primeOn s discrete before).effects ∨ e.Seen s := by
  intro e he
  have hload := loadDriver_seen s
  simp only [primeOnGoals, List.mem_append, List.mem_cons, List.not_mem_nil, or_false] at he
  simp only [Decision.primeOn, List.mem_append, List.mem_cons]
  rcases he with he | rfl | rfl | rfl | rfl
  · exact .inl (.inl (.inl (.inl he)))
  · cases hw : s.outputClass != .current || s.changed with
    | true => exact .inl (.inl (.inl (.inr (by simp))))
    | false =>
      rw [Bool.or_eq_false_iff] at hw
      exact .inr (bne_eq_false_iff_eq.mp hw.1)
  · cases hp : s.serverLayout.isPresent with
    | true => exact .inl (.inl (.inr (by simp)))
    | false => exact .inr hp
  · exact .inl (.inr (.inl rfl))
  · exact hload.imp_left fun h => .inr (.inr h)

theorem primeOnDemand_seen (s : Situation) (discrete : Device) :
    ∀ e ∈ [.writeServerLayout, .removeFragment .outputClass, runtimePm s discrete true,
        .loadModule "nvidia"],
      e ∈ (Decision.primeOnDemand s discrete).effects ∨ e.Seen s := by
  intro e he
  have hload := loadDriver_seen s
  simp only [List.mem_cons, List.not_mem_nil, or_false] at he
  simp only [Decision.primeOnDemand, List.mem_append, List.mem_cons]
  rcases he with rfl | rfl | rfl | rfl
  · cases hw : s.serverLayout != .current || s.changed with
    | true => exact .inl (.inl (.inl (by simp)))
    | false =>
      rw [Bool.or_eq_false_iff] at hw
      exact .inr (bne_eq_false_iff_eq.mp hw.1)
  · cases hp : s.outputClass.isPresent with
    | true => exact .inl (.inl (.inr (by simp)))
    | false => exact .inr hp
  · exact .inl (.inr (.inl rfl))
  · exact hload.imp_left fun h => .inr (.inr h)

theorem primeOff_seen (s : Situation) (discrete : Device) :
    ∀ e ∈ [.removeFragment .outputClass, .removeFragment .serverLayout, .unloadNvidiaStack,
        runtimePm s discrete true],
      e ∈ (Decision.primeOff s discrete).effects ∨ e.Seen s := by
  intro e he
  simp only [List.mem_cons, List.not_mem_nil, or_false] at he
  simp only [Decision.primeOff, List.mem_append]
  rcases he with rfl | rfl | rfl | rfl
  · exact (removeFragments_seen s _).imp_left fun h => .inl (.inl h)
  · exact (removeFragments_seen s _).imp_left fun h => .inl (.inl h)
  · cases hl : s.drivers.nvidiaLoaded with
    | true => exact .inl (.inl (.inr (by simp)))
    | false => exact .inr hl
  · exact .inl (.inr (by simp))

/-- However PRIME goes, what it aims at is among its effects, or was seen to be in place. -/
theorem prime_seen (s : Situation) (discrete : Device) :
    ∀ e ∈ primeGoals s discrete, e ∈ (Decision.prime s discrete).effects ∨ e.Seen s := by
  intro e he
  unfold primeGoals at he
  unfold Decision.prime
  cases hp : s.policy with
  | off =>
    rw [hp] at he
    exact primeOff_seen s discrete e he
  | on =>
    rw [hp] at he
    exact primeOn_seen s discrete [] e he
  | onDemand =>
    rw [hp] at he
    simp only at he ⊢
    split
    next hd =>
      rw [if_pos hd] at he
      exact primeOnDemand_seen s discrete e he
    next hd =>
      rw [if_neg hd] at he
      exact primeOn_seen s discrete [.persistPolicy .on] e he

/-- What a decision aims at is among its effects, or was seen to be in place. -/
theorem seen_of_mem_goals (h : (Decision.choose s).mode = (c.decision s).mode ∧
    (Decision.choose s).effects = (c.decision s).effects) :
    ∀ e ∈ c.goals s, e ∈ (Decision.decide s).effects ∨ e.Seen s := by
  intro e he
  rw [(Decision.decide_effects s).2, h.1, h.2, List.mem_append]
  have hmarker : c ≠ .nothing → .setOffloadingMarker s.requiresOffloading ∈
      if (c.decision s).mode = .noAction then []
      else [Effect.setOffloadingMarker s.requiresOffloading] := by
    intro hc
    rw [if_neg (mode_ne_noAction s hc)]
    exact List.mem_singleton_self _
  cases c with
  | nothing => cases he
  | prime discrete =>
    rcases List.mem_append.mp he with he | he
    · exact (prime_seen s discrete e he).imp_left .inl
    · rw [List.mem_singleton.mp he]
      exact .inl (.inr (hmarker (by simp)))
  | powerXpress =>
    rcases List.mem_cons.mp he with rfl | he
    · exact .inl (.inl List.mem_cons_self)
    · rw [List.mem_singleton.mp he]
      exact .inl (.inr (hmarker (by simp)))
  | muxed =>
    simp only [goals, List.mem_cons, List.not_mem_nil, or_false] at he
    rcases he with rfl | rfl | rfl
    · exact (removeFragments_seen s _).imp_left .inl
    · exact (removeFragments_seen s _).imp_left .inl
    · exact .inl (.inr (hmarker (by simp)))

/-! ## What is driven -/

theorem drives_removeFragments (s : Situation) : ∀ e ∈ removeFragments s, e.drives = false := by
  intro e he
  rcases List.mem_append.mp he with he | he <;> split at he
  · rw [List.mem_singleton.mp he]
    rfl
  · cases he
  · rw [List.mem_singleton.mp he]
    rfl
  · cases he

/-- The driver is loaded only where it was not found loaded. -/
theorem unseen_of_mem_loadDriver {e : Effect} (he : e ∈ loadDriver s) : ¬ e.Seen s := by
  unfold loadDriver at he
  split at he
  next => cases he
  next hl =>
    rw [List.mem_singleton.mp he]
    exact hl

/-- An effect on the driver that turns PRIME on was not found in place. -/
theorem unseen_of_mem_primeOn {discrete : Device} {before : List Effect}
    (hb : ∀ e ∈ before, e.drives = false) {e : Effect}
    (he : e ∈ (Decision.primeOn s discrete before).effects) (hd : e.drives = true) :
    ¬ e.Seen s := by
  simp only [Decision.primeOn, List.mem_append, List.mem_cons] at he
  rcases he with ((he | he) | he) | rfl | he
  · rw [hb e he] at hd
    cases hd
  · split at he
    · rw [List.mem_singleton.mp he] at hd
      cases hd
    · cases he
  · split at he
    · rw [List.mem_singleton.mp he] at hd
      cases hd
    · cases he
  · cases hd
  · exact unseen_of_mem_loadDriver he

theorem unseen_of_mem_primeOnDemand {discrete : Device} {e : Effect}
    (he : e ∈ (Decision.primeOnDemand s discrete).effects) (hd : e.drives = true) :
    ¬ e.Seen s := by
  simp only [Decision.primeOnDemand, List.mem_append, List.mem_cons] at he
  rcases he with (he | he) | rfl | he
  · split at he
    · rw [List.mem_singleton.mp he] at hd
      cases hd
    · cases he
  · split at he
    · rw [List.mem_singleton.mp he] at hd
      cases hd
    · cases he
  · cases hd
  · exact unseen_of_mem_loadDriver he

theorem unseen_of_mem_primeOff {discrete : Device} {e : Effect}
    (he : e ∈ (Decision.primeOff s discrete).effects) (hd : e.drives = true) : ¬ e.Seen s := by
  simp only [Decision.primeOff, List.mem_append] at he
  rcases he with (he | he) | he
  · rw [drives_removeFragments s e he] at hd
    cases hd
  · split at he
    next hl =>
      rw [List.mem_singleton.mp he]
      simp [Effect.Seen, hl]
    next => cases he
  · rw [List.mem_singleton.mp he] at hd
    cases hd

/-- However PRIME goes, the driver is loaded only where it is not, and unloaded only where it is. -/
theorem unseen_of_mem_prime {discrete : Device} {e : Effect}
    (he : e ∈ (Decision.prime s discrete).effects) (hd : e.drives = true) : ¬ e.Seen s := by
  unfold Decision.prime at he
  cases hp : s.policy with
  | off =>
    rw [hp] at he
    exact unseen_of_mem_primeOff he hd
  | on =>
    rw [hp] at he
    exact unseen_of_mem_primeOn (fun e he => by cases he) he hd
  | onDemand =>
    rw [hp] at he
    simp only at he
    split at he
    · exact unseen_of_mem_primeOnDemand he hd
    · refine unseen_of_mem_primeOn (fun e he => ?_) he hd
      rw [List.mem_singleton.mp he]
      rfl

/-- So it is with every decision. -/
theorem unseen_of_mem_effects (h : (Decision.choose s).mode = (c.decision s).mode ∧
    (Decision.choose s).effects = (c.decision s).effects) :
    ∀ e ∈ (Decision.decide s).effects, e.drives = true → ¬ e.Seen s := by
  intro e he hd
  rw [(Decision.decide_effects s).2, h.2] at he
  have he : e ∈ (c.decision s).effects := by
    refine (List.mem_append.mp he).resolve_right fun he => ?_
    split at he
    · cases he
    · rw [List.mem_singleton.mp he] at hd
      cases hd
  cases c with
  | nothing => cases he
  | prime discrete => exact unseen_of_mem_prime he hd
  | powerXpress =>
    rw [List.mem_singleton.mp he] at hd
    cases hd
  | muxed =>
    rw [drives_removeFragments s e he] at hd
    cases hd

/-! ## Deciding again -/

/-- The policy that a run goes by in the end: the card has to drive every output where the driver
is too old for anything else. -/
def policyAfter (s : Situation) : Course → Policy
  | prime _ => if s.policy = .onDemand ∧ s.onDemandCapable = false then .on else s.policy
  | _ => s.policy

/-- The policy that a run goes by in the end is written down, or is the one that it found and no
effect is about. -/
theorem policyAfter_cases (s : Situation) (c : Course) :
    .persistPolicy (c.policyAfter s) ∈ c.goals s ∨
      (c.policyAfter s = s.policy ∧ ∀ e ∈ c.goals s, e.file? ≠ some .policy) := by
  cases c with
  | nothing => exact .inr ⟨rfl, fun e he => by cases he⟩
  | prime discrete =>
    unfold policyAfter goals primeGoals
    cases hp : s.policy with
    | off => exact .inr (by simp [Effect.file?, runtimePm])
    | on => exact .inr (by simp [primeOnGoals, Effect.file?, runtimePm])
    | onDemand =>
      cases hd : s.onDemandCapable with
      | true => exact .inr (by simp [Effect.file?, runtimePm])
      | false => exact .inl (by simp)
  | powerXpress => exact .inr (by simp [policyAfter, goals, Effect.file?])
  | muxed => exact .inr (by simp [policyAfter, goals, Effect.file?])

/-- What the next run finds, as far as decisions go by it. -/
structure Follows (c : Course) (s s' : Situation) : Prop where
  machine : s.SameMachine s'
  policy : s'.policy = c.policyAfter s
  loaded : c = .muxed → s'.drivers.nvidiaLoaded = s.drivers.nvidiaLoaded

theorem Follows.onDemandCapable {s' : Situation} (h : c.Follows s s') :
    s'.onDemandCapable = s.onDemandCapable := by
  unfold Situation.onDemandCapable
  rw [h.machine.driverMajor]

/-- The next run sets runtime power management in the same way. -/
theorem Follows.runtimePm {s' : Situation} (h : c.Follows s s') (discrete : Device)
    (enabled : Bool) : runtimePm s' discrete enabled = runtimePm s discrete enabled := by
  unfold Decision.runtimePm
  rw [h.machine.eligibility, h.machine.devices]

/-- The next run comes to the same mode. -/
theorem Follows.mode_eq {s' : Situation} (h : c.Follows s s') :
    (c.decision s').mode = (c.decision s).mode := by
  have hpolicy := h.policy
  cases c with
  | nothing => rfl
  | prime discrete =>
    show (Decision.prime s' discrete).mode = (Decision.prime s discrete).mode
    unfold Decision.prime
    rw [hpolicy, h.onDemandCapable]
    unfold policyAfter
    cases hp : s.policy with
    | off => rfl
    | on => rfl
    | onDemand => cases hd : s.onDemandCapable <;> rfl
  | powerXpress =>
    show Mode.powerXpress (Decision.pxSetting s'.policy) = .powerXpress (Decision.pxSetting s.policy)
    rw [hpolicy]
    rfl
  | muxed =>
    show (Decision.muxed s').mode = (Decision.muxed s).mode
    unfold Decision.muxed
    rw [h.loaded rfl, h.machine.amdgpu, h.machine.versioned]

/-- The next run aims at nothing else. -/
theorem Follows.goals_subset {s' : Situation} (h : c.Follows s s') : c.goals s' ⊆ c.goals s := by
  have hpolicy := h.policy
  cases c with
  | nothing => exact fun _ he => he
  | prime discrete =>
    intro e he
    simp only [goals, primeGoals, primeOnGoals, hpolicy, h.onDemandCapable, h.runtimePm,
      h.machine.requiresOffloading] at he ⊢
    unfold policyAfter at he
    cases hp : s.policy with
    | off => simpa [hp] using he
    | on => simpa [hp] using he
    | onDemand =>
      cases hd : s.onDemandCapable with
      | true => simpa [hp, hd] using he
      | false =>
        simp only [hp, hd, and_self, if_true] at he
        exact List.mem_cons_of_mem _ he
  | powerXpress =>
    intro e he
    simp only [goals, hpolicy, h.machine.requiresOffloading] at he ⊢
    exact he
  | muxed =>
    intro e he
    simp only [goals, h.machine.requiresOffloading] at he ⊢
    exact he

end Course

end HybridGraphics
