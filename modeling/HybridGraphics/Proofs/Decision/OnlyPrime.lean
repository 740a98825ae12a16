import HybridGraphics.Proofs.Decision.Course

/-!
# What only PRIME does

Every decision may remove fragments, run the PowerXpress script or set the marker. All else is done
for a hybrid machine only: `prime_of_mem` says that a decision with any other effect is one for
PRIME, so what has to hold for it is found in `prime` and how that is come by.

One of these effects overrides the operator: the policy is written where the driver is too old for
what it asks for (`persistPolicy_of_mem`). Another one comes with every decision to turn PRIME on:
runtime power management of the card is switched off (`switchesOff_of_primeOn`).
-/

namespace HybridGraphics

open Pci (Device Vendor)

/-- True for the effects that other decisions than PRIME may have. -/
def Effect.isCommon : Effect → Bool
  | removeFragment _ | setOffloadingMarker _ | runPxScript _ => true
  | _ => false

namespace Decision

variable {s : Situation} {discrete : Device} {e : Effect}

/-- Every decision may remove fragments. -/
theorem isCommon_of_mem_removeFragments (he : e ∈ removeFragments s) : e.isCommon = true := by
  have hgoal := (Course.removeFragments_sublist s).subset he
  simp only [List.mem_cons, List.not_mem_nil, or_false] at hgoal
  rcases hgoal with rfl | rfl <;> rfl

/-- A decision with an effect that is not common is one for PRIME. -/
theorem prime_of_mem (he : e ∈ (decide s).effects) (hcommon : e.isCommon = false) :
    ∃ discrete, discrete.vendor = Vendor.nvidia ∧ PrimeRoute s discrete ∧
      (choose s).mode = (prime s discrete).mode ∧
      (choose s).effects = (prime s discrete).effects ∧ e ∈ (prime s discrete).effects := by
  have hchoose : e ∈ (choose s).effects := by
    rw [(decide_effects s).2] at he
    refine (List.mem_append.mp he).resolve_right fun he => ?_
    split at he <;> simp at he
    subst he
    cases hcommon
  have hchosen := chosen s
  generalize (choose s).mode = mode at hchosen ⊢
  generalize (choose s).effects = effects at hchosen hchoose ⊢
  cases hchosen with
  | nothing few => cases hchoose
  | prime discrete nvidia route => exact ⟨discrete, nvidia, route, rfl, rfl, hchoose⟩
  | powerXpress setting =>
    rw [List.mem_singleton.mp hchoose] at hcommon
    cases hcommon
  | integratedAlone single =>
    cases hcommon.symm.trans (isCommon_of_mem_removeFragments hchoose)
  | discreteAlone single =>
    simp only [discreteOnly] at hchoose
    split at hchoose <;> simp at hchoose
    subst hchoose
    cases hcommon
  | muxed several => cases hcommon.symm.trans (isCommon_of_mem_removeFragments hchoose)

/-! ## The policy -/

/-- Only a driver whose version is known can be too old for PRIME on demand. -/
theorem onDemandCapable_eq_false_iff : s.onDemandCapable = false ↔
    ∃ major, s.driverMajor = some major ∧ major < onDemandMinDriver := by
  unfold Situation.onDemandCapable
  cases s.driverMajor <;> simp

/-- The policy is written only to turn PRIME on where the driver is known to be too old to do it on
demand. -/
theorem persistPolicy_of_mem {policy : Policy} (he : .persistPolicy policy ∈ (decide s).effects) :
    policy = .on ∧ s.policy = .onDemand ∧ s.onDemandCapable = false ∧
      (decide s).mode = .primeOn := by
  obtain ⟨discrete, -, -, hmode, -, he⟩ := prime_of_mem he rfl
  have hgoal := (Course.prime_sublist s discrete).subset he
  rw [(decide_effects s).1, hmode]
  exact (Course.primeWay s discrete).tooOld_of_persist hgoal

/-! ## Runtime power management -/

/-- One of the effects switches runtime power management of a card off, and no other is about the
driver's option. -/
def SwitchesOff (s : Situation) (effects : List Effect) : Prop :=
  ∃ discrete before after, effects = before ++ runtimePm s discrete false :: after ∧
    ∀ e ∈ before ++ after, e.file? ≠ some .runtimePmSnippet

theorem SwitchesOff.append {effects : List Effect} (h : SwitchesOff s effects)
    (he : e.file? ≠ some .runtimePmSnippet) : SwitchesOff s (effects ++ [e]) := by
  obtain ⟨discrete, before, after, rfl, hothers⟩ := h
  refine ⟨discrete, before, after ++ [e], by rw [List.append_assoc, List.cons_append], ?_⟩
  intro other hm
  rw [← List.append_assoc, List.mem_append] at hm
  rcases hm with hm | hm
  · exact hothers other hm
  · rw [List.mem_singleton.mp hm]
    exact he

/-- Turning PRIME on switches runtime power management of the card off. -/
theorem primeOn_switchesOff (discrete : Device) {before : List Effect}
    (hb : ∀ e ∈ before, e.file? ≠ some .runtimePmSnippet) :
    SwitchesOff s (primeOn s discrete before).effects := by
  refine ⟨discrete, _, loadDriver s, rfl, fun e he => ?_⟩
  simp only [List.mem_append, or_assoc] at he
  rcases he with he | he | he | he
  · exact hb e he
  · split at he <;> simp at he
    rw [he]
    simp [Effect.file?]
  · split at he <;> simp at he
    rw [he]
    simp [Effect.file?]
  · rw [List.mem_singleton.mp ((Course.loadDriver_sublist s).subset he)]
    simp [Effect.file?]

/-- Turning PRIME on switches runtime power management off. -/
theorem switchesOff_of_primeOn (h : (decide s).mode = .primeOn) :
    SwitchesOff s (decide s).effects := by
  obtain ⟨hmode, heffects⟩ := decide_effects s
  rw [hmode] at h
  rw [heffects, h, if_neg (by simp)]
  refine SwitchesOff.append ?_ (by simp [Effect.file?])
  have hchosen := chosen s
  generalize (choose s).mode = mode at hchosen h
  generalize (choose s).effects = effects at hchosen ⊢
  cases hchosen with
  | prime discrete nvidia route =>
    unfold prime at h ⊢
    cases hp : s.policy with
    | off =>
      rw [hp] at h
      cases h
    | on => exact primeOn_switchesOff discrete (by simp)
    | onDemand =>
      cases hc : s.onDemandCapable with
      | true =>
        rw [hp, hc] at h
        cases h
      | false => exact primeOn_switchesOff discrete (by simp [Effect.file?])
  | muxed several =>
    unfold muxed at h
    simp only at h
    split at h <;> cases h
  | _ => cases h

end Decision

end HybridGraphics
