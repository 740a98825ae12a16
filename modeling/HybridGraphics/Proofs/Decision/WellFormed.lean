import HybridGraphics.Proofs.Decision.Grounds
import HybridGraphics.Proofs.Decision.OnlyPrime

/-!
# Well-formed decisions

`WellFormed` lists what may be counted on about any decision, also one about a situation that no
machine is ever in: when there is nothing to do, which effects there are at most once, what has to
hold for each of them, and which of them tell the mode. `decision_wellFormed` says that every
decision is so.

There are two reasons for it. Effects that are due are about what is not in place (`isDue_of_mem`),
and they are some of what a course aims at, which are different things (`decide_aims`).
PowerXpress is the exception: its script does everything.
-/

namespace HybridGraphics

open Pci (Device Vendor)

/-- True for the effects on runtime power management. -/
def Effect.isRuntimePm : Effect → Bool
  | setRuntimePm _ _ _ _ => true
  | _ => false

theorem Effect.file?_of_isRuntimePm :
    ∀ {e : Effect}, e.isRuntimePm = true → e.file? = some .runtimePmSnippet
  | setRuntimePm _ _ _ _, _ => rfl

/-- The driver is a matter of PRIME. -/
theorem Effect.isCommon_of_drives : ∀ {e : Effect}, e.drives = true → e.isCommon = false
  | loadModule _, _ => rfl
  | unloadNvidiaStack, _ => rfl

namespace Decision

variable {s : Situation} {e : Effect}

/-! ## Decisions to do nothing -/

/-- PRIME always comes to a mode of its own. -/
theorem prime_mode_ne (s : Situation) (discrete : Device) : (prime s discrete).mode ≠ .noAction :=
  Course.mode_ne_noAction s (c := .prime discrete) (by simp)

theorem prime_mode_ne_powerXpress (s : Situation) (discrete : Device) (setting : PxMode) :
    (prime s discrete).mode ≠ .powerXpress setting := by
  intro h
  have hway := (Course.primeWay s discrete).isPrime_or_off
  rw [h] at hway
  rcases hway with hprime | ⟨hoff, -⟩
  · cases hprime
  · cases hoff

theorem muxed_mode_ne (s : Situation) : (muxed s).mode ≠ .noAction :=
  Course.mode_ne_noAction s (c := .muxed) (by simp)

theorem singleIntel_mode_ne (s : Situation) : (singleIntel s).mode ≠ .noAction := by
  unfold singleIntel
  split
  next discrete _ => exact prime_mode_ne s discrete
  next => split <;> simp [powerXpress, integratedOnly]

theorem multipleCards_mode_ne (s : Situation) : (multipleCards s).mode ≠ .noAction := by
  unfold multipleCards hybrid
  split
  next boot discrete _ _ =>
    split
    · split
      · exact prime_mode_ne s discrete
      · split
        · simp [powerXpress]
        · exact muxed_mode_ne s
    · exact muxed_mode_ne s
  next => exact muxed_mode_ne s

/-- A card alone is left to itself if its vendor is none of the three. -/
theorem singleCard_noAction_iff (device : Device) : (singleCard s device).mode = .noAction ↔
    device.vendor ∉ [Vendor.intel, Vendor.amd, Vendor.nvidia] := by
  have hamd : (singleAmd s).mode ≠ .noAction := by
    unfold singleAmd
    split <;> simp [powerXpress, discreteOnly]
  have hnvidia : (discreteOnly s).mode ≠ .noAction := by simp [discreteOnly]
  simp only [List.mem_cons, List.not_mem_nil, or_false, not_or]
  unfold singleCard
  by_cases h1 : device.vendor = Vendor.intel
  · rw [if_pos h1]
    exact iff_of_false (singleIntel_mode_ne s) fun h => h.1 h1
  · rw [if_neg h1]
    by_cases h2 : device.vendor = Vendor.amd
    · rw [if_pos h2]
      exact iff_of_false hamd fun h => h.2.1 h2
    · rw [if_neg h2]
      by_cases h3 : device.vendor = Vendor.nvidia
      · rw [if_pos h3]
        exact iff_of_false hnvidia fun h => h.2.2 h3
      · rw [if_neg h3]
        exact iff_of_true rfl ⟨h1, h2, h3⟩

/-- There is nothing to do without a card, or with one alone of another vendor. -/
theorem choose_noAction_iff : (choose s).mode = .noAction ↔ s.devices = [] ∨
    ∃ device, s.devices = [device] ∧
      device.vendor ∉ [Vendor.intel, Vendor.amd, Vendor.nvidia] := by
  unfold choose
  match hs : s.devices with
  | [] => exact iff_of_true rfl (.inl rfl)
  | [device] =>
    show (singleCard s device).mode = .noAction ↔ _
    rw [singleCard_noAction_iff]
    constructor
    · intro h
      exact .inr ⟨device, rfl, h⟩
    · rintro (h | ⟨other, h, hvendor⟩)
      · cases h
      · cases h
        exact hvendor
  | first :: second :: rest =>
    refine iff_of_false (multipleCards_mode_ne s) ?_
    rintro (h | ⟨device, h, -⟩) <;> cases h

/-- A decision to do nothing has nothing done. -/
theorem chosen_noAction (h : (choose s).mode = .noAction) : (choose s).effects = [] := by
  have hchosen := chosen s
  generalize (choose s).mode = mode at hchosen h
  generalize (choose s).effects = effects at hchosen ⊢
  cases hchosen with
  | nothing few => rfl
  | prime discrete nvidia route => exact absurd h (prime_mode_ne s discrete)
  | muxed several => exact absurd h (muxed_mode_ne s)
  | _ => cases h

/-! ## What decisions aim at -/

/-- A decision runs the PowerXpress script and nothing else, or its effects are some of what another
course aims at. -/
theorem decide_aims (s : Situation) :
    (∃ setting, (decide s).mode = .powerXpress setting ∧ (decide s).effects =
        [.runPxScript setting, .setOffloadingMarker s.requiresOffloading]) ∨
      (∀ setting, (decide s).mode ≠ .powerXpress setting) ∧
        ∃ c : Course, c ≠ .powerXpress ∧ (decide s).effects.Sublist (c.goals s) := by
  obtain ⟨hmode, heffects⟩ := decide_effects s
  rw [hmode, heffects]
  -- whatever removes fragments only aims at what a machine with several cards does at least
  have hremoves : ∀ effects : List Effect, effects.Sublist
      [.removeFragment .outputClass, .removeFragment .serverLayout] →
        (effects ++ [Effect.setOffloadingMarker s.requiresOffloading]).Sublist
          (Course.muxed.goals s) :=
    fun effects h => h.append (List.Sublist.refl _)
  have hchosen := chosen s
  generalize (choose s).mode = mode at hchosen ⊢
  generalize (choose s).effects = effects at hchosen ⊢
  cases hchosen with
  | nothing few => exact .inr ⟨by simp, .nothing, by simp, List.Sublist.refl _⟩
  | prime discrete nvidia route =>
    rw [if_neg (prime_mode_ne s discrete)]
    refine .inr ⟨prime_mode_ne_powerXpress s discrete, .prime discrete, by simp, ?_⟩
    exact (Course.prime_sublist s discrete).append (List.Sublist.refl _)
  | powerXpress setting => exact .inl ⟨setting, rfl, rfl⟩
  | integratedAlone single =>
    exact .inr ⟨by simp, .muxed, by simp, hremoves _ (Course.removeFragments_sublist s)⟩
  | discreteAlone single =>
    refine .inr ⟨by simp, .muxed, by simp, hremoves _ ?_⟩
    exact (Course.optional_sublist _ (.removeFragment .serverLayout)).trans
      (List.sublist_cons_self _ _)
  | muxed several =>
    rw [if_neg (muxed_mode_ne s)]
    refine .inr ⟨?_, .muxed, by simp, hremoves _ (Course.removeFragments_sublist s)⟩
    unfold muxed
    simp only
    split <;> simp

/-! ## Effects there are at most once -/

/-- Of effects that are apart, at most one has a property that two of them cannot both have. -/
theorem countP_le_one_of_apart {p : Effect → Bool}
    (hp : ∀ e e' : Effect, p e = true → p e' = true → ¬ e.Apart e') :
    ∀ {effects : List Effect}, effects.Pairwise Effect.Apart → effects.countP p ≤ 1
  | [], _ => Nat.zero_le 1
  | e :: rest, h => by
    obtain ⟨hhead, hrest⟩ := List.pairwise_cons.mp h
    have ih := countP_le_one_of_apart hp hrest
    by_cases he : p e = true
    · have hnone : rest.countP p = 0 :=
        List.countP_eq_zero.mpr fun e' hm he' => hp e e' he he' (hhead e' hm)
      have hcount : (e :: rest).countP p = rest.countP p + 1 := List.countP_cons_of_pos he
      omega
    · rw [List.countP_cons_of_neg he]
      exact ih

/-- All effects of a decision are apart. -/
theorem effects_apart (s : Situation) : (decide s).effects.Pairwise Effect.Apart := by
  rcases decide_aims s with ⟨setting, -, heffects⟩ | ⟨-, c, -, hsub⟩
  · rw [heffects]
    simp [Effect.Apart, Effect.file?, Effect.drives]
  · exact (Course.goals_pairwise s c).sublist hsub

/-- A decision does not touch a file twice. -/
theorem countP_file_le_one (s : Situation) (file : WrittenFile) :
    (decide s).effects.countP (fun e => e.file? = some file) ≤ 1 :=
  countP_le_one_of_apart
    (fun _ _ he he' hapart => hapart.1 file (of_decide_eq_true he) (of_decide_eq_true he'))
    (effects_apart s)

theorem countP_writes_aims {discrete : Device} {mode : Mode} {aims : List Effect}
    (h : Course.PrimeWay s discrete mode aims) : aims.countP (·.writes?.isSome) ≤ 1 := by
  cases h <;> simp [Course.primeOnGoals, runtimePm, Effect.writes?]

/-- No course aims at writing both fragments. -/
theorem countP_writes_goals (s : Situation) (c : Course) :
    (c.goals s).countP (·.writes?.isSome) ≤ 1 := by
  cases c with
  | nothing => exact Nat.zero_le 1
  | prime discrete =>
    rw [Course.goals, List.countP_append]
    exact countP_writes_aims (Course.primeWay s discrete)
  | powerXpress => simp [Course.goals, Effect.writes?]
  | muxed => simp [Course.goals, Effect.writes?]

/-- No decision writes both fragments. -/
theorem countP_writes_le_one (s : Situation) :
    (decide s).effects.countP (·.writes?.isSome) ≤ 1 := by
  rcases decide_aims s with ⟨setting, -, heffects⟩ | ⟨-, c, -, hsub⟩
  · rw [heffects]
    simp [Effect.writes?]
  · exact Nat.le_trans hsub.countP_le (countP_writes_goals s c)

/-- The marker is not among the effects that it is added to. -/
theorem file?_ne_marker (he : e ∈ (choose s).effects) : e.file? ≠ some .marker := by
  intro hfile
  by_cases h : (choose s).mode = .noAction
  · rw [chosen_noAction h] at he
    cases he
  · have hapart := effects_apart s
    rw [(decide_effects s).2, if_neg h] at hapart
    have hmarker := (List.pairwise_append.mp hapart).2.2 e he _ (List.mem_singleton_self _)
    exact hmarker.1 .marker hfile rfl

/-- The marker is set last, and only then. -/
theorem effects_eq_marker_last (h : (decide s).mode ≠ .noAction) :
    ∃ before, (decide s).effects = before ++ [.setOffloadingMarker s.requiresOffloading] ∧
      ∀ required, .setOffloadingMarker required ∉ before := by
  obtain ⟨hmode, heffects⟩ := decide_effects s
  rw [hmode] at h
  rw [if_neg h] at heffects
  exact ⟨(choose s).effects, heffects, fun required hm => file?_ne_marker hm rfl⟩

/-! ## Effects by what has to hold for them -/

/-- The driver is loaded only where it is not, and unloaded only where it is. -/
theorem unseen_of_mem_decide (he : e ∈ (decide s).effects) (hd : e.drives = true) :
    ¬ e.Seen s ∧ e.LoadsOnlyNvidia := by
  obtain ⟨discrete, -, -, -, -, hprime⟩ := prime_of_mem he (Effect.isCommon_of_drives hd)
  refine ⟨Course.unseen_of_mem_prime hprime hd, ?_⟩
  have hgoal := (Course.prime_sublist s discrete).subset hprime
  exact Course.loadsOnlyNvidia_of_mem_goals (c := .prime discrete) (List.mem_append_left _ hgoal)

/-- Runtime power management is switched off only to turn PRIME on. -/
theorem primeOn_of_switchesOff {device : Device} {eligibility : Eligibility} {onBus : Bool}
    (he : .setRuntimePm device false eligibility onBus ∈ (decide s).effects) :
    (decide s).mode = .primeOn := by
  obtain ⟨discrete, -, -, hmode, -, hprime⟩ := prime_of_mem he rfl
  have hgoal := (Course.prime_sublist s discrete).subset hprime
  rw [(decide_effects s).1, hmode]
  exact (Course.primeWay s discrete).primeOn_of_switchesOff hgoal

/-- The PowerXpress script is run with a setting exactly where the mode says so. -/
theorem script_iff (s : Situation) (setting : PxMode) :
    .runPxScript setting ∈ (decide s).effects ↔ (decide s).mode = .powerXpress setting := by
  rcases decide_aims s with ⟨chosen, hmode, heffects⟩ | ⟨hmode, c, hc, hsub⟩
  · rw [hmode, heffects]
    simp [eq_comm]
  · refine iff_of_false (fun he => ?_) (hmode setting)
    exact hc (Course.eq_powerXpress_of_script (hsub.subset he))

/-! ## Well-formed decisions -/

/-- What may be counted on about a decision, whatever the situation. -/
structure WellFormed (s : Situation) (d : Decision) : Prop where
  noAction_iff : d.mode = .noAction ↔ s.devices = [] ∨
    ∃ device, s.devices = [device] ∧
      device.vendor ∉ [Vendor.intel, Vendor.amd, Vendor.nvidia]
  idle : d.mode = .noAction → d.effects = []
  /-- Every other decision sets the marker, once and last. -/
  marker_last : d.mode ≠ .noAction → ∃ before,
    d.effects = before ++ [.setOffloadingMarker s.requiresOffloading] ∧
      ∀ required, .setOffloadingMarker required ∉ before
  fragment_once : ∀ f : Fragment, d.effects.countP (fun e => e.file? = some (.fragment f)) ≤ 1
  one_written : d.effects.countP (·.writes?.isSome) ≤ 1
  removes_present : ∀ f, .removeFragment f ∈ d.effects → s.stateOf f ≠ .missing
  writes_due : ∀ e ∈ d.effects, ∀ f, e.writes? = some f →
    s.stateOf f ≠ .current ∨ s.changed = true
  loads : ∀ name, .loadModule name ∈ d.effects → name = "nvidia" ∧ s.drivers.nvidiaLoaded = false
  unloads : .unloadNvidiaStack ∈ d.effects → s.drivers.nvidiaLoaded = true
  driven_once : d.effects.countP (·.drives) ≤ 1
  policy : ∀ policy, .persistPolicy policy ∈ d.effects →
    policy = .on ∧ s.policy = .onDemand ∧ ∃ major, s.driverMajor = some major ∧ major < 450
  runtimePm_once : d.effects.countP (·.isRuntimePm) ≤ 1
  switchesOff_iff : (∃ device eligibility onBus,
    .setRuntimePm device false eligibility onBus ∈ d.effects) ↔ d.mode = .primeOn
  script_iff : ∀ setting, .runPxScript setting ∈ d.effects ↔ d.mode = .powerXpress setting
  /-- The script is run once, and does everything but to set the marker. -/
  script_alone : ∀ setting, d.mode = .powerXpress setting →
    d.effects = [.runPxScript setting, .setOffloadingMarker s.requiresOffloading]

/-- Every decision is well formed. -/
theorem decision_wellFormed (s : Situation) : WellFormed s (decide s) where
  noAction_iff := by
    rw [(decide_effects s).1]
    exact choose_noAction_iff
  idle h := by
    obtain ⟨hmode, heffects⟩ := decide_effects s
    rw [hmode] at h
    rw [heffects, if_pos h, List.append_nil]
    exact chosen_noAction h
  marker_last := effects_eq_marker_last
  fragment_once f := countP_file_le_one s (.fragment f)
  one_written := countP_writes_le_one s
  removes_present f he hmissing := by
    have hdue : (s.stateOf f).isPresent = true := isDue_of_mem he
    rw [hmissing] at hdue
    cases hdue
  writes_due e he f hf := by
    have hdue := isDue_of_mem he
    rw [Effect.isDue_of_writes? hf, Bool.or_eq_true, bne_iff_ne] at hdue
    exact hdue
  loads name he := by
    obtain ⟨hunseen, honly⟩ := unseen_of_mem_decide he rfl
    exact ⟨honly name rfl, Bool.eq_false_iff.mpr hunseen⟩
  unloads he := by
    obtain ⟨hunseen, -⟩ := unseen_of_mem_decide he rfl
    exact (Bool.not_eq_false _).mp hunseen
  driven_once := countP_le_one_of_apart (fun _ _ he he' hapart => hapart.2 ⟨he, he'⟩) (effects_apart s)
  policy policy he := by
    obtain ⟨hon, hpolicy, hold, -⟩ := persistPolicy_of_mem he
    exact ⟨hon, hpolicy, onDemandCapable_eq_false_iff.mp hold⟩
  runtimePm_once := by
    refine countP_le_one_of_apart (fun e e' he he' hapart => ?_) (effects_apart s)
    exact hapart.1 .runtimePmSnippet (Effect.file?_of_isRuntimePm he)
      (Effect.file?_of_isRuntimePm he')
  switchesOff_iff := by
    constructor
    · rintro ⟨device, eligibility, onBus, he⟩
      exact primeOn_of_switchesOff he
    · intro h
      obtain ⟨discrete, before, after, heffects, -⟩ := switchesOff_of_primeOn h
      refine ⟨discrete, s.eligibility, s.devices.any (·.sameIdentity discrete), ?_⟩
      rw [heffects]
      exact List.mem_append_right _ List.mem_cons_self
  script_iff := script_iff s
  script_alone setting h := by
    rcases decide_aims s with ⟨chosen, hmode, heffects⟩ | ⟨hmode, -⟩
    · cases hmode.symm.trans h
      exact heffects
    · exact absurd h (hmode setting)

end Decision

end HybridGraphics
