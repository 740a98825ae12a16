import HybridGraphics.Proofs.Decision.WellFormed

/-!
# Stale fragments

A stale fragment is one that no run would write as it stands. Drivers of one vendor side by side make
the system count as changed, but that is only asked for fragments that are to be written. Whether a
stale one is settled, by being written again or removed, is up to the kind of the decision alone, and
`stale_fragment_left_iff` says which kinds leave one behind: PowerXpress, where the script is all that
is run, and, for the OutputClass fragment, a discrete card alone, where nobody looks at it.

Every other decision aims at something for either fragment (`aims_settle`, `removeFragments_settles`),
and with the fragment stale that cannot be in place (`not_seen_of_stale`).
-/

namespace HybridGraphics

open Pci (Device Vendor)

namespace Decision

variable {s : Situation} {f : Fragment}

/-- One of the effects writes the fragment or removes it. -/
def Settles (f : Fragment) (effects : List Effect) : Prop :=
  ∃ e ∈ effects, e.file? = some (.fragment f)

/-- An effect on a stale fragment is never in place. -/
theorem not_seen_of_stale (hstale : s.stateOf f = .stale) {e : Effect}
    (he : e.file? = some (.fragment f)) : ¬ e.Seen s := by
  intro hseen
  cases e with
  | writeOutputClass device =>
    cases he
    cases hstale.symm.trans hseen
  | writeServerLayout =>
    cases he
    cases hstale.symm.trans hseen
  | removeFragment g =>
    cases he
    have hpresent : (s.stateOf f).isPresent = false := by
      cases f with
      | outputClass => exact hseen
      | serverLayout => exact hseen
    rw [hstale] at hpresent
    cases hpresent
  | _ => cases he

/-- By whatever policy, PRIME aims at something for either fragment. -/
theorem aims_settle {discrete : Device} {mode : Mode} {aims : List Effect}
    (h : Course.PrimeWay s discrete mode aims) (f : Fragment) : Settles f aims := by
  unfold Settles
  cases h <;> cases f <;> simp [Course.primeOnGoals, Effect.file?]

/-- Whichever way PRIME goes, it writes a stale fragment or removes it. -/
theorem prime_settles (hstale : s.stateOf f = .stale) (discrete : Device) :
    Settles f (prime s discrete).effects := by
  obtain ⟨e, hgoal, hfile⟩ := aims_settle (Course.primeWay s discrete) f
  have hmem := (Course.prime_seen s discrete e hgoal).resolve_right (not_seen_of_stale hstale hfile)
  exact ⟨e, hmem, hfile⟩

theorem removeFragments_settles (hstale : s.stateOf f = .stale) :
    Settles f (removeFragments s) := by
  have hmem := (Course.removeFragments_seen s f).resolve_right (not_seen_of_stale hstale rfl)
  exact ⟨.removeFragment f, hmem, rfl⟩

/-- A discrete card alone has only the other fragment settled. -/
theorem discreteOnly_settles_iff (hstale : s.stateOf f = .stale) :
    Settles f (discreteOnly s).effects ↔ f = .serverLayout := by
  constructor
  · rintro ⟨e, he, hfile⟩
    have hgoal := (Course.optional_sublist _ (.removeFragment .serverLayout)).subset he
    rw [List.mem_singleton.mp hgoal] at hfile
    cases hfile
    rfl
  · rintro rfl
    have hpresent : s.serverLayout.isPresent = true := congrArg FragmentState.isPresent hstale
    refine ⟨.removeFragment .serverLayout, ?_, rfl⟩
    simp [discreteOnly, hpresent]

/-- Setting the marker settles no fragment. -/
theorem settles_decide_iff : Settles f (decide s).effects ↔ Settles f (choose s).effects := by
  constructor
  · rintro ⟨e, he, hfile⟩
    refine ⟨e, ?_, hfile⟩
    rw [(decide_effects s).2] at he
    refine (List.mem_append.mp he).resolve_right fun hmarker => ?_
    split at hmarker
    · cases hmarker
    · rw [List.mem_singleton.mp hmarker] at hfile
      cases hfile
  · rintro ⟨e, he, hfile⟩
    refine ⟨e, ?_, hfile⟩
    rw [(decide_effects s).2]
    exact List.mem_append_left _ he

/-- A stale fragment is left as it is if nothing is done, if the PowerXpress script is run, and, the
OutputClass fragment, if a discrete card is alone. No driver conflict changes that. -/
theorem stale_fragment_left_iff (hstale : s.stateOf f = .stale) :
    ¬ Settles f (decide s).effects ↔
      (decide s).mode = .noAction ∨ (∃ setting, (decide s).mode = .powerXpress setting) ∨
        (f = .outputClass ∧ s.devices.length = 1 ∧ (decide s).mode = .discreteOnly) := by
  rw [settles_decide_iff, (decide_effects s).1]
  have hchosen := chosen s
  generalize (choose s).mode = mode at hchosen ⊢
  generalize (choose s).effects = effects at hchosen ⊢
  cases hchosen with
  | nothing few => exact iff_of_true (fun ⟨e, he, _⟩ => by cases he) (.inl rfl)
  | prime discrete nvidia route =>
    refine iff_of_false (fun h => h (prime_settles hstale discrete)) ?_
    rintro (h | ⟨setting, h⟩ | ⟨-, -, h⟩)
    · exact prime_mode_ne s discrete h
    · exact prime_mode_ne_powerXpress s discrete setting h
    · rcases (Course.primeWay s discrete).isPrime_or_off with hmode | ⟨hmode, -⟩
      · rw [h] at hmode
        cases hmode
      · cases h.symm.trans hmode
  | powerXpress setting =>
    refine iff_of_true ?_ (.inr (.inl ⟨setting, rfl⟩))
    rintro ⟨e, he, hfile⟩
    rw [List.mem_singleton.mp he] at hfile
    cases hfile
  | integratedAlone single =>
    refine iff_of_false (fun h => h (removeFragments_settles hstale)) ?_
    rintro (h | ⟨setting, h⟩ | ⟨-, -, h⟩) <;> cases h
  | discreteAlone single =>
    rw [discreteOnly_settles_iff hstale]
    cases f with
    | outputClass => exact iff_of_true (fun h => by cases h) (.inr (.inr ⟨rfl, single, rfl⟩))
    | serverLayout =>
      refine iff_of_false (fun h => h rfl) ?_
      rintro (h | ⟨setting, h⟩ | ⟨h, -⟩) <;> cases h
  | muxed several =>
    refine iff_of_false (fun h => h (removeFragments_settles hstale)) ?_
    rintro (h | ⟨setting, h⟩ | ⟨-, single, -⟩)
    · exact muxed_mode_ne s h
    · unfold muxed at h
      simp only at h
      split at h <;> cases h
    · omega

/-- A laptop with both AMD drivers loaded, and what is left there of a configuration for PRIME. -/
def radeonBesideAmdgpu : Situation where
  devices :=
    [⟨Vendor.intel, 0x3e9b, ⟨0, 0, 2, 0⟩, true, .connected⟩,
      ⟨Vendor.amd, 0x67df, ⟨0, 1, 0, 0⟩, false, .disconnected⟩]
  requiresOffloading := true
  drivers := { amdgpuLoaded := true, amdgpuVersioned := true, radeonLoaded := true }
  outputClass := .stale
  serverLayout := .stale
  pxScriptAvailable := true

/-- A machine with an NVIDIA card alone and both of its drivers loaded. -/
def nouveauBesideNvidia : Situation where
  devices := [⟨Vendor.nvidia, 0x1f91, ⟨0, 1, 0, 0⟩, true, .connected⟩]
  drivers := { nvidiaLoaded := true, nouveauLoaded := true }
  outputClass := .stale
  serverLayout := .stale

/-- On the one, both stale fragments stay beside the conflicting drivers, and on the other that for the
OutputClass does. -/
theorem stale_fragment_left_conflict :
    radeonBesideAmdgpu.driverConflict = true ∧
    (decide radeonBesideAmdgpu).mode = .powerXpress .powerSaving ∧
    (∀ f, ¬ Settles f (decide radeonBesideAmdgpu).effects) ∧
    nouveauBesideNvidia.driverConflict = true ∧
    (decide nouveauBesideNvidia).mode = .discreteOnly ∧
    ¬ Settles .outputClass (decide nouveauBesideNvidia).effects ∧
    Settles .serverLayout (decide nouveauBesideNvidia).effects := by
  have hpx : (decide radeonBesideAmdgpu).mode = .powerXpress .powerSaving := by decide
  have hstale : ∀ f, radeonBesideAmdgpu.stateOf f = .stale := by
    intro f
    cases f <;> rfl
  have hleft : ¬ Settles .outputClass (decide nouveauBesideNvidia).effects :=
    (stale_fragment_left_iff rfl).mpr (.inr (.inr ⟨rfl, rfl, by decide⟩))
  refine ⟨rfl, hpx, fun f => ?_, rfl, by decide, hleft, ?_⟩
  · exact (stale_fragment_left_iff (hstale f)).mpr (.inr (.inl ⟨_, hpx⟩))
  · exact ⟨.removeFragment .serverLayout, by decide, rfl⟩

end Decision

end HybridGraphics
