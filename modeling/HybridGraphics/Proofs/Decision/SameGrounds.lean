import HybridGraphics.Proofs.Decision.WellFormed

/-!
# Decisions on the same grounds

Two runs on one machine may see its hardware as changed or not, find its fragments in other states,
or another open driver beside the proprietary one. `decision_rests_on_grounds` says how far this goes:
never to the mode, and never beyond the fragments and the eligibility of the card. Where those are
the same too, all it can make a difference to is whether one fragment is written again that is
current. A machine with several cards is decided about by two of them, whatever else is on its bus.

Both decisions are fitted from one (`decide_eq_fitted`), so they are compared effect by effect
(`fit_differ`). An effect is due in one situation only if it writes a current fragment, and no
decision writes two.
-/

namespace HybridGraphics

open Pci (Device Vendor)

/-! ## Situations on the same grounds -/

/-- The situations agree on the hardware, the drivers that count, and the policy. -/
structure Situation.SameGrounds (s s' : Situation) : Prop where
  devices : s'.devices = s.devices
  requiresOffloading : s'.requiresOffloading = s.requiresOffloading
  offloadingWasRequired : s'.offloadingWasRequired = s.offloadingWasRequired
  lastBootHadIntel : s'.lastBootHadIntel = s.lastBootHadIntel
  policy : s'.policy = s.policy
  driverMajor : s'.driverMajor = s.driverMajor
  residualDiscrete : s'.residualDiscrete = s.residualDiscrete
  pxScriptAvailable : s'.pxScriptAvailable = s.pxScriptAvailable
  /-- The open driver for AMD cards is left aside. -/
  drivers : { s'.drivers with radeonLoaded := s.drivers.radeonLoaded } = s.drivers

/-- Situations that agree on the hardware, the drivers that count, and the policy have the same
grounds. -/
theorem Situation.SameGrounds.grounds {s s' : Situation} (h : s.SameGrounds s') :
    s'.grounds = s.grounds := by
  have hdrivers : { s'.drivers with radeonLoaded := false } =
      { s.drivers with radeonLoaded := false } := by
    rw [← h.drivers]
  unfold Situation.grounds
  rw [hdrivers, h.devices, h.requiresOffloading, h.offloadingWasRequired, h.lastBootHadIntel,
    h.policy, h.driverMajor, h.residualDiscrete, h.pxScriptAvailable]

namespace Effect

/-- The effect without what depends on more than the grounds, if anything is left of it. -/
def bare? : Effect → Option Effect
  | writeOutputClass _ | writeServerLayout | removeFragment _ => none
  | setRuntimePm device enabled _ onBus => some (setRuntimePm device enabled {} onBus)
  | e => some e

theorem bare?_withEligibility (eligibility : Eligibility) (e : Effect) :
    (e.withEligibility eligibility).bare? = e.bare? := by
  cases e <;> rfl

/-- Where anything is left of an effect, it is due in every situation. -/
theorem bare?_of_not_due {s : Situation} : ∀ {e : Effect}, e.isDue s = false → e.bare? = none
  | writeOutputClass _, _ | writeServerLayout, _ | removeFragment _, _ => rfl

theorem writes?_withEligibility (eligibility : Eligibility) (e : Effect) :
    (e.withEligibility eligibility).writes? = e.writes? := by
  cases e <;> rfl

/-- An effect is due in both situations or in neither, unless it writes a fragment that is current. -/
theorem isDue_eq_or_rewrites {s s' : Situation} (hstate : ∀ f, s'.stateOf f = s.stateOf f)
    (e : Effect) :
    e.isDue s' = e.isDue s ∨ ∃ f, e.writes? = some f ∧ s.stateOf f = .current := by
  cases hw : e.writes? with
  | some f =>
    by_cases hcurrent : s.stateOf f = .current
    · exact .inr ⟨f, rfl, hcurrent⟩
    · left
      have hstale : (s.stateOf f != .current) = true := bne_iff_ne.mpr hcurrent
      rw [isDue_of_writes? hw, isDue_of_writes? hw, hstate, hstale]
      rfl
  | none =>
    left
    cases e with
    | removeFragment f => exact congrArg FragmentState.isPresent (hstate f)
    | writeOutputClass device => cases hw
    | writeServerLayout => cases hw
    | _ => rfl

end Effect

namespace Decision

variable {s s' : Situation}

/-! ## What differs -/

/-- The effects differ in no more than one write of a fragment that is current. -/
inductive DifferInRewrite (s : Situation) : List Effect → List Effect → Prop
  | same (effects : List Effect) : DifferInRewrite s effects effects
  | first (before : List Effect) {write : Effect} {f : Fragment} (writes : write.writes? = some f)
      (current : s.stateOf f = .current) (after : List Effect) :
      DifferInRewrite s (before ++ write :: after) (before ++ after)
  | second (before : List Effect) {write : Effect} {f : Fragment} (writes : write.writes? = some f)
      (current : s.stateOf f = .current) (after : List Effect) :
      DifferInRewrite s (before ++ after) (before ++ write :: after)

/-- An effect that both lists begin with makes no difference. -/
theorem DifferInRewrite.cons {effects effects' : List Effect} (e : Effect)
    (h : DifferInRewrite s effects effects') : DifferInRewrite s (e :: effects) (e :: effects') := by
  cases h with
  | same => exact .same _
  | first before writes current after => exact .first (e :: before) writes current after
  | second before writes current after => exact .second (e :: before) writes current after

theorem fit_cons (s : Situation) (e : Effect) (rest : List Effect) :
    fit s (e :: rest) =
      if e.isDue s then e.withEligibility s.eligibility :: fit s rest else fit s rest := by
  unfold fit
  cases h : e.isDue s <;> simp [h]

/-- Of the bare effects, all are due. -/
theorem bare_fit (s : Situation) (effects : List Effect) :
    (fit s effects).filterMap Effect.bare? = effects.filterMap Effect.bare? := by
  induction effects with
  | nil => rfl
  | cons e rest ih =>
    rw [fit_cons]
    cases hdue : e.isDue s with
    | true =>
      show ((e.withEligibility s.eligibility) :: fit s rest).filterMap Effect.bare? = _
      rw [List.filterMap_cons, List.filterMap_cons, Effect.bare?_withEligibility, ih]
    | false =>
      show (fit s rest).filterMap Effect.bare? = _
      rw [List.filterMap_cons, Effect.bare?_of_not_due hdue, ih]

/-- Effects none of which writes a fragment are due together. -/
theorem fit_eq_of_no_write (hstate : ∀ f, s'.stateOf f = s.stateOf f)
    (heligibility : s'.eligibility = s.eligibility) {effects : List Effect}
    (h : effects.countP (·.writes?.isSome) = 0) : fit s' effects = fit s effects := by
  have hdue : ∀ e ∈ effects, e.isDue s' = e.isDue s := by
    intro e he
    refine (Effect.isDue_eq_or_rewrites hstate e).resolve_right ?_
    rintro ⟨f, hw, -⟩
    exact List.countP_eq_zero.mp h e he (by rw [hw]; rfl)
  rw [fit, fit, heligibility, List.filter_congr hdue]

/-- If there is no more than one write, fitting makes no more difference than that. -/
theorem fit_differ (hstate : ∀ f, s'.stateOf f = s.stateOf f)
    (heligibility : s'.eligibility = s.eligibility) :
    ∀ effects : List Effect, effects.countP (·.writes?.isSome) ≤ 1 →
      DifferInRewrite s (fit s effects) (fit s' effects)
  | [], _ => .same []
  | e :: rest, h => by
    rw [fit_cons, fit_cons, heligibility]
    rcases Effect.isDue_eq_or_rewrites hstate e with hdue | ⟨f, hw, hcurrent⟩
    · have hrest : rest.countP (·.writes?.isSome) ≤ 1 :=
        Nat.le_trans (List.sublist_cons_self e rest).countP_le h
      have ih := fit_differ hstate heligibility rest hrest
      rw [hdue]
      cases e.isDue s with
      | true => exact ih.cons _
      | false => exact ih
    · -- this is the one write, so the rest is the same
      have hsome : e.writes?.isSome = true := by
        rw [hw]
        rfl
      have hcount : (e :: rest).countP (·.writes?.isSome) = rest.countP (·.writes?.isSome) + 1 :=
        List.countP_cons_of_pos hsome
      have hrest : rest.countP (·.writes?.isSome) = 0 := by omega
      rw [fit_eq_of_no_write hstate heligibility hrest]
      have hwrites : (e.withEligibility s.eligibility).writes? = some f := by
        rw [Effect.writes?_withEligibility, hw]
      cases e.isDue s <;> cases e.isDue s'
      · exact .same _
      · exact .second [] hwrites hcurrent _
      · exact .first [] hwrites hcurrent _
      · exact .same _

/-! ## What does not -/

/-- A decision rests on its grounds. Whatever else is found, the mode is the same, and so are the
effects but for the fragments and the eligibility. If these are the same too, at most one write of a
current fragment is added or left out. On a first boot without a driver conflict it makes no
difference whether the hardware has changed, and on a machine with a primary card and another one it
makes none what further cards there are. -/
theorem decision_rests_on_grounds :
    (∀ s s' : Situation, s.SameGrounds s' →
      (decide s').mode = (decide s).mode ∧
      (decide s').effects.filterMap Effect.bare? = (decide s).effects.filterMap Effect.bare? ∧
      (s'.outputClass = s.outputClass → s'.serverLayout = s.serverLayout →
        s'.eligibility = s.eligibility →
          DifferInRewrite s (decide s).effects (decide s').effects)) ∧
    (∀ (s : Situation) (hasChanged : Bool), s.firstBoot = true → s.driverConflict = false →
      decide { s with hasChanged } = decide s) ∧
    (∀ (s : Situation) (devices : List Device) (boot discrete : Device),
      s.devices.find? (·.bootVga) = some boot → s.devices.find? (!·.bootVga) = some discrete →
      devices.find? (·.bootVga) = some boot → devices.find? (!·.bootVga) = some discrete →
        decide { s with devices } = decide s) := by
  refine ⟨?grounds, ?firstBoot, ?cards⟩
  case grounds =>
    intro s s' hsame
    rw [decide_eq_fitted s', decide_eq_fitted s, hsame.grounds]
    refine ⟨rfl, ?_, fun hclass hlayout heligibility => ?_⟩
    · show (fit s' _).filterMap Effect.bare? = (fit s _).filterMap Effect.bare?
      rw [bare_fit, bare_fit]
    · have hstate : ∀ f, s'.stateOf f = s.stateOf f := by
        intro f
        cases f with
        | outputClass => exact hclass
        | serverLayout => exact hlayout
      exact fit_differ hstate heligibility _ (countP_writes_le_one s.grounds)
  case firstBoot =>
    intro s hasChanged hfirst hconflict
    have hsettled : ∀ changed, Situation.changed { s with hasChanged := changed } = false := by
      intro changed
      show ((changed && !s.firstBoot) || s.driverConflict) = false
      rw [hfirst, hconflict]
      cases changed <;> rfl
    exact decide_congr rfl rfl rfl rfl ((hsettled hasChanged).trans (hsettled s.hasChanged).symm)
  case cards =>
    intro s devices boot discrete hboot hother hboot' hother'
    exact decide_congr_devices hboot hother hboot' hother'

/-- A laptop that PRIME is on for, with nothing left to do but to keep the card awake. -/
def primeLaptop : Situation where
  devices :=
    [⟨Vendor.intel, 0x3e9b, ⟨0, 0, 2, 0⟩, true, .unknown⟩,
      ⟨Vendor.nvidia, 0x1f91, ⟨0, 1, 0, 0⟩, false, .unknown⟩]
  requiresOffloading := true
  offloadingWasRequired := true
  policy := .on
  drivers := { nvidiaLoaded := true }
  outputClass := .current

/-- On that laptop, changed hardware has the fragment written again and nothing else, and not even
that on a first boot. A third card makes no difference. -/
theorem decision_rests_on_grounds_laptop :
    (decide { primeLaptop with hasChanged := true }).mode = .primeOn ∧
    (decide { primeLaptop with hasChanged := true }).effects ≠ (decide primeLaptop).effects ∧
    DifferInRewrite primeLaptop (decide primeLaptop).effects
      (decide { primeLaptop with hasChanged := true }).effects ∧
    decide { primeLaptop with firstBoot := true, hasChanged := true } =
      decide { primeLaptop with firstBoot := true } ∧
    decide { primeLaptop with
      devices := primeLaptop.devices ++ [⟨Vendor.amd, 0x67df, ⟨0, 2, 0, 0⟩, false, .unknown⟩] } =
        decide primeLaptop := by
  obtain ⟨hgrounds, hfirst, hcards⟩ := decision_rests_on_grounds
  have hsame : primeLaptop.SameGrounds { primeLaptop with hasChanged := true } :=
    ⟨rfl, rfl, rfl, rfl, rfl, rfl, rfl, rfl, rfl⟩
  obtain ⟨hmode, -, hdiffer⟩ := hgrounds _ _ hsame
  refine ⟨hmode.trans (by decide), by decide, hdiffer rfl rfl rfl, ?_, ?_⟩
  · exact hfirst { primeLaptop with firstBoot := true } true rfl rfl
  · exact hcards primeLaptop _ _ _ rfl rfl rfl rfl

end Decision

end HybridGraphics
