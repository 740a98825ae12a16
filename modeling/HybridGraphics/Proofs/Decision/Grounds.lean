import HybridGraphics.Proofs.Decision.Course

/-!
# What a decision rests on

Of what a run finds, part only tells what there is left to do: whether a fragment is as it would be
generated, whether all fragments are to be generated anew, and whether the card may sleep. The rest
are the grounds of the decision. `Situation.grounds` keeps them and has both fragments stale.

`decide_eq_fitted` says what the other part is for. A decision is the one on its grounds, less the
effects on fragments that are as they should be, and with the eligibility filled in. So there is
nothing else to a decision's being due (`isDue_of_mem`), and situations on the same grounds that
leave the same to do are decided alike (`decide_congr`). The proof follows the definitions of the
decision, with one lemma for each.

The cards themselves count only as far as they are looked for: `decide_congr_devices` says so of
machines with several of them.
-/

namespace HybridGraphics

open Pci (Device Vendor)

namespace Situation

/-- How a fragment was found. -/
def stateOf (s : Situation) : Fragment → FragmentState
  | .outputClass => s.outputClass
  | .serverLayout => s.serverLayout

/-- What a situation is decided on. Nothing in it tells what is left to do. -/
def grounds (s : Situation) : Situation :=
  { s with
    hasChanged := false
    firstBoot := false
    outputClass := .stale
    serverLayout := .stale
    eligibility := {}
    drivers := { s.drivers with radeonLoaded := false } }

end Situation

/-! ## Effects that are due -/

namespace Effect

/-- The fragment that an effect writes. -/
def writes? : Effect → Option Fragment
  | writeOutputClass _ => some .outputClass
  | writeServerLayout => some .serverLayout
  | _ => none

/-- True unless the effect is about a fragment that is as it should be. -/
def isDue (s : Situation) (e : Effect) : Bool :=
  match e with
  | writeOutputClass _ => s.outputClass != .current || s.changed
  | writeServerLayout => s.serverLayout != .current || s.changed
  | removeFragment f => (s.stateOf f).isPresent
  | _ => true

/-- The effect with another eligibility, if it depends on any. -/
def withEligibility (eligibility : Eligibility) : Effect → Effect
  | setRuntimePm device enabled _ onBus => setRuntimePm device enabled eligibility onBus
  | e => e

theorem isDue_withEligibility (s : Situation) (eligibility : Eligibility) (e : Effect) :
    (e.withEligibility eligibility).isDue s = e.isDue s := by
  cases e <;> rfl

/-- A fragment is due to be written unless it is current and nothing changed. -/
theorem isDue_of_writes? {s : Situation} {e : Effect} {f : Fragment} (h : e.writes? = some f) :
    e.isDue s = (s.stateOf f != .current || s.changed) := by
  cases e <;> cases h <;> rfl

end Effect

namespace Decision

variable {s s' : Situation} {discrete : Device}

/-- The effects that are due, with the eligibility that was found. -/
def fit (s : Situation) (effects : List Effect) : List Effect :=
  (effects.filter (·.isDue s)).map (·.withEligibility s.eligibility)

/-- The decision with the effects that are due. -/
def fitted (s : Situation) (d : Decision) : Decision := { d with effects := fit s d.effects }

theorem fit_append (s : Situation) (effects more : List Effect) :
    fit s (effects ++ more) = fit s effects ++ fit s more := by
  rw [fit, List.filter_append, List.map_append]
  rfl

theorem fit_singleton (s : Situation) (e : Effect) :
    fit s [e] = if e.isDue s then [e.withEligibility s.eligibility] else [] := by
  unfold fit
  cases h : e.isDue s <;> simp [h]

/-! ## Each way to decide, on its grounds -/

/-- Of both removals, those are due whose fragment is there. -/
theorem fit_removeFragments (s : Situation) : fit s (removeFragments s.grounds) = removeFragments s := by
  show fit s ([.removeFragment .outputClass] ++ [.removeFragment .serverLayout]) = _
  rw [fit_append, fit_singleton, fit_singleton]
  rfl

theorem fit_loadDriver (s : Situation) : fit s (loadDriver s.grounds) = loadDriver s := by
  show fit s (if s.drivers.nvidiaLoaded then [] else [.loadModule "nvidia"]) = _
  unfold loadDriver
  cases s.drivers.nvidiaLoaded <;> rfl

/-- PRIME is turned on by those of its effects that are due, as long as what comes before them is
due. -/
theorem fitted_primeOn (s : Situation) (discrete : Device) {before : List Effect}
    (hb : fit s before = before) :
    (primeOn s.grounds discrete before).fitted s = primeOn s discrete before := by
  have heffects : fit s (before ++ [.writeOutputClass discrete] ++ [.removeFragment .serverLayout]
      ++ ([runtimePm s.grounds discrete false] ++ loadDriver s.grounds)) =
        (primeOn s discrete before).effects := by
    rw [fit_append, fit_append, fit_append, fit_append, hb, fit_loadDriver, fit_singleton,
      fit_singleton, fit_singleton]
    rfl
  exact congrArg (fun effects => { mode := Mode.primeOn, effects : Decision }) heffects

theorem fitted_primeOnDemand (s : Situation) (discrete : Device) :
    (primeOnDemand s.grounds discrete).fitted s = primeOnDemand s discrete := by
  have heffects : fit s ([.writeServerLayout] ++ [.removeFragment .outputClass]
      ++ ([runtimePm s.grounds discrete true] ++ loadDriver s.grounds)) =
        (primeOnDemand s discrete).effects := by
    rw [fit_append, fit_append, fit_append, fit_loadDriver, fit_singleton, fit_singleton,
      fit_singleton]
    rfl
  exact congrArg (fun effects => { mode := Mode.primeOnDemand, effects : Decision }) heffects

theorem fitted_primeOff (s : Situation) (discrete : Device) :
    (primeOff s.grounds discrete).fitted s = primeOff s discrete := by
  have hunload : fit s (if s.drivers.nvidiaLoaded then [.unloadNvidiaStack] else []) =
      if s.drivers.nvidiaLoaded then [.unloadNvidiaStack] else [] := by
    cases s.drivers.nvidiaLoaded <;> rfl
  have heffects : fit s (removeFragments s.grounds
      ++ (if s.drivers.nvidiaLoaded then [.unloadNvidiaStack] else [])
      ++ [runtimePm s.grounds discrete true]) = (primeOff s discrete).effects := by
    rw [fit_append, fit_append, fit_removeFragments, hunload, fit_singleton]
    rfl
  exact congrArg (fun effects => { mode := Mode.integratedOnly, effects : Decision }) heffects

/-- Which way PRIME goes depends on the policy and the driver, and both are grounds. -/
theorem fitted_prime (s : Situation) (discrete : Device) :
    (prime s.grounds discrete).fitted s = prime s discrete := by
  have hpolicy : s.grounds.policy = s.policy := rfl
  have hcapable : s.grounds.onDemandCapable = s.onDemandCapable := rfl
  unfold prime
  rw [hpolicy, hcapable]
  cases s.policy with
  | off => exact fitted_primeOff s discrete
  | on => exact fitted_primeOn s discrete rfl
  | onDemand =>
    cases s.onDemandCapable with
    | true => exact fitted_primeOnDemand s discrete
    | false =>
      have hpersist : fit s [.persistPolicy .on] = [.persistPolicy .on] := rfl
      exact congrArg (remarking .info _) (fitted_primeOn s discrete hpersist)

theorem fitted_muxed (s : Situation) : (muxed s.grounds).fitted s = muxed s := by
  have heffects : fit s (removeFragments s.grounds) = (muxed s).effects := fit_removeFragments s
  exact congrArg (fun effects => { mode := (muxed s).mode, effects : Decision }) heffects

theorem fitted_integratedOnly (s : Situation) :
    (integratedOnly s.grounds).fitted s = integratedOnly s :=
  congrArg (fun effects => { mode := Mode.integratedOnly, effects : Decision })
    (fit_removeFragments s)

theorem fitted_discreteOnly (s : Situation) : (discreteOnly s.grounds).fitted s = discreteOnly s := by
  have heffects : fit s [.removeFragment .serverLayout] = (discreteOnly s).effects := by
    rw [fit_singleton]
    rfl
  exact congrArg (fun effects => { mode := Mode.discreteOnly, effects : Decision }) heffects

/-- An Intel card alone: whether there is a card to bring back is told by the grounds. -/
theorem fitted_singleIntel (s : Situation) : (singleIntel s.grounds).fitted s = singleIntel s := by
  have hrestorable : restorable? s.grounds = restorable? s := rfl
  unfold singleIntel
  rw [hrestorable]
  cases restorable? s with
  | some discrete => exact congrArg (remarking .info _) (fitted_prime s discrete)
  | none =>
    show fitted s (if s.offloadingWasRequired && s.drivers.amdgpuUnloaded && s.pxScriptAvailable then
      powerXpress .reset else integratedOnly s.grounds) = _
    split
    · rfl
    · exact fitted_integratedOnly s

theorem fitted_singleAmd (s : Situation) : (singleAmd s.grounds).fitted s = singleAmd s := by
  unfold singleAmd
  show fitted s (if s.drivers.amdgpuVersioned && s.lastBootHadIntel && s.pxScriptAvailable then
    powerXpress .reset else discreteOnly s.grounds) = _
  split
  · rfl
  · exact fitted_discreteOnly s

theorem fitted_singleCard (s : Situation) (device : Device) :
    (singleCard s.grounds device).fitted s = singleCard s device := by
  unfold singleCard
  by_cases hintel : device.vendor = Vendor.intel
  · rw [if_pos hintel, if_pos hintel]
    exact fitted_singleIntel s
  · rw [if_neg hintel, if_neg hintel]
    by_cases hamd : device.vendor = Vendor.amd
    · rw [if_pos hamd, if_pos hamd]
      exact fitted_singleAmd s
    · rw [if_neg hamd, if_neg hamd]
      by_cases hnvidia : device.vendor = Vendor.nvidia
      · rw [if_pos hnvidia, if_pos hnvidia]
        exact fitted_discreteOnly s
      · rw [if_neg hnvidia, if_neg hnvidia]
        rfl

theorem fitted_hybrid (s : Situation) (boot discrete : Device) :
    (hybrid s.grounds boot discrete).fitted s = hybrid s boot discrete := by
  have hcapable : s.grounds.primeCapable = s.primeCapable := rfl
  unfold hybrid
  rw [hcapable]
  split
  · split
    · exact fitted_prime s discrete
    · show fitted s (if discrete.vendor = Vendor.amd && s.drivers.amdgpuVersioned
          && s.pxScriptAvailable && s.requiresOffloading then powerXpress (pxSetting s.policy)
        else muxed s.grounds) = _
      split
      · rfl
      · exact fitted_muxed s
  · exact fitted_muxed s

theorem fitted_multipleCards (s : Situation) :
    (multipleCards s.grounds).fitted s = multipleCards s := by
  have hdevices : s.grounds.devices = s.devices := rfl
  unfold multipleCards
  rw [hdevices]
  cases s.devices.find? (·.bootVga) with
  | none => exact congrArg (remarking .warn _) (fitted_muxed s)
  | some boot =>
    cases s.devices.find? (!·.bootVga) with
    | none => exact congrArg (remarking .warn _) (fitted_muxed s)
    | some discrete => exact fitted_hybrid s boot discrete

/-- How the ways are chosen between is a matter of the grounds. -/
theorem fitted_choose (s : Situation) : (choose s.grounds).fitted s = choose s := by
  have hdevices : s.grounds.devices = s.devices := rfl
  unfold choose
  rw [hdevices]
  cases s.devices with
  | nil => rfl
  | cons device rest =>
    cases rest with
    | nil => exact fitted_singleCard s device
    | cons second rest => exact fitted_multipleCards s

/-- A decision is the one on its grounds, as far as its effects are due. -/
theorem decide_eq_fitted (s : Situation) : decide s = (decide s.grounds).fitted s := by
  have hchoose := fitted_choose s
  have hmode : (choose s).mode = (choose s.grounds).mode := by
    rw [← hchoose]
    rfl
  unfold decide withMarker
  rw [hmode]
  split
  · exact hchoose.symm
  · have heffects : fit s ((choose s.grounds).effects
        ++ [.setOffloadingMarker s.requiresOffloading]) =
          (choose s).effects ++ [.setOffloadingMarker s.requiresOffloading] := by
      rw [fit_append, ← hchoose]
      rfl
    rw [← hchoose] at heffects ⊢
    exact congrArg (fun effects => { (choose s.grounds).fitted s with effects }) heffects.symm

/-! ## What follows for its effects -/

/-- Whatever a decision has done is due. -/
theorem isDue_of_mem {e : Effect} (he : e ∈ (decide s).effects) : e.isDue s = true := by
  rw [decide_eq_fitted s] at he
  obtain ⟨aim, haim, rfl⟩ := List.mem_map.mp he
  rw [Effect.isDue_withEligibility]
  exact (List.mem_filter.mp haim).2

/-- What is due depends on the fragments, and on whether all are to be generated anew. -/
theorem isDue_congr (hclass : s'.outputClass = s.outputClass)
    (hlayout : s'.serverLayout = s.serverLayout) (hchanged : s'.changed = s.changed) (e : Effect) :
    e.isDue s' = e.isDue s := by
  unfold Effect.isDue Situation.stateOf
  rw [hclass, hlayout, hchanged]

/-- On the same grounds, and with the same left to do, the decision is the same. -/
theorem decide_congr (hgrounds : s'.grounds = s.grounds) (hclass : s'.outputClass = s.outputClass)
    (hlayout : s'.serverLayout = s.serverLayout) (heligibility : s'.eligibility = s.eligibility)
    (hchanged : s'.changed = s.changed) : decide s' = decide s := by
  have hdue : (fun e => Effect.isDue s' e) = fun e => e.isDue s :=
    funext (isDue_congr hclass hlayout hchanged)
  rw [decide_eq_fitted s', decide_eq_fitted s, hgrounds, fitted, fitted, fit, fit, hdue,
    heligibility]

/-! ## The cards that count -/

/-- PRIME asks about the scanned cards only whether its own is among them. -/
theorem prime_congr_devices {devices : List Device}
    (hbus : devices.any (·.sameIdentity discrete) = s.devices.any (·.sameIdentity discrete)) :
    prime { s with devices } discrete = prime s discrete := by
  have hpm : ∀ enabled, runtimePm { s with devices } discrete enabled =
      runtimePm s discrete enabled := by
    intro enabled
    unfold runtimePm
    rw [hbus]
  unfold prime primeOff primeOn primeOnDemand
  simp only [hpm]
  rfl

/-- Once both cards are known, nothing else counts of the scanned ones but whether the discrete one
is among them. -/
theorem hybrid_congr_devices {devices : List Device} (boot : Device)
    (hbus : devices.any (·.sameIdentity discrete) = s.devices.any (·.sameIdentity discrete)) :
    hybrid { s with devices } boot discrete = hybrid s boot discrete := by
  unfold hybrid
  rw [prime_congr_devices hbus]
  rfl

/-- With a primary card and another one, these two are what is decided about. -/
theorem choose_of_both {boot : Device} (hboot : s.devices.find? (·.bootVga) = some boot)
    (hother : s.devices.find? (!·.bootVga) = some discrete) : choose s = hybrid s boot discrete := by
  unfold choose
  split
  next hnone =>
    rw [hnone] at hboot
    cases hboot
  next device hone =>
    -- a single card is not the primary one and another one
    rw [hone] at hboot hother
    cases hprimary : device.bootVga <;> simp [hprimary] at hboot hother
  next => rw [multipleCards, hboot, hother]

theorem onBus_of_find? {devices : List Device}
    (hother : devices.find? (!·.bootVga) = some discrete) :
    devices.any (·.sameIdentity discrete) = true :=
  List.any_eq_true.mpr
    ⟨discrete, List.mem_of_find?_eq_some hother, (Device.sameIdentity_iff _ _).mpr rfl⟩

/-- Other cards than the primary one and the first one beside it do not count. -/
theorem decide_congr_devices {boot : Device} {devices : List Device}
    (hboot : s.devices.find? (·.bootVga) = some boot)
    (hother : s.devices.find? (!·.bootVga) = some discrete)
    (hboot' : devices.find? (·.bootVga) = some boot)
    (hother' : devices.find? (!·.bootVga) = some discrete) :
    decide { s with devices } = decide s := by
  have hbus : devices.any (·.sameIdentity discrete) = s.devices.any (·.sameIdentity discrete) := by
    rw [onBus_of_find? hother, onBus_of_find? hother']
  have hchoose : choose { s with devices } = choose s := by
    rw [choose_of_both hboot hother, choose_of_both hboot' hother']
    exact hybrid_congr_devices boot hbus
  unfold decide
  rw [hchoose]
  rfl

end Decision

end HybridGraphics
