import HybridGraphics.Decision.Decide

/-!
# The decisions there are

`Decision.choose` comes to its decision over a dozen paths, but there are only six kinds
of decision. `Chosen` lists them with what has to hold for each, and `chosen` says that
every situation is decided in one of these ways. What is proved of a run about its
decision is proved by these cases, so a new path to an old decision needs no new proof.

PRIME is the one with conditions: `PrimeRoute` says how it is come by. Either a single
Intel card is left and the NVIDIA card that was powered off is to be brought back, or
there are several cards, the firmware's primary one is an integrated one, and the NVIDIA
driver can be used.
-/

namespace HybridGraphics

open Pci (Device Vendor)

/-- The card that the decision may be about: the first one that is not the firmware's
primary, or, beside a single card, the one that is known by its mark. -/
def Situation.discrete? (s : Situation) : Option Device :=
  if s.devices.length = 1 then s.residualDiscrete else s.devices.find? (!·.bootVga)

namespace Decision

/-- How a situation comes to be one for PRIME. -/
inductive PrimeRoute (s : Situation) (discrete : Device) : Prop
  | restored (integrated : Device) (single : s.devices = [integrated])
      (intel : integrated.vendor = Vendor.intel) (restorable : restorable? s = some discrete)
  | beside (boot : Device) (several : 2 ≤ s.devices.length)
      (primary : s.devices.find? (·.bootVga) = some boot)
      (integrated : boot.vendor = Vendor.intel ∨ boot.vendor = Vendor.amd)
      (other : s.devices.find? (!·.bootVga) = some discrete)
      (capable : s.primeCapable = true)

/-- The kinds of decision, by their mode and their effects before the marker. -/
inductive Chosen (s : Situation) : Mode → List Effect → Prop
  | nothing (few : s.devices.length ≤ 1) : Chosen s .noAction []
  | prime (discrete : Device) (nvidia : discrete.vendor = Vendor.nvidia)
      (route : PrimeRoute s discrete) : Chosen s (prime s discrete).mode (prime s discrete).effects
  | powerXpress (setting : PxMode) : Chosen s (.powerXpress setting) [.runPxScript setting]
  | integratedAlone (single : s.devices.length = 1) :
      Chosen s .integratedOnly (removeFragments s)
  | discreteAlone (single : s.devices.length = 1) :
      Chosen s .discreteOnly (discreteOnly s).effects
  | muxed (several : 2 ≤ s.devices.length) : Chosen s (muxed s).mode (removeFragments s)

/-- What may be brought back is an NVIDIA card that is known by its mark, whose driver was
unloaded since the last boot, where offloading was required and the operator has not switched the
card off. -/
theorem restorable?_eq_some {s : Situation} {discrete : Device}
    (h : restorable? s = some discrete) :
    s.offloadingWasRequired = true ∧ s.drivers.nvidiaUnloaded = true ∧ s.policy ≠ .off ∧
      s.residualDiscrete = some discrete ∧ discrete.vendor = Vendor.nvidia := by
  unfold restorable? at h
  split at h
  next hc =>
    simp only [Bool.and_eq_true, bne_iff_ne] at hc
    obtain ⟨hr, hv⟩ := Option.filter_eq_some_iff.mp h
    exact ⟨hc.1.1, hc.1.2, hc.2, hr, by simpa using hv⟩
  next => cases h

/-- PRIME is about the NVIDIA card that the decision may be about. -/
theorem PrimeRoute.discrete? {s : Situation} {discrete : Device}
    (h : PrimeRoute s discrete) : s.discrete? = some discrete := by
  unfold Situation.discrete?
  cases h with
  | restored integrated single intel restorable =>
    rw [single, List.length_singleton, if_pos rfl]
    exact (restorable?_eq_some restorable).2.2.2.1
  | beside boot several primary integrated other capable => rw [if_neg (by omega), other]

theorem choose_singleIntel {s : Situation} {device : Device} (single : s.devices = [device])
    (intel : device.vendor = Vendor.intel) : choose s = singleIntel s := by
  unfold choose singleCard
  rw [single]
  exact if_pos intel

/-- Beside an Intel card alone there is PRIME for the card to bring back, PowerXpress to reset, or
the integrated card. -/
theorem singleIntel_chosen {s : Situation} {device : Device} (hs : s.devices = [device])
    (hv : device.vendor = Vendor.intel) :
    Chosen s (singleIntel s).mode (singleIntel s).effects := by
  have hlen : s.devices.length = 1 := by rw [hs]; rfl
  unfold singleIntel
  split
  next discrete h =>
    exact .prime discrete (restorable?_eq_some h).2.2.2.2 (.restored device hs hv h)
  next =>
    split
    · exact .powerXpress .reset
    · exact .integratedAlone hlen

theorem singleAmd_chosen {s : Situation} (hlen : s.devices.length = 1) :
    Chosen s (singleAmd s).mode (singleAmd s).effects := by
  unfold singleAmd
  split
  · exact .powerXpress .reset
  · exact .discreteAlone hlen

/-- With two cards, one of them the primary, the decision is one of the kinds there are. -/
theorem hybrid_chosen {s : Situation} {boot discrete : Device} (several : 2 ≤ s.devices.length)
    (primary : s.devices.find? (·.bootVga) = some boot)
    (other : s.devices.find? (!·.bootVga) = some discrete) :
    Chosen s (hybrid s boot discrete).mode (hybrid s boot discrete).effects := by
  unfold hybrid
  split
  next hb =>
    split
    next hn =>
      simp only [Bool.and_eq_true, Bool.or_eq_true, decide_eq_true_eq] at hb hn
      exact .prime discrete hn.1 (.beside boot several primary hb.1 other hn.2)
    next =>
      split
      · exact .powerXpress _
      · exact .muxed several
  next => exact .muxed several

/-- Every situation is decided in one of these ways. -/
theorem chosen (s : Situation) : Chosen s (choose s).mode (choose s).effects := by
  unfold choose
  split
  next hs => exact .nothing (by rw [hs]; exact Nat.zero_le 1)
  next device hs =>
    have hlen : s.devices.length = 1 := by rw [hs]; rfl
    unfold singleCard
    split
    next hv => exact singleIntel_chosen hs hv
    next =>
      split
      · exact singleAmd_chosen hlen
      · split
        · exact .discreteAlone hlen
        · exact .nothing (Nat.le_of_eq hlen)
  next hnil hone =>
    have several : 2 ≤ s.devices.length := by
      match hs : s.devices with
      | [] => exact absurd hs hnil
      | [device] => exact absurd hs (hone device)
      | _ :: _ :: _ => simp
    unfold multipleCards
    split
    next boot discrete primary other => exact hybrid_chosen several primary other
    next => exact .muxed several

/-- The marker is set last, and only it is added to what was chosen. -/
theorem decide_effects (s : Situation) :
    (decide s).mode = (choose s).mode ∧
      (decide s).effects = (choose s).effects ++
        if (choose s).mode = .noAction then []
        else [.setOffloadingMarker s.requiresOffloading] := by
  unfold decide withMarker
  split
  next h => exact ⟨rfl, by simp⟩
  next h => exact ⟨rfl, rfl⟩

end Decision

end HybridGraphics
