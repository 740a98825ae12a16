import HybridGraphics.Proofs.Run.Completed

/-!
# Restored cards are not kept

An NVIDIA card that was powered off has left the bus. A run on the Intel card that is left
brings it back if the marks of earlier boots say that its driver was loaded and is not any
more. But bringing it back loads the driver, and with that the sign is gone. The next run
takes the machine for one without an NVIDIA card: it comes to another mode, and unless it
is to reset PowerXpress, it removes the fragment that the first run wrote
(`restored_not_kept`).
-/

namespace HybridGraphics

open Pci (Device Vendor Scan)

/-! ## An Intel card alone -/

namespace Decision

variable {s : Situation} {device : Device}

/-- An Intel card alone comes to PRIME only by way of a card that is brought back. -/
theorem restorable_of_isPrime (h : (singleIntel s).mode.isPrime = true) :
    ∃ discrete, restorable? s = some discrete ∧ (singleIntel s).mode = (prime s discrete).mode ∧
      (singleIntel s).effects = (prime s discrete).effects := by
  unfold singleIntel at h ⊢
  cases hr : restorable? s with
  | some discrete => exact ⟨discrete, rfl, rfl, rfl⟩
  | none =>
    rw [hr] at h
    simp only at h
    split at h <;> cases h

/-- Where the driver is not one that was unloaded, there is nothing to bring back. -/
theorem singleIntel_of_not_unloaded (h : s.drivers.nvidiaUnloaded = false) :
    singleIntel s =
      if s.offloadingWasRequired && s.drivers.amdgpuUnloaded && s.pxScriptAvailable then
        powerXpress .reset
      else integratedOnly s := by
  have hnone : restorable? s = none := by
    unfold restorable?
    rw [h, Bool.and_false, Bool.false_and]
    rfl
  unfold singleIntel
  rw [hnone]

end Decision

namespace Run

open KernelModule (loadedMark)

variable {config : Config} {triplet : String} {scan : Scan} {c : Course} {s : Situation}
  {w w' w1 : World (Recorded Rehearsal)} {device : Device} {mode : Mode}

/-- The signs that PowerXpress is to be reset: the AMD driver was loaded and is not any more, and
there is the script to do it with. -/
def pxResetDue (config : Config) (w : World (Recorded Rehearsal)) : Bool :=
  w.tree.has (loadedMark config "amdgpu") && !w.system.system.shows "amdgpu"
    && w.tree.has config.pxScript

/-- What a run on an Intel card alone comes to where there is nothing to bring back. -/
def withoutRestoring (config : Config) (w : World (Recorded Rehearsal)) : Mode :=
  if pxResetDue config w then .powerXpress .reset else .integratedOnly

/-- The signs that PowerXpress is to be reset are there after a completed run if they were there
before. -/
theorem Completed.pxResetDue_eq (h : Completed config w triplet scan c s w') :
    pxResetDue config (reached config triplet s w') = pxResetDue config w := by
  have hu := (h.sees.consultedUnmoved h.separate h.linkFree).trans h.consultedUnmoved
  have hshows : (reached config triplet s w').system.system.shows "amdgpu" =
      w.system.system.shows "amdgpu" := by
    rw [h.drifts.shows_eq h.faithful' (by decide) (by decide) (by decide), h.sees.system]
  unfold pxResetDue
  rw [KernelModule.has_loadedMark hu (by decide), hshows, hasPxScript_unmoved hu]

/-! ## The run that restores -/

/-- A run that comes to PRIME on an Intel card alone, with every effect done, is a completed one
that brings a card back. -/
theorem completed_of_restoring (hc : config.Separate)
    (hsame : config.newSnapshot = config.lastSnapshot) (free : w.tree.LinkFree)
    (hq : Quiet config w) (hf : w.system.system.Faithful)
    (hfound : (findDevices config w.tree).value = .ok scan) (single : scan.devices = [device])
    (intel : device.vendor = Vendor.intel)
    (h : run config Rehearsal.actions.recorded w = (.ok mode, w1)) (hprime : mode.isPrime = true)
    (hdone : NoneFailed config w) :
    ∃ triplet s w' discrete, Completed config w triplet scan (.prime discrete) s w' ∧
      s.policy ≠ .off ∧ w1 = reached config triplet s w' := by
  obtain ⟨triplet, s, w', hprepared⟩ : ∃ triplet s w',
      Prepared config Rehearsal.actions.recorded w triplet s w' := by
    rcases run_cases config Rehearsal.actions.recorded w with ⟨-, hm, -⟩ | ⟨cause, he, -⟩ | hp
    · rw [h] at hm
      cases hm
      cases hprime
    · rw [h] at he
      cases he
    · exact hp
  rw [hprepared.run_eq_reached (hdone _ _ _ hprepared)] at h
  cases h
  obtain ⟨scan', hsees⟩ := hprepared.sees hc.toWritesApart hq free
  cases hfound.symm.trans hsees.found
  have hdevices : s.devices = [device] := hsees.devices.trans single
  have hchoose := Decision.choose_singleIntel hdevices intel
  rw [(Decision.decide_effects s).1, hchoose] at hprime
  obtain ⟨discrete, hrestorable, hmode, heffects⟩ := Decision.restorable_of_isPrime hprime
  obtain ⟨-, -, hpolicy, -, nvidia⟩ := Decision.restorable?_eq_some hrestorable
  refine ⟨triplet, s, w', discrete, ?_, hpolicy, rfl⟩
  exact
    { separate := hc
      oneSnapshot := hsame
      linkFree := free
      quiet := hq
      faithful := hf
      prepared := hprepared
      sees := hsees
      choice := by
        rw [hchoose]
        exact ⟨hmode, heffects⟩
      prime := by
        rintro _ ⟨⟩
        exact ⟨nvidia, .restored device hdevices intel hrestorable⟩
      done := hdone triplet s w' hprepared }

/-- A restoring run that is completed leaves the driver loaded and the offloading marker set. -/
theorem Completed.restored_signs {discrete : Device}
    (h : Completed config w triplet scan (.prime discrete) s w') (live : config.dryRun = false)
    (required : needsOffloading config scan.devices = true) (hp : s.policy ≠ .off) :
    (reached config triplet s w').system.system.shows "nvidia" = true ∧
      neededOffloading config (reached config triplet s w').tree = true := by
  have hrequired : s.requiresOffloading = true := by
    obtain ⟨last, rfl⟩ := h.sees.situation
    rw [value_situationOf]
    exact required
  have hload := h.settled _ (Course.loadModule_mem_goals discrete hp)
  have hmarker := h.settled (.setOffloadingMarker s.requiresOffloading) (by simp [Course.goals])
  refine ⟨hload.driver, ?_⟩
  have hholds := hmarker.file .marker (some (Text.encode markerText)) (by
    simp only [Effect.leaves?, live, hrequired, Bool.false_eq_true, if_false, if_true])
  exact neededOffloading_of_marker hholds

/-! ## The run after it -/

/-- A prepared run on an Intel card alone has nothing to bring back if the NVIDIA driver is
loaded. -/
theorem Sees.mode_eq {w2 : World (Recorded Rehearsal)} (h : Sees config triplet w1 scan s w2)
    (hu : ConsultedUnmoved config w1.tree w2.tree) (single : scan.devices = [device])
    (intel : device.vendor = Vendor.intel) (loaded : w1.system.system.shows "nvidia" = true)
    (needed : neededOffloading config w1.tree = true) :
    (Decision.decide s).mode = withoutRestoring config w1 := by
  have hdrivers := h.drivers
  rw [h.system] at hdrivers
  have hunloaded : s.drivers.nvidiaUnloaded = false := by
    rw [hdrivers]
    simp only [driversOf, loaded, Bool.not_true, Bool.and_false]
  have hneeded : s.offloadingWasRequired = true := by
    obtain ⟨last, rfl⟩ := h.situation
    rw [value_situationOf]
    exact needed
  have hscript : s.pxScriptAvailable = w1.tree.has config.pxScript := by
    obtain ⟨last, rfl⟩ := h.situation
    rw [value_situationOf]
    exact hasPxScript_unmoved hu
  have hamdgpu : s.drivers.amdgpuUnloaded =
      (w1.tree.has (loadedMark config "amdgpu") && !w1.system.system.shows "amdgpu") := by
    rw [hdrivers, ← KernelModule.has_loadedMark hu (by decide)]
    rfl
  rw [(Decision.decide_effects s).1, Decision.choose_singleIntel (h.devices.trans single) intel,
    Decision.singleIntel_of_not_unloaded hunloaded, hneeded, hamdgpu, hscript, Bool.true_and]
  unfold withoutRestoring pxResetDue
  split <;> rfl

/-- A prepared run that decided on a mode without the NVIDIA card comes to it, whatever happens on
the way, and leaves what the mode says of the fragments. -/
theorem Prepared.held {w2 : World (Recorded Rehearsal)}
    (h : Prepared config Rehearsal.actions.recorded w1 triplet s w2) (hc : config.WritesApart)
    (free : w2.tree.LinkFree) (hs : s.SeesFragments config triplet w2.tree)
    (hmode : (Decision.decide s).mode.isPrime = false) :
    (run config Rehearsal.actions.recorded w1).1 = .ok (Decision.decide s).mode ∧
      Held triplet s (fun f => f.bytes? config w2.tree)
        (fun f => f.bytes? config (run config Rehearsal.actions.recorded w1).2.tree)
        (Decision.decide s).mode := by
  have hreached : (execute config Rehearsal.actions.recorded triplet (Decision.decide s) w2).1 =
      (Decision.decide s).mode := by
    rcases carryOutFrom_fragments hc keepsFiles_rehearsed triplet (Decision.decide s).mode
      (Decision.decide s).effects free (isPrime_or_not_enables s) with ⟨hm, -⟩ | ⟨hp, -⟩
    · exact hm
    · rw [hmode] at hp
      cases hp
  have hheld := execute_held hc keepsFiles_rehearsed free hs
  rw [hreached] at hheld
  rw [h.run_eq]
  exact ⟨congrArg Except.ok hreached, hheld⟩

/-- Where nothing is brought back, no mode of PRIME is reached. -/
theorem isPrime_withoutRestoring (config : Config) (w : World (Recorded Rehearsal)) :
    (withoutRestoring config w).isPrime = false := by
  unfold withoutRestoring
  split <;> rfl

/-- A card that was brought back is not kept. After a run on an Intel card alone that restored
PRIME, with every effect done, the next run comes to another mode. It leaves neither fragment,
unless it is to reset PowerXpress: then it leaves them as they are. -/
theorem restored_not_kept (hc : config.Separate) (hsame : config.newSnapshot = config.lastSnapshot)
    (live : config.dryRun = false) (free : w.tree.LinkFree)
    (hup : ∀ names, w.tree.list config.pciDevices = .ok names → ".." ∉ names)
    (hq : Quiet config w) (hf : w.system.system.Faithful)
    (hfound : (findDevices config w.tree).value = .ok scan) (single : scan.devices = [device])
    (intel : device.vendor = Vendor.intel) (required : needsOffloading config scan.devices = true)
    (h : run config Rehearsal.actions.recorded w = (.ok mode, w1)) (hprime : mode.isPrime = true)
    (hdone : NoneFailed config w) :
    (run config Rehearsal.actions.recorded w1).1 = .ok (withoutRestoring config w) ∧
      withoutRestoring config w ≠ mode ∧
        ∀ f : Fragment, f.bytes? config (run config Rehearsal.actions.recorded w1).2.tree =
          if pxResetDue config w then f.bytes? config w1.tree else none := by
  have hw := hc.toWritesApart
  obtain ⟨triplet, s, w', discrete, hcompleted, hpolicy, rfl⟩ :=
    completed_of_restoring hc hsame free hq hf hfound single intel h hprime hdone
  obtain ⟨loaded, needed⟩ := hcompleted.restored_signs live required hpolicy
  obtain ⟨s2, w2, hprepared, hsees, hb⟩ := hcompleted.prepared_again hup
  have hmode : (Decision.decide s2).mode = withoutRestoring config w := by
    rw [hsees.mode_eq (hsees.consultedUnmoved hc hcompleted.reached_linkFree) single intel loaded
      needed]
    unfold withoutRestoring
    rw [hcompleted.pxResetDue_eq]
  have hnot := isPrime_withoutRestoring config w
  obtain ⟨hrun, hheld⟩ := hprepared.held hw hsees.touches.linkFree hsees.seesFragments
    (by rw [hmode]; exact hnot)
  rw [hmode] at hrun hheld
  refine ⟨hrun, fun heq => ?_, fun f => ?_⟩
  · rw [heq, hprime] at hnot
    cases hnot
  · unfold withoutRestoring at hheld
    split at hheld
    next hdue =>
      rw [if_pos hdue]
      exact (congrFun hheld f).trans (Fragment.bytes?_congr hcompleted.reached_linkFree
        hsees.touches.linkFree (hw.descends (.fragment f)) (hb _))
    next hdue =>
      rw [if_neg hdue]
      exact hheld f

/-- The laptop with its NVIDIA card powered off, as earlier boots have left it. -/
def Laptop.poweredOff : World (Recorded Rehearsal) :=
  { tree := ⟨[("m", .dir [("lspci", Laptop.file "8086:3e9b;0000:00:02:0;1\n"),
      ("prime-discrete", Laptop.file "on\n"), ("requires_offloading", Laptop.file "ON\n"),
      ("run", .dir [("u-d-c-gpu-0000:01:00.0-0x10de-0x1f91", Laptop.file ""),
        ("u-d-c-nvidia-was-loaded", Laptop.file "")]),
      ("nvidia-version", Laptop.file "470.57.02\n"), ("cmdline", Laptop.file "quiet\n")])]⟩
    system := { system := { loaded := ["i915"], available := ["nvidia"] } } }

/-- On that laptop a run restores PRIME, and the next one takes it back. -/
theorem restored_not_kept_laptop :
    (run Laptop.config Rehearsal.actions.recorded Laptop.poweredOff).1 = .ok .primeOn ∧
      (run Laptop.config Rehearsal.actions.recorded
        (run Laptop.config Rehearsal.actions.recorded Laptop.poweredOff).2).1 =
          .ok .integratedOnly ∧
      ∀ f : Fragment, f.bytes? Laptop.config (run Laptop.config Rehearsal.actions.recorded
        (run Laptop.config Rehearsal.actions.recorded Laptop.poweredOff).2).2.tree = none := by
  have hmode : (run Laptop.config Rehearsal.actions.recorded Laptop.poweredOff).1 =
      .ok .primeOn := by decide +kernel
  have hrun : run Laptop.config Rehearsal.actions.recorded Laptop.poweredOff =
      (.ok .primeOn, (run Laptop.config Rehearsal.actions.recorded Laptop.poweredOff).2) := by
    rw [← hmode, Prod.eta]
  have hc : Laptop.config.Separate := by decide +kernel
  have free : Laptop.poweredOff.tree.LinkFree := FileTree.linkFree_of_check (by decide +kernel)
  have hlist : (Laptop.poweredOff.tree.list Laptop.config.pciDevices).toOption = none := by
    decide +kernel
  have hq : Quiet Laptop.config Laptop.poweredOff := fun _ program h => by cases h
  have hf : Laptop.poweredOff.system.system.Faithful := by decide +kernel
  have hfound : (findDevices Laptop.config Laptop.poweredOff.tree).value = .ok
      { devices := [⟨Vendor.intel, 0x3e9b, ⟨0, 0, 2, 0⟩, true, .unknown⟩] } := by decide +kernel
  have hdone : NoneFailed Laptop.config Laptop.poweredOff := by decide +kernel
  have hdue : pxResetDue Laptop.config Laptop.poweredOff = false := by decide +kernel
  obtain ⟨hagain, -, hnone⟩ := restored_not_kept hc rfl rfl free
    (fun names h => by rw [h] at hlist; cases hlist) hq hf hfound rfl rfl rfl hrun rfl hdone
  rw [withoutRestoring, hdue] at hagain
  rw [hdue] at hnone
  exact ⟨hmode, hagain, hnone⟩

end Run

end HybridGraphics
