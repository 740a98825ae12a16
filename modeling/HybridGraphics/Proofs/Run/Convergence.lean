import HybridGraphics.Proofs.Run.Completed

/-!
# Runs converge

A run is started at every boot, and whenever it is asked for. With nothing else changing,
a second run should have nothing left to do. `runs_converge` says so of every machine that
does not have exactly one card: once a run had all its effects done, the next one comes to
the same mode, leaves every file as it is, and neither loads nor unloads a module nor ends
a session.

The next run does not decide on the same situation, for the drivers, the policy and the
fragments may be other ones by then. But it finds a machine that takes the same course
(`Completed.follows`), so it aims at nothing that is not settled.
-/

namespace HybridGraphics.Run

open Act (AsksOnly)
open Pci (Device Vendor Scan)
open Rehearsal (Drifts)

variable {config : Config} {triplet : String} {scan : Scan} {c : Course} {s s2 : Situation}
  {w w' w1 w2 : World (Recorded Rehearsal)}

/-! ## What the next run finds -/

/-- Two situations are of the same machine if what is only read is the same in both, and the
drivers are, but for NVIDIA's. -/
theorem Sees.sameMachine (h : Sees config triplet w scan s w') (h2 : Sees config triplet w1 scan s2 w2)
    (hu : ConsultedUnmoved config w'.tree w2.tree)
    (hd : Drifts w'.system.system w2.system.system) (hf : w'.system.system.Faithful)
    (available : "nvidia" ∈ w'.system.system.available) : s.SameMachine s2 := by
  have havailable : w2.system.system.available.contains "nvidia" = true := by
    rw [hd.available]
    simpa using available
  have havailable' : w'.system.system.available.contains "nvidia" = true := by simpa using available
  have hnouveau : w2.system.system.shows "nouveau" = w'.system.system.shows "nouveau" :=
    hd.shows_eq hf (by decide) (by decide) (by decide)
  have hamdgpu : w2.system.system.shows "amdgpu" = w'.system.system.shows "amdgpu" :=
    hd.shows_eq hf (by decide) (by decide) (by decide)
  obtain ⟨last, hs⟩ := h.situation
  obtain ⟨last2, hs2⟩ := h2.situation
  rw [value_situationOf] at hs hs2
  subst hs hs2
  constructor
  case devices => rfl
  case requiresOffloading => rfl
  case driverMajor => exact driverMajor_unmoved hu
  case eligibility => exact eligibilityOf_unmoved hu scan
  case pxScript => exact hasPxScript_unmoved hu
  case nouveau => exact hnouveau
  case blacklisted => exact KernelModule.isBlacklisted_unmoved hu "nvidia"
  case usable => simp only [driversOf, havailable, havailable', Bool.or_true]
  case amdgpu => exact hamdgpu
  case versioned => simp only [driversOf, hamdgpu, hd.versioned]

namespace Completed

/-- The policy that the next run reads is the one that this run went by in the end. -/
theorem policy (h : Completed config w triplet scan c s w') :
    (Policy.read config.policyFile (reached config triplet s w').tree).value = c.policyAfter s := by
  rcases Course.policyAfter_cases s c with hpersist | ⟨hsame, hnone⟩
  · have hholds := (h.settled _ hpersist).file .policy _ rfl
    have hread : (reached config triplet s w').tree.read config.policyFile = .ok _ := hholds
    rw [Policy.value_read, hread]
    exact Policy.ofContent_written _
  · have hbytes := h.bytes?_of_ne fun e he => hnone e (h.mem_goals e he)
    rw [hsame, h.sees.policy]
    exact Policy.read_congr (FileTree.sameAnswer_read_of_bytes? h.linkFree' h.reached_linkFree
      (h.separate.descends .policy) hbytes)

/-- The next run follows: the machine is the same, and the policy is what this run made it. -/
theorem follows (h : Completed config w triplet scan c s w')
    (h2 : Sees config triplet (reached config triplet s w') scan s2 w2)
    (hb : ∀ q, w2.tree.bytes? q = (reached config triplet s w').tree.bytes? q)
    (available : "nvidia" ∈ w.system.system.available) : c.Follows s s2 where
  machine := by
    refine h.sees.sameMachine h2 ?_ ?_ h.faithful' ?_
    · exact h.consultedUnmoved.trans (h2.consultedUnmoved h.separate h.reached_linkFree)
    · rw [h2.system]
      exact h.drifts
    · rw [h.sees.system]
      exact available
  policy := by
    rw [h2.policy, ← h.policy]
    exact Policy.read_congr (FileTree.sameAnswer_read_of_bytes? h.reached_linkFree
      h2.touches.linkFree (h.separate.descends .policy) (hb _))
  loaded := by
    rintro rfl
    have hstill : ∀ e ∈ (Decision.decide s).effects, e.drives = false := by
      intro e he
      have hgoal := h.mem_goals e he
      simp only [Course.goals, List.mem_cons, List.not_mem_nil, or_false] at hgoal
      rcases hgoal with rfl | rfl | rfl <;> rfl
    have hsystem : w2.system.system = w'.system.system :=
      h2.system.trans (attemptAll_still _ _ hstill)
    rw [h2.drivers, h.sees.drivers, hsystem]
    rfl

end Completed

/-! ## The next run -/

/-- A run comes to the mode without changing anything: every file holds what it held, no module
is loaded or unloaded, and no session is ended. -/
structure Stays (config : Config) (w : World (Recorded Rehearsal)) (mode : Mode) : Prop where
  mode_eq : (run config Rehearsal.actions.recorded w).1 = .ok mode
  bytes?_eq : ∀ place,
    (run config Rehearsal.actions.recorded w).2.tree.bytes? place = w.tree.bytes? place
  requests : ∃ new, (run config Rehearsal.actions.recorded w).2.system.requests =
    w.system.requests ++ new ∧ ∀ q ∈ new, q.isDriving = false

/-- A run that is opted out of stays so. -/
theorem stays_of_optedOut (ho : Probe.optedOut config.kernelCommandLine w.tree = true) :
    Stays config w .noAction := by
  obtain ⟨hmode, halike⟩ :
      (run config Rehearsal.actions.recorded w).1 = .ok .noAction ∧ w.Alike _ := run_of_optedOut ho
  refine ⟨hmode, fun place => ?_, [], ?_, fun q hq => by cases hq⟩
  · rw [halike.tree]
  · rw [halike.system, List.append_nil]

/-- A prepared run stays if it found every file as it was, and has only effects that are settled
and drive no module. -/
theorem Prepared.stays (h : Prepared config Rehearsal.actions.recorded w triplet s w')
    (hc : config.WritesApart) (free : w'.tree.LinkFree)
    (hb : ∀ q, w'.tree.bytes? q = w.tree.bytes? q)
    (hsettled : ∀ e ∈ (Decision.decide s).effects, e.Settled config triplet w' ∧ e.drives = false) :
    Stays config w (Decision.decide s).mode := by
  obtain ⟨hmode, hbytes⟩ := carryOutFrom_settled hc (Decision.decide s).mode _ free hsettled
  refine ⟨?_, fun place => ?_, ?_⟩
  · rw [h.run_eq]
    exact congrArg Except.ok hmode
  · rw [h.run_eq]
    exact (hbytes place).trans (hb place)
  · have hR := AsksOnly.frame (σ := Rehearsal) fun q => !q.isDriving
    obtain ⟨asked, hasked, hquestions⟩ := prepare_asks config Rehearsal.actions w
    obtain ⟨more, hmore, hquiet⟩ := execute_keeps hR triplet (d := Decision.decide s)
      (fun f => Act.edits_asksOnly _ (f.file config))
      (fun e he => effectSteps_asksOnly Rehearsal.actions (fun _ _ _ => rfl) (fun _ _ _ => rfl)
        (hsettled e he).2) w'
    rw [h.eq] at hasked
    refine ⟨asked ++ more, ?_, fun q hq => ?_⟩
    · rw [h.run_eq, ← List.append_assoc, ← hasked]
      exact hmore
    · rcases List.mem_append.mp hq with hq | hq
      · have hquestion := hquestions q hq
        cases q <;> first | rfl | cases hquestion
      · simpa using hquiet q hq

/-- After a completed run, the next one stays. -/
theorem Completed.stays (h : Completed config w triplet scan c s w')
    (hup : ∀ names, w.tree.list config.pciDevices = .ok names → ".." ∉ names)
    (available : "nvidia" ∈ w.system.system.available)
    (hcourse : ∀ s', s.SameMachine s' → (Decision.choose s').mode = (c.decision s').mode ∧
      (Decision.choose s').effects = (c.decision s').effects) :
    Stays config (reached config triplet s w') (Decision.decide s).mode := by
  have hc := h.separate.toWritesApart
  obtain ⟨s2, w2, hprepared, hsees, hb⟩ := h.prepared_again hup
  have hfollows := h.follows hsees hb available
  have hchoice := hcourse s2 hfollows.machine
  have hmode : (Decision.decide s2).mode = (Decision.decide s).mode := by
    rw [(Decision.decide_effects s2).1, (Decision.decide_effects s).1, hchoice.1, h.choice.1,
      hfollows.mode_eq]
  rw [← hmode]
  refine hprepared.stays hc hsees.touches.linkFree hb fun e he => ?_
  have hgoal := hfollows.goals_subset ((Course.effects_sublist_goals hchoice).subset he)
  have hsettled : e.Settled config triplet w2 :=
    (h.settled e hgoal).congr hc h.reached_linkFree hsees.touches.linkFree hb hsees.system
  refine ⟨hsettled, Bool.eq_false_iff.mpr fun hd => ?_⟩
  -- an effect on the driver is decided on only where it is not settled
  have hunseen := Course.unseen_of_mem_effects hchoice e he hd
  have hloaded : s2.drivers.nvidiaLoaded = w2.system.system.shows "nvidia" := by
    rw [hsees.drivers]
    rfl
  cases e with
  | loadModule name =>
    cases Course.loadsOnlyNvidia_of_mem_goals hgoal name rfl
    exact hunseen (hloaded.trans hsettled.driver)
  | unloadNvidiaStack => exact hunseen (hloaded.trans hsettled.driver)
  | _ => cases hd

/-! ## The main result -/

/-- Runs converge after one step, unless there is exactly one card: if a run comes to a mode and
none of its effects fails, the next run comes to the same mode and changes nothing. Nothing else
is to change the files: a directory does not list `..`, and the package manager, where it is
asked for the architecture, overwrites none. -/
theorem runs_converge (hc : config.Separate) (hsame : config.newSnapshot = config.lastSnapshot)
    (free : w.tree.LinkFree)
    (hup : ∀ names, w.tree.list config.pciDevices = .ok names → ".." ∉ names)
    (hq : Quiet config w) (hf : w.system.system.Faithful)
    (available : "nvidia" ∈ w.system.system.available)
    (several : ∀ scan, (findDevices config w.tree).value = .ok scan → scan.devices.length ≠ 1)
    {mode : Mode} (h : (run config Rehearsal.actions.recorded w).1 = .ok mode)
    (hdone : NoneFailed config w) :
    Stays config (run config Rehearsal.actions.recorded w).2 mode := by
  rcases run_cases config Rehearsal.actions.recorded w with ⟨ho, hm, halike⟩ | ⟨cause, he, -⟩ |
    ⟨triplet, s, w', hprepared⟩
  · rw [hm] at h
    cases h
    rw [← halike.tree] at ho
    exact stays_of_optedOut ho
  · rw [he] at h
    cases h
  · obtain ⟨scan, hsees⟩ := hprepared.sees hc.toWritesApart hq free
    have hlen : s.devices.length ≠ 1 := by
      rw [hsees.devices]
      exact several scan hsees.found
    obtain ⟨c, hprime, hcourse⟩ := Decision.course s hlen
    have hcompleted : Completed config w triplet scan c s w' :=
      { separate := hc
        oneSnapshot := hsame
        linkFree := free
        quiet := hq
        faithful := hf
        prepared := hprepared
        sees := hsees
        choice := hcourse s (.refl s)
        prime := hprime
        done := hdone triplet s w' hprepared }
    rw [hcompleted.run_eq] at h ⊢
    cases h
    exact hcompleted.stays hup available hcourse

/-- A run on a laptop that is to use its NVIDIA card loads the driver and writes the fragment.
The next run finds both. -/
theorem runs_converge_laptop :
    (run Laptop.config Rehearsal.actions.recorded (Laptop.world "on\n" ["i915"])).1 = .ok .primeOn ∧
      Stays Laptop.config
        (run Laptop.config Rehearsal.actions.recorded (Laptop.world "on\n" ["i915"])).2
        .primeOn := by
  have hmode : (run Laptop.config Rehearsal.actions.recorded (Laptop.world "on\n" ["i915"])).1 =
      .ok .primeOn := by decide +kernel
  have hlist : ((Laptop.tree "on\n").list Laptop.config.pciDevices).toOption = none := by
    decide +kernel
  have hscan : (findDevices Laptop.config (Laptop.tree "on\n")).value.toOption.map
      (·.devices.length) = some 2 := by decide +kernel
  refine ⟨hmode, ?_⟩
  refine runs_converge (by decide +kernel) rfl (FileTree.linkFree_of_check (by decide +kernel)) ?_
    (fun _ program h => by cases h) (by decide +kernel) (by decide) ?_ hmode (by decide +kernel)
  · intro names h
    change (Laptop.tree "on\n").list _ = _ at h
    rw [h] at hlist
    cases hlist
  · intro scan h
    change (findDevices Laptop.config (Laptop.tree "on\n")).value = _ at h
    rw [h] at hscan
    have hlen : scan.devices.length = 2 := Option.some.inj hscan
    omega

end HybridGraphics.Run
