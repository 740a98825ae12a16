import HybridGraphics.Proofs.Run.Steps

/-!
# A run up to its effects

Before a run does anything to the machine, it gathers the situation and decides on it.
`prepare` is that part of a run on its own, and `run_cases` takes a run apart at its end:
the run was opted out of, or it could not be prepared and changed nothing any more, or it
was, and what follows is carrying the decision out (`Prepared.run_eq`).

`gather_eq_ok` says where the parts of a gathered situation come from, stage by stage: the
cards from the tree that was there first, the last boot's cards from the snapshot, the
drivers from the system after this boot's cards were recorded, everything else from the
tree as it is then.
-/

namespace HybridGraphics

variable {σ : Type}

/-- The worlds agree in all but the report and the calls made. -/
structure World.Alike (w w' : World σ) : Prop where
  tree : w'.tree = w.tree
  programs : w'.programs = w.programs
  system : w'.system = w.system

theorem World.Alike.refl (w : World σ) : w.Alike w := ⟨rfl, rfl, rfl⟩

theorem World.Alike.trans {a b c : World σ} (h : a.Alike b) (h' : b.Alike c) : a.Alike c :=
  ⟨h'.tree.trans h.tree, h'.programs.trans h.programs, h'.system.trans h.system⟩

/-- A line of the report makes no difference. -/
theorem World.Alike.info (w : World σ) (text : String) : w.Alike (Act.info text w).2 :=
  ⟨rfl, rfl, rfl⟩

/-- Nor does looking at the tree. -/
theorem World.Alike.look {α : Type} (w : World σ) (reader : FileTree → Noted α) :
    w.Alike (Act.look reader w).2 := ⟨rfl, rfl, rfl⟩

/-- Being alike is a frame: the report is left out of it. -/
theorem World.Alike.frame : Act.Frame (World.Alike : World σ → World σ → Prop) where
  refl := .refl
  trans := .trans
  report _ _ := ⟨rfl, rfl, rfl⟩

namespace Run

open Pci (Device Vendor Scan)

/-! ## The part before the effects -/

/-- Gathers the situation, once no events are pending, and decides on it. -/
def prepareSettled (config : Config) (actions : Actions σ) :
    Act σ (Except Error (String × Situation)) := do
  match ← Architecture.triplet config.architecture with
  | .error cause => return .error (.architecture cause)
  | .ok triplet =>
    match ← gather config actions triplet with
    | .error cause => return .error cause
    | .ok situation =>
      Act.look fun _ => ⟨(), (Decision.decide situation).remarks⟩
      Act.info s!"Selected mode: {(Decision.decide situation).mode.text}"
      return .ok (triplet, situation)

/-- What a run does before it carries its decision out. It yields the library directory that
the run goes by and the situation that it decided on. -/
def prepare (config : Config) (actions : Actions σ) : Act σ (Except Error (String × Situation)) := do
  if config.deviceListing.isNone then
    let _ ← Act.look (EventQueue.settled config.eventQueue)
  prepareSettled config actions

/-- Preparing a run keeps what gathering and asking the package manager keep. -/
theorem prepare_keeps {R : World σ → World σ → Prop} (hR : Act.Frame R) {config : Config}
    {actions : Actions σ} (h : GatherSteps R config actions)
    (hcall : config.architecture = none →
      Act.Keeps R (Act.call "dpkg" ["--print-architecture"])) :
    Act.Keeps R (prepare config actions) := by
  have hsettled : Act.Keeps R (prepareSettled config actions) := by
    refine (triplet_keeps hR config.architecture hcall).bind hR fun found => ?_
    cases found with
    | error cause => exact .pure hR _
    | ok triplet =>
      refine (gather_keeps hR h triplet).bind hR fun gathered => ?_
      cases gathered with
      | error cause => exact .pure hR _
      | ok s =>
        exact (Act.Keeps.look hR _).bind hR fun _ =>
          (Act.Keeps.note hR _ _).bind hR fun _ => .pure hR _
  exact .ite ((Act.Keeps.look hR _).bind hR fun _ => hsettled) hsettled

/-- What is made of a prepared run. -/
def conclude (config : Config) (actions : Actions σ) :
    Except Error (String × Situation) × World σ → Except Error Mode × World σ
  | (.error cause, w) => (.error cause, w)
  | (.ok (triplet, s), w) =>
    let (mode, after) := execute config actions triplet (Decision.decide s) w
    (.ok mode, after)

/-- A run that is not opted out of is what it prepares, and then its effects. -/
theorem runEnabled_eq (config : Config) (actions : Actions σ) (w : World σ) :
    runEnabled config actions w = conclude config actions (prepare config actions w) := by
  have key : ∀ w : World σ,
      (do
        match ← Architecture.triplet config.architecture with
        | .error cause => return .error (.architecture cause)
        | .ok triplet =>
          match ← gather config actions triplet with
          | .error cause => return .error cause
          | .ok situation => return .ok (← arbitrate config actions triplet situation)
        : Act σ (Except Error Mode)) w =
      conclude config actions (prepareSettled config actions w) := by
    intro w
    simp only [prepareSettled, Act.bind_apply]
    cases (Architecture.triplet config.architecture w).1 with
    | error cause => rfl
    | ok triplet =>
      simp only [Act.bind_apply]
      cases (gather config actions triplet (Architecture.triplet config.architecture w).2).1 with
      | error cause => rfl
      | ok s => rfl
  unfold runEnabled prepare
  split
  · exact key _
  · exact key w

/-- A run that was prepared, from one world to another: it found the situation, and its
effects are what comes next. -/
structure Prepared (config : Config) (actions : Actions σ) (w : World σ) (triplet : String)
    (s : Situation) (w' : World σ) : Prop where
  enabled : Probe.optedOut config.kernelCommandLine w.tree = false
  eq : prepare config actions w = (.ok (triplet, s), w')

variable {config : Config} {actions : Actions σ} {w w' : World σ} {triplet : String}
  {s : Situation}

/-- A prepared run ends with its effects. -/
theorem Prepared.run_eq (h : Prepared config actions w triplet s w') :
    run config actions w =
      (.ok (execute config actions triplet (Decision.decide s) w').1,
        (execute config actions triplet (Decision.decide s) w').2) := by
  have hrun : run config actions w = runEnabled config actions w := by
    unfold run
    simp only [Act.bind_apply, Act.get_apply, h.enabled, Bool.false_eq_true, if_false]
  rw [hrun, runEnabled_eq, h.eq]
  rfl

/-- A run that is opted out of changes nothing. -/
theorem run_of_optedOut (ho : Probe.optedOut config.kernelCommandLine w.tree = true) :
    (run config actions w).1 = .ok .noAction ∧ w.Alike (run config actions w).2 := by
  unfold run
  simp only [Act.bind_apply, Act.get_apply, ho, if_true]
  exact ⟨rfl, ⟨rfl, rfl, rfl⟩⟩

/-- Every run was opted out of, or could not be prepared and ended there, or was prepared. -/
theorem run_cases (config : Config) (actions : Actions σ) (w : World σ) :
    (Probe.optedOut config.kernelCommandLine w.tree = true ∧
        (run config actions w).1 = .ok .noAction ∧ w.Alike (run config actions w).2) ∨
      (∃ cause, (run config actions w).1 = .error cause ∧
        run config actions w = (.error cause, (prepare config actions w).2)) ∨
      ∃ triplet s w', Prepared config actions w triplet s w' := by
  cases ho : Probe.optedOut config.kernelCommandLine w.tree with
  | true => exact .inl ⟨rfl, run_of_optedOut ho⟩
  | false =>
    refine .inr ?_
    rcases hp : prepare config actions w with ⟨outcome, w'⟩
    cases outcome with
    | ok found => exact .inr ⟨found.1, found.2, w', ho, hp⟩
    | error cause =>
      have hrun : run config actions w = (.error cause, w') := by
        have h := runEnabled_eq config actions w
        rw [hp] at h
        unfold run
        simp only [Act.bind_apply, Act.get_apply, ho, Bool.false_eq_true, if_false]
        exact h
      exact .inl ⟨cause, by rw [hrun], hrun⟩

/-! ## Where the situation comes from -/

/-- The stages of gathering a situation: `w1` is where this boot's cards are recorded, and
`w2` where the drivers are asked about. -/
structure Gathered (config : Config) (actions : Actions σ) (triplet : String) (w : World σ)
    (s : Situation) (w' : World σ) (scan : Scan) (last : List Device × Snapshot.Status)
    (w1 w2 : World σ) : Prop where
  found : (findDevices config w.tree).value = .ok scan
  before : w.Alike w1
  recorded : (recordDevices config scan.devices w1).1 = .ok last
  between : (recordDevices config scan.devices w1).2.Alike w2
  after : (driverStates config actions scan.devices w2).2.Alike w'
  situation : s = (situationOf config triplet scan last (neededOffloading config w.tree)
    (driverStates config actions scan.devices w2).1 w'.tree).value

/-- What is left to gather once this boot's cards are recorded. -/
def gatherDrivers (config : Config) (actions : Actions σ) (triplet : String) (scan : Scan)
    (last : List Device × Snapshot.Status) (offloadingWasRequired : Bool) :
    Act σ (Except Error Situation) := do
  let drivers ← driverStates config actions scan.devices
  return .ok (← Act.look (situationOf config triplet scan last offloadingWasRequired drivers))

/-- Once the cards are found, they are recorded: `w1` is where. If that fails, the run ends
there. -/
theorem gatherFor_cases (config : Config) (actions : Actions σ) (triplet : String) (scan : Scan)
    (w : World σ) :
    ∃ w1, w.Alike w1 ∧
      ((∃ cause, (recordDevices config scan.devices w1).1 = .error cause ∧
          gatherFor config actions triplet scan w =
            (.error (.snapshot cause), (recordDevices config scan.devices w1).2)) ∨
        ∃ last w2, (recordDevices config scan.devices w1).1 = .ok last ∧
          (recordDevices config scan.devices w1).2.Alike w2 ∧
          gatherFor config actions triplet scan w =
            gatherDrivers config actions triplet scan last (neededOffloading config w.tree) w2) := by
  unfold gatherFor
  simp only [Act.bind_apply, Act.get_apply]
  have hreport := reportDevices_keeps World.Alike.frame scan.devices w
  have before : w.Alike (Act.info
      s!"Does it require offloading? {yesNo (needsOffloading config scan.devices)}"
      (reportDevices scan.devices w).2).2 := hreport.trans (.info _ _)
  generalize (Act.info
    s!"Does it require offloading? {yesNo (needsOffloading config scan.devices)}"
    (reportDevices scan.devices w).2).2 = w1 at before ⊢
  refine ⟨w1, before, ?_⟩
  rw [before.tree]
  cases hr : (recordDevices config scan.devices w1).1 with
  | error cause => exact .inl ⟨cause, rfl, rfl⟩
  | ok last =>
    simp only
    -- two ways lead to the drivers: a first boot has one more line in the report
    split
    next => exact .inr ⟨last, _, rfl, (World.Alike.info _ _).trans (.info _ _), rfl⟩
    next => exact .inr ⟨last, _, rfl, .info _ _, rfl⟩

/-- A situation that was gathered went through all the stages. -/
theorem gather_eq_ok (h : gather config actions triplet w = (.ok s, w')) :
    ∃ scan last w1 w2, Gathered config actions triplet w s w' scan last w1 w2 := by
  unfold gather at h
  rw [Act.bind_apply] at h
  cases hf : (findDevices config w.tree).value with
  | error cause =>
    rw [Act.value_look, hf] at h
    cases h
  | ok scan =>
    rw [Act.value_look, hf] at h
    have hlook := World.Alike.look w (findDevices config)
    obtain ⟨w1, before, ⟨cause, -, he⟩ | ⟨last, w2, hr, between, he⟩⟩ :=
      gatherFor_cases config actions triplet scan (Act.look (findDevices config) w).2
    · cases he.symm.trans h
    · cases he.symm.trans h
      exact ⟨scan, last, w1, w2, hf, hlook.trans before, hr, between, .look _ _, rfl⟩

/-- What a prepared run went through: the architecture, and then the stages of gathering. -/
theorem Prepared.gathered (h : Prepared config actions w triplet s w') :
    ∃ w0 w3, w.Alike w0 ∧ (Architecture.triplet config.architecture w0).1 = .ok triplet ∧
      gather config actions triplet (Architecture.triplet config.architecture w0).2 = (.ok s, w3) ∧
        w3.Alike w' := by
  have key : ∀ w0, prepareSettled config actions w0 = (.ok (triplet, s), w') →
      ∃ w3, (Architecture.triplet config.architecture w0).1 = .ok triplet ∧
        gather config actions triplet (Architecture.triplet config.architecture w0).2 =
          (.ok s, w3) ∧ w3.Alike w' := by
    intro w0 hp
    simp only [prepareSettled, Act.bind_apply] at hp
    cases ht : (Architecture.triplet config.architecture w0).1 with
    | error cause =>
      rw [ht] at hp
      cases hp
    | ok found =>
      rw [ht] at hp
      simp only [Act.bind_apply] at hp
      rcases hg : gather config actions found (Architecture.triplet config.architecture w0).2
        with ⟨outcome, w3⟩
      rw [hg] at hp
      cases outcome with
      | error cause => cases hp
      | ok situation =>
        cases hp
        exact ⟨w3, rfl, hg, rfl, rfl, rfl⟩
  have heq := h.eq
  unfold prepare at heq
  split at heq
  next =>
    rw [Act.bind_apply] at heq
    have hlook := World.Alike.look w (EventQueue.settled config.eventQueue)
    obtain ⟨w3, h1⟩ := key _ heq
    exact ⟨_, w3, hlook, h1⟩
  next =>
    obtain ⟨w3, h1⟩ := key w heq
    exact ⟨w, w3, .refl w, h1⟩

/-! ## What the situation says -/

/-- The card that has left the bus, if a single one was scanned. -/
def residualOf (config : Config) (devices : List Device) (t : FileTree) : Option Device :=
  if devices.length = 1 then KernelModule.residualCard config Vendor.nvidia t else none

/-- Whether runtime D3 may be used for the card that PRIME is about. -/
def eligibilityOf (config : Config) (scan : Scan) (t : FileTree) : Eligibility :=
  match discreteCard scan.devices (residualOf config scan.devices t) with
  | some d =>
    (RuntimePm.resolve config (driverMajor config t) d.address d.model
      (scan.capabilityOf d.address) t).value
  | none => {}

/-- The situation without the report on it, part by part. -/
theorem value_situationOf (config : Config) (triplet : String) (scan : Scan)
    (last : List Device × Snapshot.Status) (offloadingWasRequired : Bool)
    (drivers : DriverStates) (t : FileTree) :
    (situationOf config triplet scan last offloadingWasRequired drivers t).value =
      { devices := scan.devices
        hasChanged := Snapshot.differs last.1 scan.devices
        firstBoot := last.2 == .created
        lastBootHadIntel := hasVendor Vendor.intel last.1
        requiresOffloading := needsOffloading config scan.devices
        offloadingWasRequired
        policy := (Policy.read config.policyFile t).value
        driverMajor := driverMajor config t
        drivers
        outputClass := Fragment.stateOf
          ((discreteCard scan.devices (residualOf config scan.devices t)).map
            (Fragment.outputClassText triplet))
          (t.readText (Fragment.outputClass.file config))
        serverLayout := Fragment.stateOf (some Fragment.serverLayoutText)
          (t.readText (Fragment.serverLayout.file config))
        eligibility := eligibilityOf config scan t
        residualDiscrete := residualOf config scan.devices t
        pxScriptAvailable := t.has config.pxScript } := by
  unfold situationOf eligibilityOf residualOf
  generalize (if scan.devices.length = 1 then
    KernelModule.residualCard config Vendor.nvidia t else none) = residual
  simp only [Noted.value_bind]
  -- the report depends on what is known, the situation does not
  cases discreteCard scan.devices residual <;> cases driverMajor config t <;>
    simp only [Noted.value_bind, Noted.value_pure, Fragment.outputClassState,
      Fragment.serverLayoutState, Fragment.value_state]

/-- What a prepared run decided on is what its tree says, with the cards and the drivers that
were found. -/
theorem Prepared.situation_eq (h : Prepared config actions w triplet s w') :
    ∃ scan last offloadingWasRequired drivers,
      s = (situationOf config triplet scan last offloadingWasRequired drivers w'.tree).value := by
  obtain ⟨w0, w3, -, -, hg, halike⟩ := h.gathered
  obtain ⟨scan, last, w1, w2, hstages⟩ := gather_eq_ok hg
  exact ⟨scan, last, _, _, halike.tree ▸ hstages.situation⟩

end Run

end HybridGraphics
