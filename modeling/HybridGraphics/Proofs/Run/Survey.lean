import HybridGraphics.Proofs.Run.Prepare

/-!
# A run up to its cards

The first thing a run learns is which architecture and which cards it is on. `survey` is that
part of a run on its own. It asks nothing of the system but, at most, the package manager's
answer, and a run that cannot be surveyed ends there (`run_of_survey_error`).

A run that was surveyed records its cards next. That is the last thing that can fail: either it
does, or the run is prepared (`Surveyed.run_cases`). In the other direction, every prepared run was
surveyed (`Prepared.surveyed`), so what is known of its situation is known of the cards that this
run found. `Situated` says how the one came about from the other.
-/

namespace HybridGraphics.Run

open Act (Frame Keeps)
open Pci (Device Scan)

variable {σ : Type}

/-! ## The two halves of preparing -/

/-- Finds the architecture and the cards, once no events are pending. -/
def surveySettled (config : Config) : Act σ (Except Error (String × Scan)) := do
  match ← Architecture.triplet config.architecture with
  | .error cause => return .error (.architecture cause)
  | .ok triplet =>
    match ← Act.look (findDevices config) with
    | .error cause => return .error cause
    | .ok scan => return .ok (triplet, scan)

/-- What a run does to find its cards. It yields the library directory that the run goes by and
the cards. -/
def survey (config : Config) : Act σ (Except Error (String × Scan)) := do
  if config.deviceListing.isNone then
    let _ ← Act.look (EventQueue.settled config.eventQueue)
  surveySettled config

/-- What a run does once it has found its cards, until it carries its decision out. -/
def situate (config : Config) (actions : Actions σ) (triplet : String) (scan : Scan) :
    Act σ (Except Error (String × Situation)) := do
  match ← gatherFor config actions triplet scan with
  | .error cause => return .error cause
  | .ok situation =>
    Act.look fun _ => ⟨(), (Decision.decide situation).remarks⟩
    Act.info s!"Selected mode: {(Decision.decide situation).mode.text}"
    return .ok (triplet, situation)

/-- What is made of a survey. -/
def proceed (config : Config) (actions : Actions σ) :
    Except Error (String × Scan) × World σ → Except Error (String × Situation) × World σ
  | (.error cause, w) => (.error cause, w)
  | (.ok (triplet, scan), w) => situate config actions triplet scan w

/-- To prepare a run is to find the cards and go on from there. -/
theorem prepare_eq (config : Config) (actions : Actions σ) (w : World σ) :
    prepare config actions w = proceed config actions (survey config w) := by
  have key : ∀ w : World σ, prepareSettled config actions w =
      proceed config actions (surveySettled config w) := by
    intro w
    simp only [prepareSettled, surveySettled, Act.bind_apply]
    cases (Architecture.triplet config.architecture w).1 with
    | error cause => rfl
    | ok triplet =>
      simp only [Act.bind_apply, gather]
      cases (Act.look (findDevices config) (Architecture.triplet config.architecture w).2).1 with
      | error cause => rfl
      | ok scan => rfl
  unfold prepare survey
  split
  · exact key _
  · exact key w

/-! ## What finding the cards leaves alone -/

/-- Finding the cards keeps what asking the package manager keeps. -/
theorem survey_keeps {R : World σ → World σ → Prop} (hR : Frame R) (config : Config)
    (h : config.architecture = none → Keeps R (Act.call "dpkg" ["--print-architecture"])) :
    Keeps R (survey config : Act σ _) := by
  have hsettled : Keeps R (surveySettled config : Act σ _) := by
    refine (triplet_keeps hR config.architecture h).bind hR fun found => ?_
    cases found with
    | error cause => exact .pure hR _
    | ok triplet =>
      refine (Keeps.look hR _).bind hR fun found => ?_
      cases found with
      | error cause => exact .pure hR _
      | ok scan => exact .pure hR _
  exact .ite ((Keeps.look hR _).bind hR fun _ => hsettled) hsettled

/-- The cards of a survey were found in a tree. -/
theorem findDevices_of_survey {config : Config} {w w1 : World σ} {triplet : String} {scan : Scan}
    (h : survey config w = (.ok (triplet, scan), w1)) :
    ∃ t, (findDevices config t).value = .ok scan := by
  have key : ∀ w : World σ, surveySettled config w = (.ok (triplet, scan), w1) →
      ∃ t, (findDevices config t).value = .ok scan := by
    intro w h
    simp only [surveySettled, Act.bind_apply] at h
    cases hname : (Architecture.triplet config.architecture w).1 with
    | error cause =>
      rw [hname] at h
      cases h
    | ok triplet' =>
      rw [hname] at h
      simp only [Act.bind_apply, Act.value_look] at h
      cases hf : (findDevices config (Architecture.triplet config.architecture w).2.tree).value with
      | error cause =>
        rw [hf] at h
        cases h
      | ok found =>
        rw [hf] at h
        cases h
        exact ⟨_, hf⟩
  unfold survey at h
  split at h
  · exact key _ h
  · exact key w h

/-! ## Runs by their survey -/

/-- A run that was surveyed: it was not opted out of, and found these cards. -/
structure Surveyed (config : Config) (w : World σ) (triplet : String) (scan : Scan)
    (w1 : World σ) : Prop where
  enabled : Probe.optedOut config.kernelCommandLine w.tree = false
  eq : survey config w = (.ok (triplet, scan), w1)

/-- How the situation comes about from the cards, which were found in `w1`: in `w2` they are
recorded, and in `w3` the drivers are asked about. -/
structure Situated (config : Config) (actions : Actions σ) (triplet : String) (scan : Scan)
    (w1 : World σ) (last : List Device × Snapshot.Status) (w2 w3 : World σ) (s : Situation)
    (w' : World σ) : Prop where
  before : w1.Alike w2
  recorded : (recordDevices config scan.devices w2).1 = .ok last
  between : (recordDevices config scan.devices w2).2.Alike w3
  after : (driverStates config actions scan.devices w3).2.Alike w'
  situation : s = (situationOf config triplet scan last (neededOffloading config w1.tree)
    (driverStates config actions scan.devices w3).1 w'.tree).value

variable {config : Config} {actions : Actions σ} {w w1 w' : World σ} {triplet : String}
  {scan : Scan} {s : Situation}

/-- Only recording the cards can fail. -/
theorem situate_cases (config : Config) (actions : Actions σ) (triplet : String) (scan : Scan)
    (w1 : World σ) :
    ∃ w2, w1.Alike w2 ∧
      ((∃ cause, (recordDevices config scan.devices w2).1 = .error cause ∧
          situate config actions triplet scan w1 =
            (.error (.snapshot cause), (recordDevices config scan.devices w2).2)) ∨
        ∃ last w3 s w', Situated config actions triplet scan w1 last w2 w3 s w' ∧
          situate config actions triplet scan w1 = (.ok (triplet, s), w')) := by
  obtain ⟨w2, before, ⟨cause, hr, he⟩ | ⟨last, w3, hr, between, he⟩⟩ :=
    gatherFor_cases config actions triplet scan w1
  · refine ⟨w2, before, .inl ⟨cause, hr, ?_⟩⟩
    simp only [situate, Act.bind_apply, he]
    rfl
  · have after : (driverStates config actions scan.devices w3).2.Alike
        (situate config actions triplet scan w1).2 := by
      have hlook := World.Alike.look (driverStates config actions scan.devices w3).2
        (situationOf config triplet scan last (neededOffloading config w1.tree)
          (driverStates config actions scan.devices w3).1)
      have hgather : gatherDrivers config actions triplet scan last
          (neededOffloading config w1.tree) w3 = (.ok _, _) := rfl
      simp only [situate, Act.bind_apply, he, hgather]
      exact hlook.trans ((World.Alike.look _ _).trans (.info _ _))
    refine ⟨w2, before, .inr ⟨last, w3, _, _, ⟨before, hr, between, after, rfl⟩, ?_⟩⟩
    rw [after.tree]
    simp only [situate, Act.bind_apply, he]
    rfl

/-- A run that cannot be surveyed ends there. -/
theorem run_of_survey_error (ho : Probe.optedOut config.kernelCommandLine w.tree = false)
    {cause : Error} (h : survey config w = (.error cause, w1)) :
    run config actions w = (.error cause, w1) := by
  have hp := prepare_eq config actions w
  rw [h] at hp
  rcases run_cases config actions w with ⟨ho', -⟩ | ⟨cause', -, hrun⟩ | ⟨triplet, s, w', hprepared⟩
  · cases ho.symm.trans ho'
  · unfold run
    simp only [Act.bind_apply, Act.get_apply, ho, Bool.false_eq_true, if_false, runEnabled_eq, hp]
    rfl
  · cases hprepared.eq.symm.trans hp

/-- A surveyed run ends where its cards cannot be recorded, and is prepared otherwise. -/
theorem Surveyed.run_cases (h : Surveyed config w triplet scan w1) (actions : Actions σ) :
    ∃ w2, w1.Alike w2 ∧
      ((∃ cause, (recordDevices config scan.devices w2).1 = .error cause ∧
          run config actions w =
            (.error (.snapshot cause), (recordDevices config scan.devices w2).2)) ∨
        ∃ last w3 s w', Situated config actions triplet scan w1 last w2 w3 s w' ∧
          Prepared config actions w triplet s w') := by
  have hp := prepare_eq config actions w
  rw [h.eq] at hp
  obtain ⟨w2, before, ⟨cause, hr, he⟩ | ⟨last, w3, s, w', hs, he⟩⟩ :=
    situate_cases config actions triplet scan w1
  · refine ⟨w2, before, .inl ⟨cause, hr, ?_⟩⟩
    unfold run
    simp only [Act.bind_apply, Act.get_apply, h.enabled, Bool.false_eq_true, if_false,
      runEnabled_eq, hp, proceed, he]
    rfl
  · exact ⟨w2, before, .inr ⟨last, w3, s, w', hs, h.enabled, hp.trans he⟩⟩

/-- A prepared run was surveyed. -/
theorem Prepared.surveyed (h : Prepared config actions w triplet s w') :
    ∃ scan w1 last w2 w3, Surveyed config w triplet scan w1 ∧
      Situated config actions triplet scan w1 last w2 w3 s w' := by
  have hp := h.eq
  rw [prepare_eq] at hp
  rcases hsurvey : survey config w with ⟨outcome, w1⟩
  rw [hsurvey] at hp
  cases outcome with
  | error cause => cases hp
  | ok found =>
    obtain ⟨triplet', scan⟩ := found
    obtain ⟨w2, -, ⟨cause, -, he⟩ | ⟨last, w3, s', w'', hs, he⟩⟩ :=
      situate_cases config actions triplet' scan w1
    · cases he.symm.trans hp
    · cases he.symm.trans hp
      exact ⟨scan, w1, last, w2, w3, ⟨h.enabled, hsurvey⟩, hs⟩

end HybridGraphics.Run
