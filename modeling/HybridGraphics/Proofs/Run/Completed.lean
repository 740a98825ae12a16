import HybridGraphics.Proofs.Run.FragmentsMatch
import HybridGraphics.Proofs.Run.Rehearsed
import HybridGraphics.Proofs.Run.Settled
import Mathlib.Data.List.Pairwise

/-!
# What a completed run leaves to the next

A run on a rehearsed system is completed if each of its effects was done. Then everything
that it aimed at is settled (`Completed.settled`): what was done is, and what was left out
was seen to be in place, and no other effect is about it. The files that a run only reads
are as they were, and the snapshot holds the cards that were found.

So the next run is prepared in the same way (`Completed.prepared_again`): it finds the
same cards, and preparing it leaves every file as it is.
-/

namespace HybridGraphics.Run

open Pci (Device Vendor Scan)
open Rehearsal (Drifts)

variable {config : Config} {triplet : String} {scan : Scan} {s : Situation}
  {w w' : World (Recorded Rehearsal)}

/-! ## What was seen is settled -/

namespace Sees

theorem devices (h : Sees config triplet w scan s w') : s.devices = scan.devices := by
  obtain ⟨last, rfl⟩ := h.situation
  rw [value_situationOf]

/-- The states of the drivers are those of the system that the situation was gathered on. -/
theorem drivers (h : Sees config triplet w scan s w') :
    s.drivers = driversOf config scan.devices w'.system.system w'.tree := by
  obtain ⟨last, rfl⟩ := h.situation
  rw [value_situationOf]

theorem policy (h : Sees config triplet w scan s w') :
    s.policy = (Policy.read config.policyFile w'.tree).value := by
  obtain ⟨last, rfl⟩ := h.situation
  rw [value_situationOf]

/-- Preparing a run changes nothing that the configuration only reads. -/
theorem consultedUnmoved (h : Sees config triplet w scan s w') (hc : config.Separate)
    (free : w.tree.LinkFree) : ConsultedUnmoved config w.tree w'.tree := by
  intro p hp
  have hapart := hc.apartConsulted p hp
  refine h.touches.unmoved free (hc.descendsConsulted p hp) fun place hm => ?_
  simp only [List.mem_cons, List.not_mem_nil, or_false] at hm
  rcases hm with rfl | rfl
  · exact hapart.2 .snapshot
  · exact hapart.1

/-- The fragments are as they were on disk. -/
theorem seesFragments (h : Sees config triplet w scan s w') :
    s.SeesFragments config triplet w'.tree := by
  obtain ⟨last, rfl⟩ := h.situation
  rw [value_situationOf]
  exact ⟨rfl, rfl, rfl⟩

/-- What was seen to be in place is settled. -/
theorem settled_of_seen (h : Sees config triplet w scan s w') (hc : config.WritesApart)
    (free : w'.tree.LinkFree) {c : Course}
    (hprime : ∀ discrete, c = .prime discrete →
      discrete.vendor = Vendor.nvidia ∧ Decision.PrimeRoute s discrete)
    {e : Effect} (he : e ∈ c.goals s) (hseen : e.Seen s) : e.Settled config triplet w' := by
  have hs := h.seesFragments
  have hloaded : s.drivers.nvidiaLoaded = w'.system.system.shows "nvidia" := by rw [h.drivers]; rfl
  have habsent : ∀ (f : Fragment) (expected : Option (List Char)),
      (Fragment.stateOf expected (w'.tree.readText (f.file config))).isPresent = false →
        w'.tree.Holds (f.file config) none := by
    intro f expected hp
    have hmissing : Fragment.stateOf expected (w'.tree.readText (f.file config)) = .missing := by
      simpa [FragmentState.isPresent] using hp
    exact FileTree.holds_none_of_readText free (hc.descends (.fragment f))
      (Fragment.stateOf_eq_missing_iff.mp hmissing)
  cases e with
  | writeOutputClass device =>
    obtain ⟨nvidia, route⟩ := hprime device (Course.eq_prime_of_writeOutputClass he)
    obtain ⟨text, hread, htext⟩ :=
      Fragment.stateOf_eq_current_iff.mp (hs.outputClass.symm.trans hseen)
    rw [discreteCard_of_prime hs nvidia route] at htext
    cases htext
    refine ⟨fun file content hl => ?_, trivial⟩
    cases hl
    exact FileTree.readText_eq_ok_iff.mp hread
  | writeServerLayout =>
    obtain ⟨text, hread, htext⟩ :=
      Fragment.stateOf_eq_current_iff.mp (hs.serverLayout.symm.trans hseen)
    refine ⟨fun file content hl => ?_, trivial⟩
    cases hl
    rw [Option.some.inj htext]
    exact FileTree.readText_eq_ok_iff.mp hread
  | removeFragment f =>
    refine ⟨fun file content hl => ?_, trivial⟩
    cases hl
    cases f with
    | outputClass =>
      have hseen : s.outputClass.isPresent = false := hseen
      exact habsent .outputClass _ (hs.outputClass ▸ hseen)
    | serverLayout =>
      have hseen : s.serverLayout.isPresent = false := hseen
      exact habsent .serverLayout _ (hs.serverLayout ▸ hseen)
  | loadModule name =>
    cases Course.loadsOnlyNvidia_of_mem_goals he name rfl
    refine ⟨fun file content hl => (by cases hl), ?_⟩
    exact hloaded.symm.trans hseen
  | unloadNvidiaStack =>
    refine ⟨fun file content hl => (by cases hl), ?_⟩
    exact hloaded.symm.trans hseen
  | _ => exact hseen.elim

end Sees

/-! ## Completed runs -/

/-- The world after every effect that was decided on was attempted. -/
def reached (config : Config) (triplet : String) (s : Situation)
    (w : World (Recorded Rehearsal)) : World (Recorded Rehearsal) :=
  attemptAll config Rehearsal.actions.recorded triplet (Decision.decide s).effects w

/-- None of the effects of a run failed. -/
def NoneFailed (config : Config) (w : World (Recorded Rehearsal)) : Prop :=
  ∀ triplet s w', Prepared config Rehearsal.actions.recorded w triplet s w' →
    AllDone config Rehearsal.actions.recorded triplet (Decision.decide s).effects w'

instance (config : Config) (w : World (Recorded Rehearsal)) : Decidable (NoneFailed config w) :=
  match hp : prepare config Rehearsal.actions.recorded w with
  | (.error cause, _) => isTrue fun _ _ _ h => by cases hp.symm.trans h.eq
  | (.ok (triplet, s), w') =>
    decidable_of_iff (Probe.optedOut config.kernelCommandLine w.tree = false →
      AllDone config Rehearsal.actions.recorded triplet (Decision.decide s).effects w') (by
        constructor
        · intro h _ _ _ hprepared
          cases hp.symm.trans hprepared.eq
          exact h hprepared.enabled
        · intro h enabled
          exact h _ _ _ ⟨enabled, hp⟩)

/-- A prepared run whose effects are all done comes to the mode that it decided on. -/
theorem Prepared.run_eq_reached (h : Prepared config Rehearsal.actions.recorded w triplet s w')
    (hdone : AllDone config Rehearsal.actions.recorded triplet (Decision.decide s).effects w') :
    run config Rehearsal.actions.recorded w =
      (.ok (Decision.decide s).mode, reached config triplet s w') := by
  have hexecute : execute config Rehearsal.actions.recorded triplet (Decision.decide s) w' =
      ((Decision.decide s).mode, reached config triplet s w') :=
    carryOutFrom_done (fallBack config) _ _ _ hdone
  rw [h.run_eq, hexecute]

/-- A run that was prepared and had each of its effects done, on a machine that keeps its files
apart and shows which modules are loaded. -/
structure Completed (config : Config) (w : World (Recorded Rehearsal)) (triplet : String)
    (scan : Scan) (c : Course) (s : Situation) (w' : World (Recorded Rehearsal)) : Prop where
  separate : config.Separate
  oneSnapshot : config.newSnapshot = config.lastSnapshot
  linkFree : w.tree.LinkFree
  quiet : Quiet config w
  faithful : w.system.system.Faithful
  prepared : Prepared config Rehearsal.actions.recorded w triplet s w'
  sees : Sees config triplet w scan s w'
  choice : (Decision.choose s).mode = (c.decision s).mode ∧
    (Decision.choose s).effects = (c.decision s).effects
  prime : ∀ discrete, c = .prime discrete →
    discrete.vendor = Vendor.nvidia ∧ Decision.PrimeRoute s discrete
  done : AllDone config Rehearsal.actions.recorded triplet (Decision.decide s).effects w'

namespace Completed

variable {c : Course}

/-- A completed run comes to the mode that was decided on, and to the world in which all was
done. -/
theorem run_eq (h : Completed config w triplet scan c s w') :
    run config Rehearsal.actions.recorded w =
      (.ok (Decision.decide s).mode, reached config triplet s w') :=
  h.prepared.run_eq_reached h.done

/-- Everything done was aimed at. -/
theorem mem_goals (h : Completed config w triplet scan c s w') :
    ∀ e ∈ (Decision.decide s).effects, e ∈ c.goals s :=
  (Course.effects_sublist_goals h.choice).subset

theorem loadsOnlyNvidia (h : Completed config w triplet scan c s w') :
    ∀ e ∈ (Decision.decide s).effects, e.LoadsOnlyNvidia := fun e he =>
  Course.loadsOnlyNvidia_of_mem_goals (h.mem_goals e he)

/-! ### Files -/

theorem linkFree' (h : Completed config w triplet scan c s w') : w'.tree.LinkFree :=
  h.sees.touches.linkFree

/-- Carrying the decision out changes the files that its effects are about, and no others. -/
theorem touches (h : Completed config w triplet scan c s w') :
    w'.tree.Touches ((Decision.decide s).effects.flatMap (Effect.places config))
      (reached config triplet s w').tree :=
  attemptAll_touches h.separate.toWritesApart _ _ h.linkFree'

theorem reached_linkFree (h : Completed config w triplet scan c s w') :
    (reached config triplet s w').tree.LinkFree := h.touches.linkFree

/-- A file that no effect is about is as it was. -/
theorem bytes?_of_ne (h : Completed config w triplet scan c s w') {file : WrittenFile}
    (hf : ∀ e ∈ (Decision.decide s).effects, e.file? ≠ some file) :
    (reached config triplet s w').tree.bytes? (config.pathOf file).place =
      w'.tree.bytes? (config.pathOf file).place := by
  refine h.touches.bytes?_eq _ fun hm => ?_
  obtain ⟨e, he, hm⟩ := List.mem_flatMap.mp hm
  exact hf e he (file?_of_mem_places h.separate.toWritesApart hm)

/-- Whatever the configuration only reads is as it was. -/
theorem consultedUnmoved (h : Completed config w triplet scan c s w') :
    ConsultedUnmoved config w'.tree (reached config triplet s w').tree := by
  intro p hp
  have hapart := h.separate.apartConsulted p hp
  refine h.touches.unmoved h.linkFree' (h.separate.descendsConsulted p hp) fun place hm => ?_
  obtain ⟨e, -, hm⟩ := List.mem_flatMap.mp hm
  obtain ⟨file, -, rfl⟩ := List.mem_map.mp hm
  exact hapart.2 file

/-- The cards are recorded, and the effects leave that alone. -/
theorem snapshot (h : Completed config w triplet scan c s w') :
    (reached config triplet s w').tree.read config.newSnapshot =
      .ok (Text.encode (Snapshot.serialize scan.devices)) := by
  have hbytes := h.bytes?_of_ne fun e _ => Course.file?_ne_snapshot e
  refine (FileTree.sameAnswer_read_of_bytes? h.linkFree' h.reached_linkFree
    h.separate.descendsNew ?_).ok_iff.mp h.sees.snapshot
  rw [h.oneSnapshot]
  exact hbytes

/-! ### The system -/

/-- The table of modules is as reliable when the decision is made as it was at the start. -/
theorem faithful' (h : Completed config w triplet scan c s w') : w'.system.system.Faithful := by
  rw [h.sees.system]
  exact h.faithful

theorem drifts (h : Completed config w triplet scan c s w') :
    Drifts w'.system.system (reached config triplet s w').system.system :=
  attemptAll_drifts _ _ h.loadsOnlyNvidia

theorem programs (h : Completed config w triplet scan c s w') :
    (reached config triplet s w').programs = w.programs :=
  (attemptAll_programs h.separate.toWritesApart _ _).trans h.sees.programs

/-! ### Effects -/

/-- Everything that the run aimed at is settled. -/
theorem settled (h : Completed config w triplet scan c s w') :
    ∀ e ∈ c.goals s, e.Settled config triplet (reached config triplet s w') := by
  intro e he
  have hc := h.separate.toWritesApart
  have hpair := Course.goals_pairwise s c
  by_cases hm : e ∈ (Decision.decide s).effects
  · exact attemptAll_settled hc _ h.linkFree' h.faithful' h.loadsOnlyNvidia
      (hpair.sublist (Course.effects_sublist_goals h.choice)) h.done e hm
  · have hseen := (Course.seen_of_mem_goals h.choice e he).resolve_left hm
    refine attemptAll_keeps_settled hc _ h.linkFree' (fun e' he' => ?_)
      (h.sees.settled_of_seen hc h.linkFree' h.prime he hseen)
    refine hpair.forall he (h.mem_goals e' he') ?_
    rintro rfl
    exact hm he'

/-! ### The next run -/

/-- The next run is prepared as this one was: it finds the same cards, and leaves every file as
it is. -/
theorem prepared_again (h : Completed config w triplet scan c s w')
    (hup : ∀ names, w.tree.list config.pciDevices = .ok names → ".." ∉ names) :
    ∃ s2 w2, Prepared config Rehearsal.actions.recorded (reached config triplet s w') triplet s2 w2 ∧
      Sees config triplet (reached config triplet s w') scan s2 w2 ∧
        ∀ q, w2.tree.bytes? q = (reached config triplet s w').tree.bytes? q := by
  have hc := h.separate.toWritesApart
  have hu := (h.sees.consultedUnmoved h.separate h.linkFree).trans h.consultedUnmoved
  have hq := h.quiet.congr h.programs
  have hsnapshot := h.snapshot
  obtain ⟨s2, w2, hprepared⟩ : ∃ s2 w2, Prepared config Rehearsal.actions.recorded
      (reached config triplet s w') triplet s2 w2 := by
    have hfinds : FindsCards config (reached config triplet s w') triplet scan :=
      { enabled := by
          rw [Probe.optedOut_unmoved hu]
          exact h.prepared.enabled
        quiet := hq
        supported := (triplet_congr h.programs).trans h.sees.architecture
        found := (findDevices_unmoved hu hup).ok_iff.mp h.sees.found }
    refine hfinds.prepared fun w1 halike => ?_
    have free := h.reached_linkFree
    rw [← halike.tree] at free hsnapshot
    rw [h.oneSnapshot] at hsnapshot
    exact ⟨_, recordDevices_ok hc h.oneSnapshot scan.devices free hsnapshot
      (Snapshot.parse_serialize scan.devices)⟩
  obtain ⟨scan2, hsees⟩ := hprepared.sees hc hq h.reached_linkFree
  have hscan : scan2 = scan := by
    have hfound := (findDevices_unmoved hu hup).ok_iff.mp h.sees.found
    rw [hsees.found] at hfound
    cases hfound
    rfl
  subst hscan
  refine ⟨s2, w2, hprepared, hsees, fun q => ?_⟩
  by_cases hplace : q = config.newSnapshot.place
  · have hafter := (FileTree.read_eq_ok_iff hsees.touches.linkFree hc.descendsNew).mp hsees.snapshot
    have hbefore := (FileTree.read_eq_ok_iff h.reached_linkFree hc.descendsNew).mp hsnapshot
    rw [hplace, hafter.2.2, hbefore.2.2]
  · refine hsees.touches.bytes?_eq q ?_
    rw [← h.oneSnapshot]
    simpa using hplace

end Completed

end HybridGraphics.Run
