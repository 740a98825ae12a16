import HybridGraphics.Proofs.Run.FailedRun
import HybridGraphics.Proofs.Run.Leaves
import HybridGraphics.Proofs.Run.SelectedCard

/-!
# The footprint of a run

`run_keeps_to_footprint` says what a run may do to the files of a machine: which ones it may change,
and what has to hold for it. It covers every way for a run to end and for its effects to fail.

Files change at two times. Recording the cards writes the snapshots and nothing else
(`Prepared.bytes?`). Carrying a decision out leaves, wherever a file differs, what one of the
effects leaves in its file, or a fragment that the fall back took away (`execute_changesTo`). So a
file that differs in the end is traced back to the effect that is to blame (`changes_cases`), and an
effect to the situation that it was decided on.
-/

namespace HybridGraphics

open Act (Frame Keeps TouchesOnly)

variable {σ : Type}

/-- Leaving files and programs as they are is a frame. -/
theorem Act.KeepsFiles.frame : Frame fun w w' : World σ =>
    w'.tree = w.tree ∧ w'.programs = w.programs where
  refl _ := ⟨rfl, rfl⟩
  trans h h' := ⟨h'.1.trans h.1, h'.2.trans h.2⟩
  report _ _ := ⟨rfl, rfl⟩

/-! ## Changes to allowed contents -/

/-- Each file that differs is in an allowed place and holds what is allowed there. -/
def Act.ChangesTo (allowed : List FileName → Option Bytes → Prop) (w w' : World σ) : Prop :=
  w.tree.LinkFree → w'.tree.LinkFree ∧
    ∀ place, w'.tree.bytes? place = w.tree.bytes? place ∨ allowed place (w'.tree.bytes? place)

namespace Act.ChangesTo

variable {allowed : List FileName → Option Bytes → Prop}

/-- Changes to allowed contents can be chained: what a file holds last is allowed, or what it held
at first. -/
theorem frame (allowed : List FileName → Option Bytes → Prop) :
    Frame (ChangesTo allowed : World σ → World σ → Prop) where
  refl _ free := ⟨free, fun _ => .inl rfl⟩
  trans h h' free := by
    obtain ⟨free', hab⟩ := h free
    obtain ⟨free'', hbc⟩ := h' free'
    refine ⟨free'', fun place => ?_⟩
    rcases hbc place with hsame | hallowed
    · rw [hsame]
      exact hab place
    · exact .inr hallowed
  report _ _ free := ⟨free, fun _ => .inl rfl⟩

/-- Where anything is allowed in the places that are touched, all changes are. -/
theorem of_touchesOnly {places : List (List FileName)} {w w' : World σ}
    (h : TouchesOnly places w w') (hallowed : ∀ place ∈ places, ∀ content, allowed place content) :
    ChangesTo allowed w w' := by
  intro free
  have ht := h.2 free
  refine ⟨ht.linkFree, fun place => ?_⟩
  by_cases hp : place ∈ places
  · exact .inr (hallowed place hp _)
  · exact .inl (ht.bytes?_eq place hp)

end Act.ChangesTo

namespace Run

open Act (AsksOnly ChangesTo)
open Pci (Device Scan)

variable {config : Config} {actions : Actions σ} {triplet : String} {w w' : World σ}

/-! ## Effects -/

/-- What carrying effects out may leave: anything in place of the fragments, and elsewhere what one
of the effects leaves in its file. -/
def MayLeave (config : Config) (triplet : String) (effects : List Effect) (place : List FileName)
    (content : Option Bytes) : Prop :=
  (∃ f : Fragment, place = (f.file config).place) ∨
    ∃ e ∈ effects, ∃ file, e.leaves? config triplet = some (file, content) ∧
      place = (config.pathOf file).place

/-- An attempt at one of the effects leaves in its file what it is to leave, or what was there. -/
theorem attempt_changesTo (hc : config.WritesApart) (ha : actions.KeepsFiles) (triplet : String)
    {effects : List Effect} {e : Effect} (he : e ∈ effects) :
    Keeps (ChangesTo (MayLeave config triplet effects)) (attempt config actions triplet e) := by
  intro w free
  have ht := (attempt_touches hc ha triplet e w).2 free
  refine ⟨ht.linkFree, fun place => ?_⟩
  rw [(attempt_eq triplet e w).1] at ht ⊢
  cases hl : e.leaves? config triplet with
  | none => exact .inl (apply_bytes?_of_none hc ha hl free place)
  | some leaves =>
    obtain ⟨file, content⟩ := leaves
    by_cases hp : place = (config.pathOf file).place
    · subst hp
      rcases (apply_leaves hc ha hl w free).1 with hsame | hleft
      · exact .inl hsame
      · rw [hleft]
        exact .inr (.inr ⟨e, he, file, hl, rfl⟩)
    · refine .inl (ht.bytes?_eq place fun hm => hp ?_)
      rw [Effect.places, file?_of_leaves? hl] at hm
      exact List.mem_singleton.mp hm

/-- So does carrying all of them out, and falling back is about the fragments alone. -/
theorem execute_changesTo (hc : config.WritesApart) (ha : actions.KeepsFiles) (triplet : String)
    (d : Decision) :
    Keeps (ChangesTo (MayLeave config triplet d.effects)) (execute config actions triplet d) := by
  have hR := ChangesTo.frame (σ := σ) (MayLeave config triplet d.effects)
  have hfall := fallBack_keeps hR fun f => (edits_pathOf hc (.fragment f)).mono fun h =>
    ChangesTo.of_touchesOnly h fun place hp _ => .inl ⟨f, List.mem_singleton.mp hp⟩
  exact carryOutFrom_keeps hR hfall d.mode d.effects d.mode
    fun e he => attempt_changesTo hc ha triplet he

/-! ## Recording the cards -/

/-- Recording the cards writes the snapshots, and that of the last boot only where it is missing. -/
theorem recordDevices_bytes? (hc : config.WritesApart) (free : w.tree.LinkFree)
    (devices : List Device) {place : List FileName}
    (hchanged : (recordDevices config devices w).2.tree.bytes? place ≠ w.tree.bytes? place) :
    place = config.newSnapshot.place ∨
      place = config.lastSnapshot.place ∧ w.tree.read config.lastSnapshot = .error .notFound := by
  have down : config.lastSnapshot.Descends := hc.descends .snapshot
  have hfree := ((load_keeps (TouchesOnly.frame _)
    (Act.edits_touchesOnly (σ := σ) down).write w).2 free).linkFree
  have hleaves := Snapshot.load_leaves config.lastSnapshot w
  -- unless it is in place of this boot's snapshot, the file differs once the last boot's was read
  by_cases hnew : place = config.newSnapshot.place
  · exact .inl hnew
  have hload : (recordDevices config devices w).2.tree.bytes? place =
      (Snapshot.load config.lastSnapshot w).2.tree.bytes? place := by
    rcases recordDevices_eq config devices w with ⟨cause, -, hr⟩ | ⟨last, w1, heq, -, hr⟩
    · rw [hr]
    · rw [hr, (Snapshot.save_eq config.newSnapshot devices w1).2, heq]
      rw [heq] at hfree
      have ht := (FileTree.writeWithParents_spec hfree hc.descendsNew
        (Text.encode (Snapshot.serialize devices))).1
      exact ht.bytes?_eq place fun hm => hnew (List.mem_singleton.mp hm)
  rw [hload] at hchanged
  rcases hleaves with hgains | ⟨-, hcreated⟩
  · exact absurd (hgains.bytes?_eq place) hchanged
  · obtain ⟨found, hwritten, -⟩ := hcreated.there
    have hfound := FileTree.locate_eq hfree down hwritten.located
    by_cases hlast : place = found
    · exact .inr ⟨hlast.trans hfound, hcreated.missing⟩
    · exact absurd (hwritten.others place hlast) hchanged

/-- How a prepared run came by its situation: it found the cards in the tree that it started in and
recorded them, and what that left is the tree that it looked at and carries its decision out in. -/
theorem Prepared.recording {s : Situation} (h : Prepared config actions w triplet s w')
    (hq : Quiet config w) (ha : actions.KeepsFiles) :
    ∃ scan last drivers w1, w.Alike w1 ∧ (findDevices config w.tree).value = .ok scan ∧
      (recordDevices config scan.devices w1).1 = .ok last ∧
      w'.tree = (recordDevices config scan.devices w1).2.tree ∧
      s = (situationOf config triplet scan last (neededOffloading config w.tree) drivers
        w'.tree).value := by
  obtain ⟨w0, w3, h0, -, hgather, h3⟩ := h.gathered
  have hstart := h0.trans (triplet_alike (hq.congr h0.programs))
  generalize (Architecture.triplet config.architecture w0).2 = wa at hgather hstart
  obtain ⟨scan, last, w1, w2, hstages⟩ := gather_eq_ok hgather
  have hsteps : DriverSteps (fun w w' : World σ => w'.tree = w.tree ∧ w'.programs = w.programs)
      actions := ⟨ha.listing, ha.available, ha.versioned⟩
  have hdrivers : (driverStates config actions scan.devices w2).2.tree = w2.tree ∧ _ :=
    driverStates_keeps Act.KeepsFiles.frame hsteps scan.devices w2
  have htree : w'.tree = (recordDevices config scan.devices w1).2.tree := by
    rw [h3.tree, hstages.after.tree, hdrivers.1, hstages.between.tree]
  refine ⟨scan, last, (driverStates config actions scan.devices w2).1, w1,
    hstart.trans hstages.before, ?_, hstages.recorded, htree, ?_⟩
  · rw [← hstart.tree]
    exact hstages.found
  · rw [h3.tree, ← hstart.tree]
    exact hstages.situation

/-- Before its effects, a run has changed the snapshots at most. -/
theorem Prepared.bytes? {s : Situation} (h : Prepared config actions w triplet s w')
    (hc : config.WritesApart) (ha : actions.KeepsFiles) (hq : Quiet config w)
    (free : w.tree.LinkFree) {place : List FileName}
    (hchanged : w'.tree.bytes? place ≠ w.tree.bytes? place) :
    place = config.newSnapshot.place ∨
      place = config.lastSnapshot.place ∧ w.tree.read config.lastSnapshot = .error .notFound := by
  obtain ⟨scan, last, drivers, w1, halike, -, -, htree, -⟩ := h.recording hq ha
  rw [htree, ← halike.tree] at hchanged
  rw [← halike.tree] at free ⊢
  exact recordDevices_bytes? hc free scan.devices hchanged

/-- A file that the run writes, but for the snapshots, reads as it did when the run began. -/
theorem Prepared.sameAnswer_read {s : Situation} (h : Prepared config actions w triplet s w')
    (hc : config.WritesApart) (ha : actions.KeepsFiles) (hq : Quiet config w)
    (free : w.tree.LinkFree) {file : WrittenFile} (hfile : file ≠ .snapshot) :
    SameAnswer (w.tree.read (config.pathOf file)) (w'.tree.read (config.pathOf file)) := by
  refine FileTree.sameAnswer_read_of_bytes? free (h.linkFree_and_dirAt hc ha free).1
    (hc.descends file) ?_
  by_contra hne
  rcases h.bytes? hc ha hq free hne with hnew | ⟨hlast, -⟩
  · exact (hc.apart_newSnapshot hfile).ne hnew.symm
  · exact (hc.apart file .snapshot hfile).ne hlast

/-- A run that does not end on the integrated card alone ends in the mode that it decided on. -/
theorem Prepared.mode_eq {s : Situation} (h : Prepared config actions w triplet s w') {mode : Mode}
    (hmode : (run config actions w).1 = .ok mode) (hne : mode ≠ .integratedOnly) :
    (Decision.decide s).mode = mode := by
  rw [h.run_eq] at hmode
  cases hmode
  rcases carryOutFrom_mode (attempt config actions triplet) (fallBack config)
    (Decision.decide s).mode (Decision.decide s).effects (Decision.decide s).mode w' with hm | hm
  · exact hm.symm
  · exact absurd hm hne

/-! ## What each effect is allowed -/

open Decision (decide)

variable {s : Situation} {content : Option Bytes}

/-- In place of a file that is no fragment, carrying effects out leaves what one of them leaves in
that file. -/
theorem MayLeave.effect (hc : config.WritesApart) {effects : List Effect} {file : WrittenFile}
    (h : MayLeave config triplet effects (config.pathOf file).place content)
    (hfile : ∀ f, file ≠ .fragment f) :
    ∃ e ∈ effects, e.leaves? config triplet = some (file, content) := by
  rcases h with ⟨f, hplace⟩ | ⟨e, he, other, hl, hplace⟩
  · exact absurd hplace (hc.apart file (.fragment f) (hfile f)).ne
  · by_cases hother : other = file
    · exact ⟨e, he, hother ▸ hl⟩
    · exact absurd hplace.symm (hc.apart other file hother).ne

/-- What a decision may leave in the policy file. -/
theorem policy_of_leaves? {e : Effect} (he : e ∈ (decide s).effects)
    (hl : e.leaves? config triplet = some (.policy, content)) :
    s.policy = .onDemand ∧ s.onDemandCapable = false ∧ (decide s).mode = .primeOn ∧
      content = some (Text.encode "on\n".toList) := by
  cases e with
  | persistPolicy policy =>
    obtain ⟨rfl, hdemand, hcapable, hmode⟩ := Decision.persistPolicy_of_mem he
    cases hl
    exact ⟨hdemand, hcapable, hmode, rfl⟩
  | _ => cases file?_of_leaves? hl

/-- What a decision may leave in the snippet, if not to remove it. -/
theorem snippet_of_leaves? {e : Effect} (he : e ∈ (decide s).effects) {bytes : Bytes}
    (hl : e.leaves? config triplet = some (.runtimePmSnippet, some bytes)) :
    s.eligibility.supported = true ∧ s.eligibility.currentlyEnabled = false ∧
      bytes = Text.encode RuntimePm.driverOption.toList := by
  cases e with
  | setRuntimePm device enabled eligibility onBus =>
    obtain ⟨-, -, heffect⟩ := Decision.primeEffect_of_mem he rfl
    have heligible : eligibility = s.eligibility := by
      rcases heffect with heffect | ⟨_, heffect⟩ <;> cases heffect
      rfl
    simp only [Effect.leaves?] at hl
    split at hl
    next =>
      split at hl
      next hs =>
        cases hl
        rw [Bool.and_eq_true, Bool.not_eq_true', heligible] at hs
        exact ⟨hs.1, hs.2, rfl⟩
      next => cases hl
    next => cases hl
  | _ => cases file?_of_leaves? hl

/-- A decision to take no action has no effects. -/
theorem effects_of_noAction (h : (decide s).mode = .noAction) : (decide s).effects = [] := by
  obtain ⟨hmode, heffects⟩ := Decision.decide_effects s
  rw [hmode] at h
  rw [heffects, h, if_pos rfl, List.append_nil]
  have hchosen := Decision.chosen s
  generalize (Decision.choose s).mode = mode at hchosen h
  generalize (Decision.choose s).effects = effects at hchosen ⊢
  cases hchosen with
  | nothing few => rfl
  | prime discrete nvidia route =>
    exact absurd h (Course.mode_ne_noAction s (c := .prime discrete) (by simp))
  | muxed several => exact absurd h (Course.mode_ne_noAction s (c := .muxed) (by simp))
  | _ => cases h

/-! ## The main result -/

/-- A file differs after the run. -/
def Changes (config : Config) (actions : Actions σ) (w : World σ) (place : List FileName) : Prop :=
  (run config actions w).2.tree.bytes? place ≠ w.tree.bytes? place

/-- What a run may do to the files, and what it asks of the system where it takes no action. -/
structure Footprint (config : Config) (actions : Actions σ) (w : World (Recorded σ)) : Prop where
  /-- Only the run's own files differ. The snapshot of the last boot does only if it was missing,
  unless it is the one of this boot. -/
  places : ∀ place, Changes config actions.recorded w place →
    place = config.newSnapshot.place ∨
      place = config.lastSnapshot.place ∧ w.tree.read config.lastSnapshot = .error .notFound ∨
        ∃ file, file ≠ .snapshot ∧ place = (config.pathOf file).place
  /-- The policy is changed to `on` and nothing else, and that only if it was read to be PRIME on
  demand, the driver is known to be too old for that, and PRIME was decided on. -/
  policy : Changes config actions.recorded w config.policyFile.place →
    (run config actions.recorded w).2.tree.bytes? config.policyFile.place =
        some (Text.encode "on\n".toList) ∧
      (Policy.read config.policyFile w.tree).value = .onDemand ∧
        ∃ triplet s w', Prepared config actions.recorded w triplet s w' ∧ s.policy = .onDemand ∧
          (∃ major, s.driverMajor = some major ∧ major < onDemandMinDriver) ∧
            (decide s).mode = .primeOn
  /-- A snippet that is new or differs holds the option for the driver, and it is there only if
  the card was found to support it and the driver to have it off. -/
  snippet : Changes config actions.recorded w config.runtimePmSnippet.place →
    ∀ content, (run config actions.recorded w).2.tree.bytes? config.runtimePmSnippet.place =
      some content → content = Text.encode RuntimePm.driverOption.toList ∧
        ∃ triplet s w', Prepared config actions.recorded w triplet s w' ∧
          s.eligibility.supported = true ∧ s.eligibility.currentlyEnabled = false
  /-- A run that is opted out of does nothing at all. -/
  optedOut : Probe.optedOut config.kernelCommandLine w.tree = true →
    (run config actions.recorded w).2.tree = w.tree ∧
      (run config actions.recorded w).2.system = w.system
  /-- A run that comes to no action changes the snapshots at most, and only asks questions. -/
  noAction : (run config actions.recorded w).1 = .ok .noAction →
    (∀ place, Changes config actions.recorded w place →
      place = config.newSnapshot.place ∨ place = config.lastSnapshot.place) ∧
      AsksOnly Request.isQuestion w (run config actions.recorded w).2

/-- A file that differs after a run is a snapshot, or an effect of the run left it there. -/
theorem changes_cases {w : World σ} (hc : config.WritesApart) (ha : actions.KeepsFiles)
    (hq : Quiet config w) (free : w.tree.LinkFree) {place : List FileName}
    (h : Changes config actions w place) :
    (place = config.newSnapshot.place ∨
      place = config.lastSnapshot.place ∧ w.tree.read config.lastSnapshot = .error .notFound) ∨
    ∃ triplet s w', Prepared config actions w triplet s w' ∧
      MayLeave config triplet (decide s).effects place
        ((run config actions w).2.tree.bytes? place) := by
  unfold Changes at h
  rcases run_cases config actions w with ⟨-, -, halike⟩ | ⟨cause, hfails, -⟩ |
    ⟨triplet, s, w', hprepared⟩
  · exact absurd (by rw [halike.tree]) h
  · left
    have hsurvey := survey_alike hq
    rcases failed_cases hfails with ⟨w1, hs, hrun⟩ | ⟨_, scan, w1, w2, _, hs, before, -, -, hrun⟩
    · rw [hs] at hsurvey
      rw [hrun, hsurvey.tree] at h
      exact absurd rfl h
    · rw [hs.eq] at hsurvey
      have halike := hsurvey.trans before
      rw [hrun, ← halike.tree] at h
      rw [← halike.tree] at free ⊢
      exact recordDevices_bytes? hc free scan.devices h
  · have free' := (hprepared.linkFree_and_dirAt hc ha free).1
    rw [hprepared.run_eq] at h ⊢
    rcases (execute_changesTo hc ha triplet (decide s) w' free').2 place with hsame | hleft
    · rw [hsame] at h
      exact .inl (hprepared.bytes? hc ha hq free h)
    · exact .inr ⟨triplet, s, w', hprepared, hleft⟩

/-- A prepared run that comes to no action ends where it was prepared. -/
theorem Prepared.run_of_noAction {w w' : World σ} (h : Prepared config actions w triplet s w')
    (hmode : (run config actions w).1 = .ok .noAction) : (run config actions w).2 = w' := by
  have hnone := effects_of_noAction (h.mode_eq hmode (by simp))
  rw [h.run_eq]
  unfold execute carryOut
  rw [hnone]
  rfl

/-- On a machine without links, on which what a run writes is apart, a run keeps to its own files,
and changes each of them only as far as it is meant to. -/
theorem run_keeps_to_footprint {w : World (Recorded σ)} (hc : config.WritesApart)
    (ha : actions.KeepsFiles) (hq : Quiet config w) (free : w.tree.LinkFree) :
    Footprint config actions w := by
  have hcases := fun place (h : Changes config actions.recorded w place) =>
    changes_cases hc ha.recorded hq free h
  -- the policy file and the snippet are in place of neither snapshot
  have heffect : ∀ file, file ≠ .snapshot → (∀ f, file ≠ .fragment f) →
      Changes config actions.recorded w (config.pathOf file).place →
        ∃ triplet s w', Prepared config actions.recorded w triplet s w' ∧
          ∃ e ∈ (decide s).effects, e.leaves? config triplet = some (file,
            (run config actions.recorded w).2.tree.bytes? (config.pathOf file).place) := by
    intro file hsnapshot hfragment h
    rcases hcases _ h with (hnew | ⟨hlast, -⟩) | ⟨triplet, s, w', hprepared, hleft⟩
    · exact absurd hnew.symm (hc.apart_newSnapshot hsnapshot).ne
    · exact absurd hlast (hc.apart file .snapshot hsnapshot).ne
    · exact ⟨triplet, s, w', hprepared, hleft.effect hc hfragment⟩
  constructor
  case places =>
    intro place h
    rcases hcases place h with (hnew | hlast) | ⟨triplet, s, w', -, ⟨f, hf⟩ | ⟨e, -, file, hl, hp⟩⟩
    · exact .inl hnew
    · exact .inr (.inl hlast)
    · exact .inr (.inr ⟨.fragment f, by simp, hf⟩)
    · refine .inr (.inr ⟨file, ?_, hp⟩)
      rintro rfl
      exact Course.file?_ne_snapshot e (file?_of_leaves? hl)
  case policy =>
    intro h
    obtain ⟨triplet, s, w', hprepared, e, he, hl⟩ := heffect .policy (by simp) (by simp) h
    obtain ⟨hdemand, hcapable, hmode, hcontent⟩ := policy_of_leaves? he hl
    refine ⟨hcontent, ?_, triplet, s, w', hprepared, hdemand,
      Decision.onDemandCapable_eq_false_iff.mp hcapable, hmode⟩
    -- what was read when the cards were recorded was there from the start
    obtain ⟨scan, last, drivers, -, -, -, -, -, hs⟩ := hprepared.recording hq ha.recorded
    have hread : s.policy = (Policy.read config.policyFile w'.tree).value := by
      rw [hs, value_situationOf]
    have hfile : WrittenFile.policy ≠ .snapshot := by simp
    rw [← hdemand, hread]
    exact (Policy.read_congr (hprepared.sameAnswer_read hc ha.recorded hq free hfile)).symm
  case snippet =>
    intro h content hcontent
    obtain ⟨triplet, s, w', hprepared, e, he, hl⟩ :=
      heffect .runtimePmSnippet (by simp) (by simp) h
    have hcontent : (run config actions.recorded w).2.tree.bytes?
        (config.pathOf .runtimePmSnippet).place = some content := hcontent
    rw [hcontent] at hl
    obtain ⟨hsupported, henabled, htext⟩ := snippet_of_leaves? he hl
    exact ⟨htext, triplet, s, w', hprepared, hsupported, henabled⟩
  case optedOut =>
    intro ho
    have halike : w.Alike (run config actions.recorded w).2 := (run_of_optedOut ho).2
    exact ⟨halike.tree, halike.system⟩
  case noAction =>
    intro hmode
    rcases run_cases config actions.recorded w with ⟨-, -, halike⟩ | ⟨cause, hfails, -⟩ |
      ⟨triplet, s, w', hprepared⟩
    · refine ⟨fun place h => absurd (by rw [halike.tree]) h, ?_⟩
      exact Act.asksOnly_of_system_eq halike.system
    · cases hmode.symm.trans hfails
    · have hasks := prepare_asks config actions w
      unfold Changes
      rw [hprepared.run_of_noAction hmode]
      rw [hprepared.eq] at hasks
      exact ⟨fun place h => (hprepared.bytes? hc ha.recorded hq free h).imp_right And.left, hasks⟩

/-- A laptop that is to do PRIME on demand, with a driver that is too old for it. -/
def Laptop.outdated : World (Recorded Rehearsal) :=
  { tree := ⟨[("m", .dir [
      ("lspci", Laptop.file "8086:3e9b;0000:00:02:0;1\n10de:1f91;0000:01:00:0;0\n"),
      ("prime-discrete", Laptop.file "on-demand\n"),
      ("nvidia-version", Laptop.file "390.87\n")])]⟩
    system := { system := { loaded := ["nvidia"] } } }

/-- The run turns PRIME on in the policy file. -/
theorem run_keeps_to_footprint_laptop :
    Footprint Laptop.config Rehearsal.actions Laptop.outdated ∧
      (run Laptop.config Rehearsal.actions.recorded Laptop.outdated).2.tree.bytes?
        Laptop.config.policyFile.place = some (Text.encode "on\n".toList) := by
  have hkeeps : Footprint Laptop.config Rehearsal.actions Laptop.outdated :=
    run_keeps_to_footprint (by decide +kernel) Rehearsal.actions_keepsFiles
      (fun _ _ h => by cases h) (FileTree.linkFree_of_check (by decide +kernel))
  have hbefore : (Laptop.outdated.tree.bytes? Laptop.config.policyFile.place).map List.length =
      some 10 := by decide +kernel
  have hafter : ((run Laptop.config Rehearsal.actions.recorded Laptop.outdated).2.tree.bytes?
      Laptop.config.policyFile.place).map List.length = some 3 := by decide +kernel
  refine ⟨hkeeps, (hkeeps.policy fun hsame => ?_).1⟩
  rw [hsame, hbefore] at hafter
  cases hafter

end Run

end HybridGraphics
