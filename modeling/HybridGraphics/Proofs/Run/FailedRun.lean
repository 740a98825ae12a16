import HybridGraphics.Proofs.Run.Recording
import HybridGraphics.Proofs.Run.Rehearsed

/-!
# A run that fails

A run fails only while it finds out what machine it is on. By then it has asked nothing of the
system, and the one file it may have changed is the snapshot of the last boot, which it creates
where it is missing. `failed_run_leaves_only_placeholder` says so of every tree and every configuration,
with links in the way and with paths that share files: what a failed run leaves behind does not
depend on where its paths lead.

Up to the cards nothing changes at all (`survey_alike`). What is left is the recording of the cards,
of which `recordDevices_failed` tells.
-/

namespace HybridGraphics.Run

variable {σ : Type} {config : Config} {actions : Actions σ}

/-- A run fails before it has found its cards, or because it cannot record them. -/
theorem failed_cases {w : World σ} {cause : Error} (h : (run config actions w).1 = .error cause) :
    (∃ w1, survey config w = (.error cause, w1) ∧ run config actions w = (.error cause, w1)) ∨
      ∃ triplet scan w1 w2 fault, Surveyed config w triplet scan w1 ∧ w1.Alike w2 ∧
        (recordDevices config scan.devices w2).1 = .error fault ∧ cause = .snapshot fault ∧
          (run config actions w).2 = (recordDevices config scan.devices w2).2 := by
  cases ho : Probe.optedOut config.kernelCommandLine w.tree with
  | true =>
    have hok : (run config actions w).1 = .ok .noAction := (run_of_optedOut ho).1
    cases h.symm.trans hok
  | false =>
    rcases hs : survey config w with ⟨outcome, w1⟩
    cases outcome with
    | error cause' =>
      have hrun : run config actions w = (.error cause', w1) := run_of_survey_error ho hs
      rw [hrun] at h
      cases h
      exact .inl ⟨w1, rfl, hrun⟩
    | ok found =>
      obtain ⟨triplet, scan⟩ := found
      have hsurveyed : Surveyed config w triplet scan w1 := ⟨ho, hs⟩
      obtain ⟨w2, before, ⟨fault, hr, hrun⟩ | ⟨last, w3, s, w', -, hprepared⟩⟩ :=
        hsurveyed.run_cases actions
      · rw [hrun] at h
        cases h
        exact .inr ⟨triplet, scan, w1, w2, fault, hsurveyed, before, hr, rfl, by rw [hrun]⟩
      · rw [hprepared.run_eq] at h
        cases h

/-- A run that fails has asked nothing of the system. Every file holds what it held, unless the run
fails because it cannot write the snapshot of this boot: then the one of the last boot may hold the
placeholder now, if it was missing. The package manager, where it is asked for the architecture,
is to overwrite no file. -/
theorem failed_run_leaves_only_placeholder {w : World (Recorded σ)} (hq : Quiet config w) {cause : Error}
    (h : (run config actions.recorded w).1 = .error cause) :
    (run config actions.recorded w).2.system = w.system ∧
      ((∀ place, (run config actions.recorded w).2.tree.bytes? place = w.tree.bytes? place) ∨
        (∃ fault, cause = .snapshot (.write config.newSnapshot fault)) ∧
          FileTree.Created config.lastSnapshot
            (Text.encode (Snapshot.serialize Snapshot.placeholder)) w.tree
            (run config actions.recorded w).2.tree) := by
  have hsurvey := survey_alike hq
  rcases failed_cases h with ⟨w1, hs, hrun⟩ |
    ⟨triplet, scan, w1, w2, fault, hs, before, hr, rfl, hrun⟩
  · rw [hs] at hsurvey
    rw [hrun]
    exact ⟨hsurvey.system, .inl fun place => by rw [hsurvey.tree]⟩
  · rw [hs.eq] at hsurvey
    have halike := hsurvey.trans before
    have hleft := recordDevices_failed hr
    rw [halike.tree] at hleft
    rw [hrun]
    refine ⟨(recordDevices_system _ _).trans halike.system, ?_⟩
    rcases hleft with hgains | ⟨⟨reason, rfl⟩, hcreated⟩
    · exact .inl hgains.bytes?_eq
    · exact .inr ⟨⟨reason, rfl⟩, hcreated⟩

/-- A laptop on which the snapshot of this boot is to be kept below a file. -/
def Laptop.blocked : Config :=
  { Laptop.config with newSnapshot := { base := "/m", names := ["lspci", "snapshot"] } }

/-- The run fails, and leaves the placeholder where there was no snapshot yet. -/
theorem failed_run_leaves_only_placeholder_laptop :
    (run Laptop.blocked Rehearsal.actions.recorded (Laptop.world "on\n" ["i915"])).2.system =
        (Laptop.world "on\n" ["i915"]).system ∧
      FileTree.Created Laptop.blocked.lastSnapshot
        (Text.encode (Snapshot.serialize Snapshot.placeholder)) (Laptop.tree "on\n")
        (run Laptop.blocked Rehearsal.actions.recorded (Laptop.world "on\n" ["i915"])).2.tree := by
  have hnone : (run Laptop.blocked Rehearsal.actions.recorded
      (Laptop.world "on\n" ["i915"])).1.toOption = none := by decide +kernel
  obtain ⟨cause, hfails⟩ : ∃ cause, (run Laptop.blocked Rehearsal.actions.recorded
      (Laptop.world "on\n" ["i915"])).1 = .error cause := by
    cases hr : (run Laptop.blocked Rehearsal.actions.recorded (Laptop.world "on\n" ["i915"])).1 with
    | ok mode =>
      rw [hr] at hnone
      cases hnone
    | error cause => exact ⟨cause, rfl⟩
  have hnew : ((run Laptop.blocked Rehearsal.actions.recorded
      (Laptop.world "on\n" ["i915"])).2.tree.bytes? ["m", "last_gfx_boot"]).isSome = true := by
    decide +kernel
  have hmissing : ((Laptop.tree "on\n").bytes? ["m", "last_gfx_boot"]).isSome = false := by
    decide +kernel
  obtain ⟨hsystem, hsame | ⟨-, hcreated⟩⟩ :=
    failed_run_leaves_only_placeholder (fun _ _ h => by cases h) hfails
  · rw [hsame] at hnew
    cases hmissing.symm.trans hnew
  · exact ⟨hsystem, hcreated⟩

end HybridGraphics.Run
