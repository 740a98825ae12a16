import HybridGraphics.Proofs.Run.Leaves
import HybridGraphics.Proofs.Run.Requests
import HybridGraphics.Proofs.System.Modules

/-!
# Effects that are settled

An effect is settled in a world if doing it there would bring about nothing new: its file
holds what it leaves (`Effect.leaves?`), and the driver is loaded, or not, as it has it.

`attempt_settled` says that an effect is settled once it was done on a rehearsed system,
and `Settled.attempt` that it stays so under effects that are apart from it. A list of
effects that are apart, each of them done, so settles them all (`attemptAll_settled`). In
return, carrying settled effects out again leaves every file as it is, comes to the mode
that was decided on, and drives no module if none of them does (`carryOutFrom_settled`).
-/

namespace HybridGraphics

open Act (Keeps Edits)
open Rehearsal (Drifts)

/-! ## Settled effects -/

/-- The driver is loaded, or not, as the effect has it. -/
def Effect.Driven (r : Rehearsal) : Effect → Prop
  | loadModule name => r.shows name = true
  | unloadNvidiaStack => r.shows KernelModule.nvidia = false
  | _ => True

/-- Doing the effect would bring about nothing new. -/
structure Effect.Settled (config : Config) (triplet : String) (w : World (Recorded Rehearsal))
    (e : Effect) : Prop where
  file : ∀ file content, e.leaves? config triplet = some (file, content) →
    w.tree.Holds (config.pathOf file) content
  driver : e.Driven w.system.system

namespace Run

variable {σ : Type} {config : Config} {triplet : String} {e : Effect}

/-! ## What an effect makes of the system -/

/-- Files are written and removed without the system. -/
theorem edits_of_system {R : World σ → World σ → Prop}
    (h : ∀ w w' : World σ, w'.system = w.system → R w w') (p : Path) : Edits R p where
  write _ w := h w _ rfl
  remove w := by
    unfold Act.removeFile Act.changeWith
    split <;> exact h w _ rfl

/-- An effect that drives no module leaves a rehearsed system as it is. -/
theorem attempt_still (he : e.drives = false) (w : World (Recorded Rehearsal)) :
    (attempt config Rehearsal.actions.recorded triplet e w).2.system.system = w.system.system := by
  have hedits : ∀ p, Edits (fun w w' : World (Recorded Rehearsal) =>
      w'.system.system = w.system.system) p :=
    edits_of_system fun _ _ h => congrArg Recorded.system h
  refine attempt_keeps Rehearsal.systemFrame triplet ?_ w
  cases e with
  | writeOutputClass device => exact hedits _
  | writeServerLayout => exact hedits _
  | removeFragment f => exact hedits _
  | loadModule name => cases he
  | unloadNvidiaStack => cases he
  | setRuntimePm device enabled eligibility onBus => exact ⟨fun _ _ => rfl, hedits _⟩
  | persistPolicy policy => exact hedits _
  | setOffloadingMarker required => exact hedits _
  | runPxScript setting => exact fun _ => rfl

/-- At most the NVIDIA driver and its companions come or go. -/
theorem attempt_drifts (he : e.LoadsOnlyNvidia) (w : World (Recorded Rehearsal)) :
    Drifts w.system.system
      (attempt config Rehearsal.actions.recorded triplet e w).2.system.system := by
  cases hd : e.drives with
  | false =>
    rw [attempt_still hd]
    exact .refl _
  | true =>
    refine attempt_keeps Drifts.frame triplet ?_ w
    cases e with
    | loadModule name =>
      cases he name rfl
      exact fun w => Rehearsal.load_drifts w.system.system
    | unloadNvidiaStack =>
      refine ⟨fun w => .refl w.system.system, fun name hn w => ?_, fun w => ?_⟩
      · exact Rehearsal.unload_drifts w.system.system hn
      · exact Rehearsal.terminate_drifts w.system.system
    | _ => cases hd

/-- A driver that was loaded is listed, and one that was unloaded is not any more. -/
theorem attempt_driven (he : e.LoadsOnlyNvidia) {w : World (Recorded Rehearsal)}
    (hfaith : w.system.system.Faithful)
    (hdone : (attempt config Rehearsal.actions.recorded triplet e w).1 = true) :
    e.Driven (attempt config Rehearsal.actions.recorded triplet e w).2.system.system := by
  have hfaith' : (attempt config Rehearsal.actions.recorded triplet e
      w).2.system.system.Faithful := (attempt_drifts he w).faithful hfaith
  rw [attempt_system_eq] at hfaith' ⊢
  have hok := (attempt_eq triplet e w).2.mp hdone
  cases e with
  | loadModule name =>
    cases he name rfl
    have hload : (w.system.system.load "nvidia").1 = .ok () := by
      simp only [apply, KernelModule.load, Act.bind_apply] at hok
      show (Rehearsal.actions.recorded.loadModule "nvidia" none w).1 = .ok ()
      cases hr : (Rehearsal.actions.recorded.loadModule "nvidia" none w).1 with
      | ok _ => rfl
      | error cause =>
        rw [hr] at hok
        cases hok
    have hsystem : (apply config Rehearsal.actions.recorded triplet
        (.loadModule "nvidia") w).2.system.system =
          (w.system.system.load "nvidia").2 := by
      simp only [apply, KernelModule.load, Act.bind_apply]
      cases (Rehearsal.actions.recorded.loadModule "nvidia" none w).1 with
      | ok _ => rfl
      | error cause => rfl
    show Rehearsal.shows _ "nvidia" = true
    rw [Rehearsal.shows_iff hfaith' (by decide) (by decide), hsystem]
    exact Rehearsal.mem_loaded_of_load hload
  | unloadNvidiaStack =>
    have hunload : (KernelModule.unloadStack config Rehearsal.actions.recorded
        KernelModule.nvidiaStack w).1 = .ok () := by
      simp only [apply, KernelModule.unloadNvidiaStack, Act.bind_apply, Act.pure_apply] at hok
      cases hr : (KernelModule.unloadStack config Rehearsal.actions.recorded
          KernelModule.nvidiaStack w).1 with
      | ok _ => rfl
      | error cause =>
        rw [hr] at hok
        cases hok
    exact Rehearsal.not_shows_of_unloadStack hunload KernelModule.nvidia (by decide)
  | _ => trivial

/-! ## Settling an effect -/

/-- Noting the requests to a rehearsed system keeps to its word about files. -/
theorem keepsFiles_rehearsed : Rehearsal.actions.recorded.KeepsFiles :=
  Rehearsal.actions_keepsFiles.recorded

/-- An effect that was done is settled. -/
theorem attempt_settled (hc : config.WritesApart) (he : e.LoadsOnlyNvidia)
    {w : World (Recorded Rehearsal)} (free : w.tree.LinkFree) (hfaith : w.system.system.Faithful)
    (hdone : (attempt config Rehearsal.actions.recorded triplet e w).1 = true) :
    e.Settled config triplet (attempt config Rehearsal.actions.recorded triplet e w).2 where
  file _ _ h := attempt_holds hc keepsFiles_rehearsed free hdone h
  driver := attempt_driven he hfaith hdone

end Run

namespace Effect.Settled

open Run

variable {config : Config} {triplet : String} {e e' : Effect} {w w' : World (Recorded Rehearsal)}

/-- Being settled is a matter of the bytes in the files, and of the modules. -/
theorem congr (h : e.Settled config triplet w) (hc : config.WritesApart) (free : w.tree.LinkFree)
    (free' : w'.tree.LinkFree) (hb : ∀ q, w'.tree.bytes? q = w.tree.bytes? q)
    (hs : w'.system.system = w.system.system) : e.Settled config triplet w' where
  file file content hl := (h.file file content hl).congr free free' (hc.descends file) (hb _)
  driver := by
    rw [hs]
    exact h.driver

/-- A settled effect stays so when one that is apart from it is attempted. -/
theorem attempt (h : e.Settled config triplet w) (hc : config.WritesApart)
    (free : w.tree.LinkFree) (hapart : e.Apart e') :
    e.Settled config triplet (Run.attempt config Rehearsal.actions.recorded triplet e' w).2 where
  file file content hl := by
    have free' := attempt_linkFree hc keepsFiles_rehearsed triplet e' free
    refine (h.file file content hl).congr free free' (hc.descends file) ?_
    exact attempt_bytes?_of_ne hc keepsFiles_rehearsed triplet free
      (hapart.1 file (file?_of_leaves? hl))
  driver := by
    cases hd : e'.drives with
    | false =>
      rw [attempt_still hd]
      exact h.driver
    | true =>
      -- only one of the two may be about the driver
      cases e with
      | loadModule name => exact absurd ⟨rfl, hd⟩ hapart.2
      | unloadNvidiaStack => exact absurd ⟨rfl, hd⟩ hapart.2
      | _ => trivial

end Effect.Settled

/-! ## Lists of effects -/

namespace Run

section

variable {σ : Type} (config : Config) (actions : Actions σ) (triplet : String)

/-- The world after each effect was attempted, in order. -/
def attemptAll : List Effect → World σ → World σ
  | [], w => w
  | e :: rest, w => attemptAll rest (attempt config actions triplet e w).2

/-- Each effect is done when it is its turn. -/
def AllDone : List Effect → World σ → Prop
  | [], _ => True
  | e :: rest, w =>
    (attempt config actions triplet e w).1 = true ∧
      AllDone rest (attempt config actions triplet e w).2

instance decidableAllDone : ∀ effects w, Decidable (AllDone config actions triplet effects w)
  | [], _ => isTrue trivial
  | e :: rest, w =>
    have := decidableAllDone rest (attempt config actions triplet e w).2
    inferInstanceAs (Decidable (_ ∧ _))

/-- Each effect that enables the discrete card is done when it is its turn. -/
def EnablersDone : List Effect → World σ → Prop
  | [], _ => True
  | e :: rest, w =>
    (e.enablesDiscrete = true → (attempt config actions triplet e w).1 = true) ∧
      EnablersDone rest (attempt config actions triplet e w).2

instance decidableEnablersDone : ∀ effects w, Decidable (EnablersDone config actions triplet effects w)
  | [], _ => isTrue trivial
  | e :: rest, w =>
    have := decidableEnablersDone rest (attempt config actions triplet e w).2
    inferInstanceAs (Decidable (_ ∧ _))

end

variable {config : Config} {triplet : String}

/-- Until the run falls back, every effect is attempted. It does not while each effect is done that
enables the card, and never where the card is not to be used. -/
theorem carryOutFrom_before {σ : Type} {actions : Actions σ} (fallBack : Act σ Unit)
    (decided : Mode) :
    ∀ (effects : List Effect) (w : World σ),
      (decided.isPrime = true → EnablersDone config actions triplet effects w) →
        carryOutFrom (attempt config actions triplet) fallBack decided decided effects w =
          (decided, attemptAll config actions triplet effects w)
  | [], _, _ => rfl
  | e :: rest, w, h => by
    have ih := carryOutFrom_before fallBack decided rest (attempt config actions triplet e w).2
      fun hprime => (h hprime).2
    rw [carryOutFrom, bne_self_eq_false, Bool.false_and]
    simp only [Bool.false_eq_true, if_false, Act.bind_apply]
    split
    · exact ih
    next hfailed =>
      have hidle : ¬ (decided.isPrime && e.enablesDiscrete) = true := by
        rw [Bool.and_eq_true]
        rintro ⟨hprime, henables⟩
        exact hfailed ((h hprime).1 henables)
      rw [if_neg hidle]
      exact ih

theorem AllDone.enablers {σ : Type} {actions : Actions σ} :
    ∀ {effects : List Effect} {w : World σ}, AllDone config actions triplet effects w →
      EnablersDone config actions triplet effects w
  | [], _, _ => trivial
  | _ :: _, _, h => ⟨fun _ => h.1, AllDone.enablers h.2⟩

/-- Effects that are all done come to the mode that was decided on. -/
theorem carryOutFrom_done {σ : Type} {actions : Actions σ} (fallBack : Act σ Unit) (decided : Mode)
    (effects : List Effect) (w : World σ) (h : AllDone config actions triplet effects w) :
    carryOutFrom (attempt config actions triplet) fallBack decided decided effects w =
      (decided, attemptAll config actions triplet effects w) :=
  carryOutFrom_before fallBack decided effects w fun _ => h.enablers

/-- Attempting effects changes the files that they are about, and no others. -/
theorem attemptAll_touches (hc : config.WritesApart) :
    ∀ (effects : List Effect) (w : World (Recorded Rehearsal)), w.tree.LinkFree →
      w.tree.Touches (effects.flatMap (Effect.places config))
        (attemptAll config Rehearsal.actions.recorded triplet effects w).tree
  | [], _, free => .refl free
  | e :: rest, w, free => by
    have hstep := (attempt_touches hc keepsFiles_rehearsed triplet e w).2 free
    have ih := attemptAll_touches hc rest _ hstep.linkFree
    refine (hstep.mono ?_).trans (ih.mono ?_)
    · exact List.subset_append_left _ _
    · exact List.subset_append_right _ _

theorem attemptAll_programs (hc : config.WritesApart) :
    ∀ (effects : List Effect) (w : World (Recorded Rehearsal)),
      (attemptAll config Rehearsal.actions.recorded triplet effects w).programs = w.programs
  | [], _ => rfl
  | e :: rest, w =>
    (attemptAll_programs hc rest _).trans (attempt_touches hc keepsFiles_rehearsed triplet e w).1

/-- Effects that load no other module leave the system's other modules alone. -/
theorem attemptAll_drifts : ∀ (effects : List Effect) (w : World (Recorded Rehearsal)),
    (∀ e ∈ effects, e.LoadsOnlyNvidia) →
      Drifts w.system.system
        (attemptAll config Rehearsal.actions.recorded triplet effects w).system.system
  | [], w, _ => .refl w.system.system
  | e :: rest, w, h =>
    (attempt_drifts (h e List.mem_cons_self) w).trans
      (attemptAll_drifts rest _ fun e he => h e (List.mem_cons_of_mem _ he))

/-- Effects that are not about the driver leave the system as it is. -/
theorem attemptAll_still : ∀ (effects : List Effect) (w : World (Recorded Rehearsal)),
    (∀ e ∈ effects, e.drives = false) →
      (attemptAll config Rehearsal.actions.recorded triplet effects w).system.system =
        w.system.system
  | [], _, _ => rfl
  | e :: rest, w, h =>
    (attemptAll_still rest _ fun e he => h e (List.mem_cons_of_mem _ he)).trans
      (attempt_still (h e List.mem_cons_self) w)

/-- A settled effect stays so while others are attempted that are all apart from it. -/
theorem attemptAll_keeps_settled (hc : config.WritesApart) {e : Effect} :
    ∀ (effects : List Effect) {w : World (Recorded Rehearsal)}, w.tree.LinkFree →
      (∀ e' ∈ effects, e.Apart e') → e.Settled config triplet w →
        e.Settled config triplet (attemptAll config Rehearsal.actions.recorded triplet effects w)
  | [], _, _, _, h => h
  | e' :: rest, _, free, hapart, h =>
    attemptAll_keeps_settled hc rest (attempt_linkFree hc keepsFiles_rehearsed triplet e' free)
      (fun e' he => hapart e' (List.mem_cons_of_mem _ he))
      (h.attempt hc free (hapart e' List.mem_cons_self))

/-- Effects that are apart and were all done are settled in the end. -/
theorem attemptAll_settled (hc : config.WritesApart) :
    ∀ (effects : List Effect) {w : World (Recorded Rehearsal)}, w.tree.LinkFree →
      w.system.system.Faithful → (∀ e ∈ effects, e.LoadsOnlyNvidia) →
        effects.Pairwise Effect.Apart →
          AllDone config Rehearsal.actions.recorded triplet effects w →
            ∀ e ∈ effects, e.Settled config triplet
              (attemptAll config Rehearsal.actions.recorded triplet effects w)
  | [], _, _, _, _, _, _ => fun e he => by cases he
  | e :: rest, w, free, hfaith, hloads, hapart, hdone => by
    obtain ⟨hfirst, hrest⟩ := List.pairwise_cons.mp hapart
    have hload := hloads e List.mem_cons_self
    have free' := attempt_linkFree hc keepsFiles_rehearsed triplet e free
    have hfaith' : (attempt config Rehearsal.actions.recorded triplet e
        w).2.system.system.Faithful := (attempt_drifts hload w).faithful hfaith
    have hsettled := attempt_settled hc hload free hfaith hdone.1
    intro e' he'
    rcases List.mem_cons.mp he' with rfl | he'
    · exact attemptAll_keeps_settled hc rest free' hfirst hsettled
    · exact attemptAll_settled hc rest free' hfaith'
        (fun e he => hloads e (List.mem_cons_of_mem _ he)) hrest hdone.2 e' he'

/-! ## Settled effects, carried out again -/

/-- Settled effects that drive no module change no file, and lead to the mode that was decided
on, whether each of them can be done again or not. -/
theorem carryOutFrom_settled (hc : config.WritesApart) (decided : Mode) :
    ∀ (effects : List Effect) {w : World (Recorded Rehearsal)}, w.tree.LinkFree →
      (∀ e ∈ effects, e.Settled config triplet w ∧ e.drives = false) →
        (carryOutFrom (attempt config Rehearsal.actions.recorded triplet) (fallBack config) decided
            decided effects w).1 = decided ∧
          ∀ q, (carryOutFrom (attempt config Rehearsal.actions.recorded triplet) (fallBack config)
            decided decided effects w).2.tree.bytes? q = w.tree.bytes? q
  | [], _, _, _ => ⟨rfl, fun _ => rfl⟩
  | e :: rest, w, free, h => by
    obtain ⟨hsettled, hdrives⟩ := h e List.mem_cons_self
    have hbytes := attempt_bytes? hc keepsFiles_rehearsed free hsettled.file
    have hstill : (attempt config Rehearsal.actions.recorded triplet e w).2.system.system =
        w.system.system := attempt_still hdrives w
    have hdone : e.enablesDiscrete = true →
        (attempt config Rehearsal.actions.recorded triplet e w).1 = true := fun henables =>
      attempt_of_holds hc free henables hdrives hsettled.file
    have free' := attempt_linkFree hc keepsFiles_rehearsed triplet e free
    have ih := carryOutFrom_settled hc decided rest free' fun e' he' =>
      have hrest := h e' (List.mem_cons_of_mem _ he')
      ⟨hrest.1.congr hc free free' hbytes hstill, hrest.2⟩
    simp only [hbytes] at ih
    rw [carryOutFrom, bne_self_eq_false, Bool.false_and]
    simp only [Bool.false_eq_true, if_false, Act.bind_apply]
    cases henables : e.enablesDiscrete with
    | true =>
      rw [hdone henables]
      exact ih
    | false =>
      simp only [Bool.and_false, Bool.false_eq_true, if_false, ite_self]
      exact ih

end Run

end HybridGraphics
