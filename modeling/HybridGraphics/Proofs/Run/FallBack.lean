import HybridGraphics.Proofs.Decision.SameGrounds
import HybridGraphics.Proofs.Run.SelectedCard
import HybridGraphics.Proofs.Run.Settled

/-!
# Falling back

An effect that fails does not keep the others from being attempted, unless the discrete card was to
be used and cannot be without it. `fall_back_exact` says what a decision comes to on any machine,
whichever of its effects fail there. If each effect is done that enables the card, or the card is
not to be used, all effects are attempted in order (`carryOutFrom_before`). Otherwise the effects up
to the first such failure are, then the removal of both fragments, and then what is left without the
effects that enable the card.

The executor does not remember that it fell back. It compares the mode it has come to with the one
that was decided on, and that these two differ from then on is what `carryOutFrom_after` rests on.
-/

namespace HybridGraphics.Run

variable {σ : Type} {config : Config} {actions : Actions σ} {triplet : String}

/-! ## The first failure -/

/-- Of the effects that enable the discrete card, `e` is the first that fails when all are attempted
in order. -/
structure FirstFailure (config : Config) (actions : Actions σ) (triplet : String)
    (effects : List Effect) (w : World σ) (before : List Effect) (e : Effect)
    (after : List Effect) : Prop where
  split : effects = before ++ e :: after
  done : EnablersDone config actions triplet before w
  enables : e.enablesDiscrete = true
  failed : (attempt config actions triplet e (attemptAll config actions triplet before w)).1 = false

theorem attemptAll_append (later : List Effect) :
    ∀ (effects : List Effect) (w : World σ),
      attemptAll config actions triplet (effects ++ later) w =
        attemptAll config actions triplet later (attemptAll config actions triplet effects w)
  | [], _ => rfl
  | _ :: rest, _ => attemptAll_append later rest _

/-- Where all enabling effects are done, so is each of them in its turn. -/
theorem EnablersDone.at {before : List Effect} {e : Effect} {after : List Effect} :
    ∀ {w : World σ}, EnablersDone config actions triplet (before ++ e :: after) w →
      e.enablesDiscrete = true →
        (attempt config actions triplet e (attemptAll config actions triplet before w)).1 = true := by
  induction before with
  | nil => exact fun {w} h henables => h.1 henables
  | cons first rest ih => exact fun {w} h henables => ih h.2 henables

/-- There is a first failure unless each effect is done that enables the card. -/
theorem enablersDone_iff : ∀ (effects : List Effect) (w : World σ),
    EnablersDone config actions triplet effects w ↔
      ¬ ∃ before e after, FirstFailure config actions triplet effects w before e after := by
  intro effects w
  constructor
  · rintro hdone ⟨before, e, after, h⟩
    rw [h.split] at hdone
    exact Bool.false_ne_true (h.failed.symm.trans (hdone.at h.enables))
  · intro hnone
    induction effects generalizing w with
    | nil => trivial
    | cons e rest ih =>
      have hdone : e.enablesDiscrete = true → (attempt config actions triplet e w).1 = true := by
        intro henables
        rw [← Bool.not_eq_false]
        exact fun hfailed => hnone ⟨[], e, rest, rfl, trivial, henables, hfailed⟩
      refine ⟨hdone, ih _ ?_⟩
      rintro ⟨before, other, after, h⟩
      exact hnone ⟨e :: before, other, after, by rw [h.split]; rfl, ⟨hdone, h.done⟩, h.enables,
        h.failed⟩

/-! ## After the fall back -/

/-- After the fall back, of the effects left those are attempted that do not enable the card. -/
theorem carryOutFrom_after (fallBack : Act σ Unit) {decided : Mode}
    (hprime : decided.isPrime = true) :
    ∀ (effects : List Effect) (w : World σ),
      carryOutFrom (attempt config actions triplet) fallBack decided .integratedOnly effects w =
        (.integratedOnly,
          attemptAll config actions triplet (effects.filter fun e => !e.enablesDiscrete) w)
  | [], _ => rfl
  | e :: rest, w => by
    have hdiffer : (Mode.integratedOnly != decided) = true := by
      rw [bne_iff_ne]
      rintro rfl
      cases hprime
    rw [carryOutFrom, hdiffer, Bool.true_and]
    by_cases henables : e.enablesDiscrete = true
    · rw [if_pos henables, List.filter_cons_of_neg (by simp [henables])]
      exact carryOutFrom_after fallBack hprime rest w
    · have ih := carryOutFrom_after fallBack hprime rest (attempt config actions triplet e w).2
      rw [if_neg henables, List.filter_cons_of_pos (by simp [henables])]
      simp only [Act.bind_apply, Mode.isPrime, Bool.false_and, Bool.false_eq_true, if_false, ite_self]
      exact ih

/-- The effects that remove the fragments. -/
def removals : List Effect := [.removeFragment .outputClass, .removeFragment .serverLayout]

/-- The world once the fall back has been reported. -/
def warned (w : World σ) : World σ :=
  (Act.warn "unable to enable the discrete GPU; falling back to integrated only" w).2

/-- A fragment is discarded in the way it is removed by an effect. -/
theorem discard_eq (actions : Actions σ) (triplet : String) (f : Fragment) (w : World σ) :
    (discard config f w).2 = (attempt config actions triplet (.removeFragment f) w).2 := by
  simp only [discard, attempt, apply, Act.bind_apply, Act.pure_apply]
  cases (Fragment.remove config f w).1 with
  | ok removed => rfl
  | error cause => rfl

/-- To fall back is to attempt both removals. -/
theorem fallBack_eq (actions : Actions σ) (triplet : String) (w : World σ) :
    (fallBack config w).2 = attemptAll config actions triplet removals (warned w) := by
  simp only [fallBack, Act.bind_apply, discard_eq actions triplet]
  rfl

/-! ## A whole decision -/

/-- What carrying a decision out comes to. In a mode that uses the discrete card, the first failure
of an effect that enables it makes the run fall back: both fragments are removed, and of the effects
left those are attempted, once each and in order, that do not enable the card. In any other case all
effects are, and the mode is the one that was decided on. -/
theorem fall_back_exact (config : Config) (actions : Actions σ) (triplet : String) (d : Decision)
    (w : World σ) :
    (∀ before e after, d.mode.isPrime = true →
      FirstFailure config actions triplet d.effects w before e after →
        execute config actions triplet d w =
          (.integratedOnly,
            attemptAll config actions triplet
              (removals ++ after.filter fun later => !later.enablesDiscrete)
              (warned (attemptAll config actions triplet (before ++ [e]) w)))) ∧
    (¬ (d.mode.isPrime = true ∧
        ∃ before e after, FirstFailure config actions triplet d.effects w before e after) →
      execute config actions triplet d w =
        (d.mode, attemptAll config actions triplet d.effects w)) ∧
    (config.WritesApart → ∀ w' : World σ, w'.tree.LinkFree → ∀ f : Fragment,
      f.bytes? config (attemptAll config actions triplet removals (warned w')).tree = none) := by
  refine ⟨?fallen, ?others, ?removed⟩
  case fallen =>
    intro before e after hprime h
    have hbefore := carryOutFrom_before (fallBack config) d.mode before w fun _ => h.done
    have hneeded : (d.mode.isPrime && e.enablesDiscrete) = true := by
      rw [hprime, h.enables]
      rfl
    have hlast : attemptAll config actions triplet (before ++ [e]) w =
        (attempt config actions triplet e (attemptAll config actions triplet before w)).2 :=
      attemptAll_append [e] before w
    unfold execute carryOut
    rw [h.split, carryOutFrom_append, Act.bind_apply, hbefore, carryOutFrom, bne_self_eq_false,
      Bool.false_and]
    simp only [Bool.false_eq_true, if_false, Act.bind_apply, h.failed, hneeded, if_true]
    rw [carryOutFrom_after (fallBack config) hprime, fallBack_eq actions triplet,
      attemptAll_append, hlast]
  case others =>
    intro hnone
    refine carryOutFrom_before (fallBack config) d.mode d.effects w fun hprime => ?_
    rw [enablersDone_iff]
    exact fun hfirst => hnone ⟨hprime, hfirst⟩
  case removed =>
    intro hc w' free f
    have hgone := (fallBack_fragments hc f free).2
    rwa [fallBack_eq actions triplet] at hgone

/-- The laptop of `primeLaptop` before its driver is loaded, with the fragment of the other mode in
place. -/
def Laptop.undriven : Situation :=
  { Decision.primeLaptop with
    drivers := { nvidiaAvailable := true }
    outputClass := .missing
    serverLayout := .current }

/-- Its disk, with a file where the directory of the fragment should be. -/
def Laptop.barred : World (Recorded Rehearsal) :=
  { tree := ⟨[("m", .dir [
      ("xorg.conf.d", Laptop.file ""),
      ("etc-xorg.conf.d", .dir [("11-nvidia-offload.conf", Laptop.file "")])])]⟩
    system := { system := {} } }

/-- There the decision is carried out. -/
def Laptop.fallen : Mode × World (Recorded Rehearsal) :=
  execute Laptop.config Rehearsal.actions.recorded "x86_64-linux-gnu"
    (Decision.decide Laptop.undriven) Laptop.barred

/-- The fragment cannot be written. So the driver is not loaded, the other fragment goes too, and
the card is kept awake as it was decided. Where only that fails, the mode stays. -/
theorem fall_back_exact_laptop :
    (∃ e after, FirstFailure Laptop.config Rehearsal.actions.recorded "x86_64-linux-gnu"
      (Decision.decide Laptop.undriven).effects Laptop.barred [] e after) ∧
    Laptop.fallen.1 = .integratedOnly ∧
    Laptop.fallen.2.system.requests.map Request.written? =
      [some { base := "/m", names := ["pci-devices", "0000:01:00.0", "power", "control"] }] ∧
    (execute Laptop.config Rehearsal.actions.recorded "x86_64-linux-gnu"
      (Decision.decide Decision.primeLaptop)
      { system := { system := { writeFails := true } } }).1 = .primeOn ∧
    Fragment.serverLayout.bytes? Laptop.config
      (attemptAll Laptop.config Rehearsal.actions.recorded "x86_64-linux-gnu" removals
        (warned Laptop.barred)).tree = none := by
  obtain ⟨hfallen, -, hremoved⟩ := fall_back_exact Laptop.config Rehearsal.actions.recorded
    "x86_64-linux-gnu" (Decision.decide Laptop.undriven) Laptop.barred
  obtain ⟨-, hothers, -⟩ := fall_back_exact Laptop.config Rehearsal.actions.recorded
    "x86_64-linux-gnu" (Decision.decide Decision.primeLaptop)
    { system := { system := { writeFails := true } } }
  have hfirst : FirstFailure Laptop.config Rehearsal.actions.recorded "x86_64-linux-gnu"
      (Decision.decide Laptop.undriven).effects Laptop.barred [] _ _ :=
    ⟨rfl, trivial, rfl, by decide +kernel⟩
  have heq : Laptop.fallen = _ := hfallen _ _ _ rfl hfirst
  have hdone : EnablersDone Laptop.config Rehearsal.actions.recorded "x86_64-linux-gnu"
      (Decision.decide Decision.primeLaptop).effects
      { system := { system := { writeFails := true } } } := by
    decide +kernel
  refine ⟨⟨_, _, hfirst⟩, congrArg Prod.fst heq, ?_, ?_, ?_⟩
  · rw [heq]
    decide +kernel
  · exact congrArg Prod.fst (hothers fun h => (enablersDone_iff _ _).mp hdone h.2)
  · exact hremoved (by decide +kernel) _ (FileTree.linkFree_of_check (by decide +kernel)) _

end HybridGraphics.Run
