import HybridGraphics.Proofs.Decision.Course
import HybridGraphics.Proofs.Run.Prepare
import HybridGraphics.Proofs.World.History

/-!
# What a run asks of the system

Preparing a run asks questions and nothing else (`prepare_asks`). Of the effects, only two
drive modules; the others write an attribute or call the PowerXpress script at most
(`effectSteps_asksOnly`). Falling back asks nothing at all (`fallBack_asks`).
-/

namespace HybridGraphics.Run

open Act (Asks Keeps AsksOnly)

variable {σ : Type} {config : Config}

/-- Gathering the situation asks questions and nothing else. -/
theorem prepare_asks (config : Config) (actions : Actions σ) (w : World (Recorded σ)) :
    AsksOnly Request.isQuestion w (prepare config actions.recorded w).2 := by
  have hR := Act.AsksOnly.frame (σ := σ) Request.isQuestion
  have hedits := Act.edits_asksOnly (σ := σ) Request.isQuestion
  have hsteps : GatherSteps (AsksOnly Request.isQuestion) config actions.recorded :=
    { last := (hedits config.lastSnapshot).write
      new := (hedits config.newSnapshot).write
      listing := Act.noting_asksOnly _ fun _ => rfl
      available := fun _ => Act.noting_asksOnly _ fun _ => rfl
      versioned := fun _ => Act.noting_asksOnly _ fun _ => rfl }
  exact prepare_keeps hR hsteps (fun _ w => Act.asksOnly_of_system_eq (Act.call_system_eq _ _ w)) w

/-- An effect that drives no module writes attributes and calls the PowerXpress script, and asks
nothing else. -/
theorem effectSteps_asksOnly (actions : Actions σ) {ok : Request → Bool}
    (hwrite : ∀ file value answer, ok (.write file value answer) = true)
    (hpx : ∀ script mode answer, ok (.px script mode answer) = true) {e : Effect}
    (he : e.drives = false) : EffectSteps (AsksOnly ok) config actions.recorded e := by
  have hedits := Act.edits_asksOnly (σ := σ) ok
  cases e with
  | writeOutputClass device => exact hedits _
  | writeServerLayout => exact hedits _
  | removeFragment f => exact hedits _
  | loadModule name => cases he
  | unloadNvidiaStack => cases he
  | setRuntimePm device enabled eligibility onBus =>
    exact ⟨fun _ => Act.noting_asksOnly _ (hwrite _ _), hedits _⟩
  | persistPolicy policy => exact hedits _
  | setOffloadingMarker required => exact hedits _
  | runPxScript setting => exact Act.noting_asksOnly _ (hpx _ _)

/-- Falling back asks nothing. -/
theorem fallBack_asks : Asks (fun _ new => new = []) (fallBack config : Act (Recorded σ) Unit) := by
  intro w
  obtain ⟨new, hw, hn⟩ := fallBack_keeps (Act.AsksOnly.frame fun _ => false)
    (fun f => Act.edits_asksOnly _ (Fragment.file config f)) w
  refine ⟨new, hw, List.eq_nil_iff_forall_not_mem.mpr fun q hq => ?_⟩
  cases hn q hq

end HybridGraphics.Run
