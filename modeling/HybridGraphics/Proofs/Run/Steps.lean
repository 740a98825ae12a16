import HybridGraphics.Proofs.World.Frame
import HybridGraphics.Run.Run

/-!
# The steps of a run

A run is put together from few steps that change anything. For any frame, these are
what has to be looked at, and this file says which: `GatherSteps` for gathering the
situation, `EffectSteps` for each effect. Whatever relation these keep, gathering keeps
(`gather_keeps`), an effect keeps, done or not (`attempt_keeps`), and so does
carrying a whole list of effects out, with its fall back (`carryOutFrom_keeps`).
-/

namespace HybridGraphics.Run

open Act (Frame Keeps Edits)

variable {σ : Type} {R : World σ → World σ → Prop}

/-! ## Gathering -/

/-- Asking about the drivers keeps the relation. -/
structure DriverSteps (R : World σ → World σ → Prop) (actions : Actions σ) : Prop where
  listing : Keeps R actions.moduleListing
  available : ∀ name, Keeps R (actions.moduleAvailable name)
  versioned : ∀ name, Keeps R (actions.moduleVersioned name)

/-- The steps that gathering is made of keep the relation. -/
structure GatherSteps (R : World σ → World σ → Prop) (config : Config) (actions : Actions σ) :
    Prop extends DriverSteps R actions where
  last : ∀ text, Keeps R (Act.writeText config.lastSnapshot text : Act σ (Except Fault Unit))
  new : ∀ text, Keeps R (Act.writeText config.newSnapshot text : Act σ (Except Fault Unit))

/-- Asking whether a module is loaded keeps what reading the table keeps. -/
theorem isLoaded_keeps (hR : Frame R) {actions : Actions σ} (h : Keeps R actions.moduleListing)
    (name : String) : Keeps R (KernelModule.isLoaded actions name) := by
  refine h.bind hR fun answer => ?_
  cases answer with
  | ok listing => exact .pure hR _
  | error cause => exact (Keeps.note hR _ _).bind hR fun _ => .pure hR _

theorem wasUnloaded_keeps (hR : Frame R) {actions : Actions σ}
    (h : Keeps R actions.moduleListing) (config : Config) (name : String) :
    Keeps R (KernelModule.wasUnloaded config actions name) := by
  refine (Keeps.get hR).bind hR fun w => ?_
  have hsay : ∀ unloaded : Bool, Keeps R (do
      Act.info s!"Was {name} unloaded? {yesNo unloaded}"
      return unloaded : Act σ Bool) := fun _ => (Keeps.note hR _ _).bind hR fun _ => .pure hR _
  refine Keeps.ite ?_ ?_
  · exact (isLoaded_keeps hR h name).bind hR fun _ => (Keeps.pure hR _).bind hR hsay
  · exact (Keeps.pure hR _).bind hR hsay

theorem driverStates_keeps (hR : Frame R) {config : Config} {actions : Actions σ}
    (h : DriverSteps R actions) (devices : List Pci.Device) :
    Keeps R (driverStates config actions devices) := by
  have hloaded : ∀ name, Keeps R (reportLoaded actions name) := fun name =>
    (isLoaded_keeps hR h.listing name).bind hR fun _ =>
      (Keeps.note hR _ _).bind hR fun _ => .pure hR _
  have hunloaded := wasUnloaded_keeps hR h.listing config
  refine (hloaded _).bind hR fun nvidiaLoaded => ?_
  refine (hloaded _).bind hR fun _ => ?_
  refine (hloaded _).bind hR fun amdgpuLoaded => ?_
  refine (hloaded _).bind hR fun _ => ?_
  refine (hunloaded _).bind hR fun _ => ?_
  refine (hunloaded _).bind hR fun _ => ?_
  refine (Keeps.look hR _).bind hR fun _ => ?_
  refine (Keeps.note hR _ _).bind hR fun _ => ?_
  refine Keeps.branch hR (.pure hR _) (h.available _) fun _ => ?_
  refine (Keeps.note hR _ _).bind hR fun _ => ?_
  refine Keeps.branch hR (h.versioned _) (.pure hR _) fun _ => ?_
  exact (Keeps.note hR _ _).bind hR fun _ => .pure hR _

/-- Loading a snapshot keeps what writing one keeps, since a missing one is created. -/
theorem load_keeps (hR : Frame R) {file : Path}
    (h : ∀ text, Keeps R (Act.writeText file text : Act σ (Except Fault Unit))) :
    Keeps R (Snapshot.load file : Act σ (Except Snapshot.Error _)) := by
  refine (Keeps.get hR).bind hR fun w => ?_
  cases w.tree.read file with
  | ok content =>
    refine (Keeps.look hR _).bind hR fun parsed => ?_
    cases parsed with
    | ok devices => exact .pure hR _
    | error cause => exact .pure hR _
  | error cause =>
    cases cause with
    | notFound =>
      refine (Keeps.note hR _ _).bind hR fun _ => (h _).bind hR fun written => ?_
      cases written with
      | ok _ => exact .pure hR _
      | error cause => exact .pure hR _
    | _ => exact .pure hR _

theorem save_keeps (hR : Frame R) {file : Path}
    (h : ∀ text, Keeps R (Act.writeText file text : Act σ (Except Fault Unit)))
    (devices : List Pci.Device) :
    Keeps R (Snapshot.save file devices : Act σ (Except Snapshot.Error Unit)) := by
  refine (h _).bind hR fun written => ?_
  cases written with
  | ok _ => exact .pure hR _
  | error cause => exact .pure hR _

/-- Recording the cards loads one snapshot and saves one, which may be different files. -/
theorem recordDevices_keeps (hR : Frame R) {config : Config}
    (hlast : ∀ text, Keeps R (Act.writeText config.lastSnapshot text : Act σ (Except Fault Unit)))
    (hnew : ∀ text, Keeps R (Act.writeText config.newSnapshot text : Act σ (Except Fault Unit)))
    (devices : List Pci.Device) : Keeps R (recordDevices config devices : Act σ _) := by
  refine (load_keeps hR hlast).bind hR fun loaded => ?_
  cases loaded with
  | error cause => exact .pure hR _
  | ok last =>
    refine (save_keeps hR hnew devices).bind hR fun saved => ?_
    cases saved with
    | ok _ => exact .pure hR _
    | error cause => exact .pure hR _

theorem reportDevices_keeps (hR : Frame R) (devices : List Pci.Device) :
    Keeps R (reportDevices devices : Act σ Unit) := by
  have hnotes : Keeps R (do
      Act.info s!"Has amd? {yesNo (hasVendor Pci.Vendor.amd devices)}"
      Act.info s!"Has intel? {yesNo (hasVendor Pci.Vendor.intel devices)}"
      Act.info s!"Has nvidia? {yesNo (hasVendor Pci.Vendor.nvidia devices)}" : Act σ Unit) :=
    (Keeps.note hR _ _).bind hR fun _ => (Keeps.note hR _ _).bind hR fun _ => .note hR _ _
  refine Keeps.ite ?_ ?_
  · exact (Keeps.note hR _ _).bind hR fun _ => hnotes
  · exact hnotes

/-- Gathering for the cards that were found is recording them and asking about the drivers. -/
theorem gatherFor_keeps (hR : Frame R) {config : Config} {actions : Actions σ}
    (h : GatherSteps R config actions) (triplet : String) (scan : Pci.Scan) :
    Keeps R (gatherFor config actions triplet scan) := by
  refine (reportDevices_keeps hR _).bind hR fun _ => ?_
  refine (Keeps.note hR _ _).bind hR fun _ => (Keeps.get hR).bind hR fun w => ?_
  refine (recordDevices_keeps hR h.last h.new _).bind hR fun recorded => ?_
  cases recorded with
  | error cause => exact .pure hR _
  | ok last =>
    refine (Keeps.note hR _ _).bind hR fun _ => ?_
    have hrest : Keeps R (do
        let drivers ← driverStates config actions scan.devices
        return .ok (← Act.look (situationOf config triplet scan last
          (neededOffloading config w.tree) drivers)) : Act σ (Except Error Situation)) :=
      (driverStates_keeps hR h.toDriverSteps _).bind hR fun _ => (Keeps.look hR _).bind hR fun _ => .pure hR _
    refine Keeps.ite ?_ ?_
    · exact (Keeps.note hR _ _).bind hR fun _ => hrest
    · exact hrest

theorem gather_keeps (hR : Frame R) {config : Config} {actions : Actions σ}
    (h : GatherSteps R config actions) (triplet : String) :
    Keeps R (gather config actions triplet) := by
  refine (Keeps.look hR _).bind hR fun found => ?_
  cases found with
  | error cause => exact .pure hR _
  | ok scan => exact gatherFor_keeps hR h triplet scan

/-- What the package manager is asked for keeps what asking it keeps. -/
theorem triplet_keeps (hR : Frame R) (given : Option String)
    (h : given = none → Keeps R (Act.call "dpkg" ["--print-architecture"])) :
    Keeps R (Architecture.triplet given : Act σ _) := by
  have hname : Keeps R (Architecture.name given : Act σ _) := by
    cases given with
    | some architecture => exact .pure hR _
    | none =>
      refine (h rfl).bind hR fun answer => ?_
      cases answer with
      | ok output => exact .pure hR _
      | error cause => exact .pure hR _
  refine hname.bind hR fun found => ?_
  cases found with
  | error cause => exact .pure hR _
  | ok architecture =>
    refine (Keeps.note hR _ _).bind hR fun _ => ?_
    cases Architecture.triplet? architecture with
    | some triplet => exact .pure hR _
    | none => exact .pure hR _

/-! ## Effects -/

/-- The steps that an effect is made of keep the relation. -/
def EffectSteps (R : World σ → World σ → Prop) (config : Config) (actions : Actions σ) :
    Effect → Prop
  | .writeOutputClass _ => Edits R (Fragment.outputClass.file config)
  | .writeServerLayout => Edits R (Fragment.serverLayout.file config)
  | .removeFragment fragment => Edits R (fragment.file config)
  | .loadModule name => Keeps R (actions.loadModule name none)
  | .unloadNvidiaStack =>
    Keeps R actions.moduleListing
      ∧ (∀ name ∈ KernelModule.nvidiaStack, Keeps R (actions.unloadModule name))
      ∧ Keeps R (actions.terminateSession config.displayServers config.sessionUser)
  | .setRuntimePm device _ _ _ =>
    (∀ value, Keeps R (actions.writeAttribute (RuntimePm.controlFile config device) value))
      ∧ Edits R config.runtimePmSnippet
  | .persistPolicy _ => Edits R config.policyFile
  | .setOffloadingMarker _ => Edits R config.offloadingMarker
  | .runPxScript setting => Keeps R (actions.runPxScript config.pxScript setting)

theorem writeFragment_keeps (hR : Frame R) {config : Config} {fragment : Fragment}
    (h : Edits R (fragment.file config)) (text : List Char) :
    Keeps R (Fragment.write config fragment text : Act σ _) := by
  refine (Keeps.note hR _ _).bind hR fun _ => (h.write text).bind hR fun written => ?_
  cases written with
  | ok _ => exact .pure hR _
  | error cause => exact .pure hR _

theorem removeFragment_keeps (hR : Frame R) {config : Config} {fragment : Fragment}
    (h : Edits R (fragment.file config)) : Keeps R (Fragment.remove config fragment : Act σ _) := by
  refine h.remove.bind hR fun removed => ?_
  match removed with
  | .ok true => exact (Keeps.note hR _ _).bind hR fun _ => .pure hR _
  | .ok false => exact .pure hR _
  | .error cause => exact .pure hR _

/-- One pass over a stack keeps what reading the table and unloading its modules keep. -/
theorem unloadListed_keeps (hR : Frame R) {actions : Actions σ}
    (hlisting : Keeps R actions.moduleListing) :
    ∀ stack : List String, (∀ name ∈ stack, Keeps R (actions.unloadModule name)) →
      Keeps R (KernelModule.unloadListed actions stack)
  | [], _ => .pure hR ()
  | name :: rest, h => by
    have ih := unloadListed_keeps hR hlisting rest fun n hn => h n (List.mem_cons_of_mem _ hn)
    refine (isLoaded_keeps hR hlisting name).bind hR fun loaded => ?_
    refine Keeps.ite ?_ ih
    refine (h name List.mem_cons_self).bind hR fun answer => ?_
    cases answer with
    | ok _ => exact ih
    | error cause => exact (Keeps.note hR _ _).bind hR fun _ => ih

theorem firstListed_keeps (hR : Frame R) {actions : Actions σ}
    (hlisting : Keeps R actions.moduleListing) :
    ∀ stack : List String, Keeps R (KernelModule.firstListed actions stack)
  | [] => .pure hR none
  | name :: rest =>
    (isLoaded_keeps hR hlisting name).bind hR fun _ =>
      .ite (.pure hR _) (firstListed_keeps hR hlisting rest)

/-- Unloading a stack may take ending the display session as well, and nothing else. -/
theorem unloadStack_keeps (hR : Frame R) {config : Config} {actions : Actions σ}
    (hlisting : Keeps R actions.moduleListing) {stack : List String}
    (hunload : ∀ name ∈ stack, Keeps R (actions.unloadModule name))
    (hterminate : Keeps R (actions.terminateSession config.displayServers config.sessionUser)) :
    Keeps R (KernelModule.unloadStack config actions stack) := by
  have hpass : Keeps R (KernelModule.unloadInOrder actions stack) :=
    (unloadListed_keeps hR hlisting stack hunload).bind hR fun _ =>
      firstListed_keeps hR hlisting stack
  refine hpass.bind hR fun left => ?_
  cases left with
  | none => exact .pure hR _
  | some pinned =>
    refine (Keeps.note hR _ _).bind hR fun _ => hterminate.bind hR fun answer => ?_
    match answer with
    | .error cause => exact .pure hR _
    | .ok false => exact .pure hR _
    | .ok true =>
      refine hpass.bind hR fun left => ?_
      cases left with
      | none => exact .pure hR _
      | some name => exact .pure hR _

theorem installOption_keeps (hR : Frame R) {config : Config}
    (hedits : Edits R config.runtimePmSnippet) :
    Keeps R (RuntimePm.installOption config : Act σ _) := by
  refine (Keeps.note hR _ _).bind hR fun _ => (hedits.write _).bind hR fun written => ?_
  cases written with
  | ok _ => exact .pure hR _
  | error cause => exact .pure hR _

theorem removeOption_keeps (hR : Frame R) {config : Config}
    (hedits : Edits R config.runtimePmSnippet) :
    Keeps R (RuntimePm.removeOption config : Act σ _) := by
  refine hedits.remove.bind hR fun removed => ?_
  match removed with
  | .ok true => exact (Keeps.note hR _ _).bind hR fun _ => .pure hR _
  | .ok false => exact .pure hR _
  | .error cause => exact .pure hR _

theorem setOption_keeps (hR : Frame R) {config : Config} (hedits : Edits R config.runtimePmSnippet)
    (enabled : Bool) (eligibility : Eligibility) :
    Keeps R (RuntimePm.setOption config enabled eligibility : Act σ _) :=
  .ite (.ite (installOption_keeps hR hedits) (.pure hR _)) (removeOption_keeps hR hedits)

/-- Setting runtime power management writes an attribute and edits the option's file. -/
theorem setRuntimePm_keeps (hR : Frame R) {config : Config} {actions : Actions σ}
    {device : Pci.Device}
    (hwrite : ∀ value, Keeps R (actions.writeAttribute (RuntimePm.controlFile config device) value))
    (hedits : Edits R config.runtimePmSnippet) (enabled : Bool) (eligibility : Eligibility)
    (onBus : Bool) :
    Keeps R (RuntimePm.setRuntimePm config actions device enabled eligibility onBus) := by
  have hcontrol : Keeps R (RuntimePm.setControl config actions device enabled onBus) := by
    refine Keeps.ite ?_ ?_
    · refine (hwrite _).bind hR fun written => ?_
      cases written with
      | ok _ => exact .pure hR _
      | error cause => exact .pure hR _
    · exact (Keeps.note hR _ _).bind hR fun _ => .pure hR _
  refine hcontrol.bind hR fun outcome => ?_
  cases outcome with
  | error cause => exact .pure hR _
  | ok _ => exact setOption_keeps hR hedits enabled eligibility

/-- An effect keeps what its steps keep. -/
theorem apply_keeps (hR : Frame R) {config : Config} {actions : Actions σ} (triplet : String)
    {effect : Effect} (h : EffectSteps R config actions effect) :
    Keeps R (apply config actions triplet effect) := by
  cases effect with
  | writeOutputClass device => exact (writeFragment_keeps hR h _).map hR _
  | writeServerLayout => exact (writeFragment_keeps hR h _).map hR _
  | removeFragment fragment => exact (removeFragment_keeps hR h).map hR _
  | loadModule name =>
    refine Keeps.map hR (h.bind hR fun answer => ?_) _
    cases answer with
    | ok _ => exact .pure hR _
    | error cause => exact .pure hR _
  | unloadNvidiaStack => exact (unloadStack_keeps hR h.1 h.2.1 h.2.2).map hR _
  | setRuntimePm device enabled eligibility onBus =>
    exact (setRuntimePm_keeps hR h.1 h.2 enabled eligibility onBus).map hR _
  | persistPolicy policy =>
    refine Keeps.map hR ((Keeps.note hR _ _).bind hR fun _ => (h.write _).bind hR fun written => ?_) _
    cases written with
    | ok _ => exact .pure hR _
    | error cause => exact .pure hR _
  | setOffloadingMarker required =>
    refine Keeps.ite ((Keeps.note hR _ _).bind hR fun _ => .pure hR _) (Keeps.ite ?_ ?_)
    · exact (h.write _).map hR _
    · exact h.remove.map hR _
  | runPxScript setting => exact Keeps.map hR h _

/-- An attempt keeps what the steps of the effect keep. -/
theorem attempt_keeps (hR : Frame R) {config : Config} {actions : Actions σ} (triplet : String)
    {effect : Effect} (h : EffectSteps R config actions effect) :
    Keeps R (attempt config actions triplet effect) := by
  refine (apply_keeps hR triplet h).bind hR fun outcome => ?_
  cases outcome with
  | ok _ => exact .pure hR _
  | error cause => exact (Keeps.note hR _ _).bind hR fun _ => .pure hR _

theorem discard_keeps (hR : Frame R) {config : Config} {fragment : Fragment}
    (h : Edits R (fragment.file config)) : Keeps R (discard config fragment : Act σ Unit) := by
  refine (removeFragment_keeps hR h).bind hR fun outcome => ?_
  cases outcome with
  | ok _ => exact .pure hR _
  | error cause => exact .note hR _ _

/-- Falling back edits the files of the fragments. -/
theorem fallBack_keeps (hR : Frame R) {config : Config}
    (h : ∀ fragment : Fragment, Edits R (fragment.file config)) :
    Keeps R (fallBack config : Act σ Unit) :=
  (Keeps.note hR _ _).bind hR fun _ =>
    (discard_keeps hR (h .outputClass)).bind hR fun _ => discard_keeps hR (h .serverLayout)

/-! ## Carrying out -/

/-- Effects are carried out one list after another. -/
theorem carryOutFrom_append {m : Type → Type} [Monad m] [LawfulMonad m]
    (attempt : Effect → m Bool) (fallBack : m Unit) (decided : Mode) (later : List Effect) :
    ∀ (effects : List Effect) (mode : Mode),
      carryOutFrom attempt fallBack decided mode (effects ++ later) =
        carryOutFrom attempt fallBack decided mode effects >>= fun reached =>
          carryOutFrom attempt fallBack decided reached later
  | [], mode => by rw [List.nil_append, carryOutFrom, pure_bind]
  | e :: rest, mode => by
    have ih := carryOutFrom_append attempt fallBack decided later rest
    rw [List.cons_append, carryOutFrom, carryOutFrom]
    split
    · exact ih mode
    · rw [bind_assoc]
      refine bind_congr fun done => ?_
      split
      · exact ih mode
      · split
        · rw [bind_assoc]
          exact bind_congr fun _ => ih .integratedOnly
        · exact ih mode

/-- An effect that does not enable the discrete card is attempted in any case, and changes nothing
about the mode. -/
theorem carryOutFrom_cons {m : Type → Type} [Monad m] (attempt : Effect → m Bool)
    (fallBack : m Unit) (decided mode : Mode) {e : Effect} (he : e.enablesDiscrete = false)
    (rest : List Effect) :
    carryOutFrom attempt fallBack decided mode (e :: rest) =
      attempt e >>= fun _ => carryOutFrom attempt fallBack decided mode rest := by
  rw [carryOutFrom, he, Bool.and_false, Bool.and_false]
  simp only [Bool.false_eq_true, if_false, ite_self]

/-- Carrying effects out leaves the mode that was reached so far, or falls back. -/
theorem carryOutFrom_mode (attempt : Effect → Act σ Bool) (fallBack : Act σ Unit) (decided : Mode) :
    ∀ (effects : List Effect) (mode : Mode) (w : World σ),
      (carryOutFrom attempt fallBack decided mode effects w).1 = mode ∨
        (carryOutFrom attempt fallBack decided mode effects w).1 = .integratedOnly
  | [], mode, w => .inl rfl
  | e :: rest, mode, w => by
    have ih := carryOutFrom_mode attempt fallBack decided rest
    rw [carryOutFrom]
    split
    · exact ih mode w
    · rw [Act.bind_apply]
      split
      · exact ih mode _
      · split
        · rw [Act.bind_apply]
          exact .inr ((ih .integratedOnly _).elim id id)
        · exact ih mode _

/-- A list of effects keeps what each of them keeps, if the fall back does too. -/
theorem carryOutFrom_keeps (hR : Frame R) {attempt : Effect → Act σ Bool} {fallBack : Act σ Unit}
    (hfall : Keeps R fallBack) (decided : Mode) :
    ∀ (effects : List Effect) (mode : Mode), (∀ e ∈ effects, Keeps R (attempt e)) →
      Keeps R (carryOutFrom attempt fallBack decided mode effects)
  | [], mode, _ => .pure hR mode
  | effect :: rest, mode, h => by
    have ih := fun mode => carryOutFrom_keeps hR hfall decided rest mode
      fun e he => h e (List.mem_cons_of_mem _ he)
    refine Keeps.ite (ih mode) ((h effect List.mem_cons_self).bind hR fun done => ?_)
    exact .ite (ih mode) (.ite (hfall.bind hR fun _ => ih _) (ih mode))

/-- Carrying a decision out keeps what its effects keep and falling back keeps. -/
theorem execute_keeps (hR : Frame R) {config : Config} {actions : Actions σ} (triplet : String)
    {d : Decision} (hfall : ∀ fragment : Fragment, Edits R (fragment.file config))
    (h : ∀ e ∈ d.effects, EffectSteps R config actions e) :
    Keeps R (execute config actions triplet d) :=
  carryOutFrom_keeps hR (fallBack_keeps hR hfall) d.mode d.effects d.mode
    fun e he => attempt_keeps hR triplet (h e he)

end HybridGraphics.Run
