import HybridGraphics.Proofs.Run.Footprint

/-!
# The driver's option after a switch to PRIME

Where PRIME is turned on, runtime power management of the card is switched off. That takes two
steps: the card's attribute is set, and the option that an earlier run may have installed for the
driver is removed. If the first step is refused, there is no second one.

`option_left_iff_refused` says that this is the only way for the option to survive a run that ends
with PRIME on. Removing it does not fail where there is one to remove (`removeOption_drops`), and of
all the effects only one is about the option's file, so what is asked and changed before and after
it does not matter (`others_spareOption`).
-/

namespace HybridGraphics.Run

open Act (Asks AsksOnly ChangesTo Keeps)
open Decision (SwitchesOff)
open Pci (Device)

variable {σ : Type} {config : Config} {actions : Actions σ} {triplet : String}

/-! ## What is refused -/

/-- One of the requests was to keep a card powered, and was refused. -/
def Refused (config : Config) (requests : List Request) : Prop :=
  ∃ device cause, .write (RuntimePm.controlFile config device) (RuntimePm.controlValue false)
    (.error cause) ∈ requests

/-- What is refused in a history is refused in one of its parts. -/
theorem refused_append {requests more : List Request} :
    Refused config (requests ++ more) ↔ Refused config requests ∨ Refused config more := by
  simp only [Refused, List.mem_append, exists_or]

theorem not_refused_of_writesNothing {requests : List Request}
    (h : ∀ q ∈ requests, writesNothing q = true) : ¬ Refused config requests := by
  rintro ⟨device, cause, hm⟩
  cases h _ hm

/-- Setting the attribute of a card fails only if it is refused. -/
theorem setControl_refused (actions : Actions σ) (device : Device) (onBus : Bool) :
    Asks (fun outcome new => outcome = .ok () ↔ ¬ Refused config new)
      (RuntimePm.setControl config actions.recorded device false onBus) := by
  unfold RuntimePm.setControl
  cases onBus with
  | true =>
    refine (Asks.noting (.write (RuntimePm.controlFile config device)
      (RuntimePm.controlValue false)) _).bind fun answer new hnew => ?_
    subst hnew
    cases answer with
    | ok _ => exact .pure (by simp [Refused])
    | error cause => exact .pure (by simp [Refused])
  | false => exact .note_bind (.pure (by simp [Refused]))

/-! ## What becomes of the option -/

/-- Nothing is refused, and the option stays as it is. -/
def SparesOption (config : Config) (w w' : World (Recorded σ)) : Prop :=
  ∃ new, w'.system.requests = w.system.requests ++ new ∧ ¬ Refused config new ∧
    ∀ content, w'.tree.read config.runtimePmSnippet = .ok content ↔
      w.tree.read config.runtimePmSnippet = .ok content

/-- The option stays as it is if something is refused, and is gone otherwise. -/
def DropsOption (config : Config) (w w' : World (Recorded σ)) : Prop :=
  ∃ new, w'.system.requests = w.system.requests ++ new ∧
    ∀ content, w'.tree.read config.runtimePmSnippet = .ok content ↔
      w.tree.read config.runtimePmSnippet = .ok content ∧ Refused config new

variable {w w1 w2 : World (Recorded σ)}

/-- A step that spares the option may come before the one that drops it. -/
theorem SparesOption.drops (h : SparesOption config w w1) (h' : DropsOption config w1 w2) :
    DropsOption config w w2 := by
  obtain ⟨new, hnew, hquiet, hread⟩ := h
  obtain ⟨more, hmore, hread'⟩ := h'
  refine ⟨new ++ more, by rw [hmore, hnew, List.append_assoc], fun content => ?_⟩
  rw [hread', hread, refused_append]
  simp only [hquiet, false_or]

/-- It may also come after that. -/
theorem DropsOption.spares (h : DropsOption config w w1) (h' : SparesOption config w1 w2) :
    DropsOption config w w2 := by
  obtain ⟨new, hnew, hread⟩ := h
  obtain ⟨more, hmore, hquiet, hread'⟩ := h'
  refine ⟨new ++ more, by rw [hmore, hnew, List.append_assoc], fun content => ?_⟩
  rw [hread', hread, refused_append]
  simp only [hquiet, or_false]

/-- Where only a write of the attribute comes between, and fails, the option stays. -/
theorem dropsOption_of_refused (h : ∃ new, w1.system.requests = w.system.requests ++ new ∧
    Refused config new) (htree : w1.tree = w.tree) : DropsOption config w w1 := by
  obtain ⟨new, hnew, hrefused⟩ := h
  refine ⟨new, hnew, fun content => ?_⟩
  rw [htree]
  exact ⟨fun hread => ⟨hread, hrefused⟩, And.left⟩

/-! ## The effect that is about it -/

theorem removeOption_tree (config : Config) (w : World σ) :
    (RuntimePm.removeOption config w).2.tree =
      (Act.removeFile config.runtimePmSnippet w).2.tree := by
  simp only [RuntimePm.removeOption, Act.bind_apply]
  match (Act.removeFile config.runtimePmSnippet w).1 with
  | .ok true => rfl
  | .ok false => rfl
  | .error cause => rfl

/-- Removing the option does not fail where there is one. -/
theorem removeOption_drops (hc : config.WritesApart) (free : w.tree.LinkFree) :
    DropsOption config w (RuntimePm.removeOption config w).2 := by
  have hdown : config.runtimePmSnippet.Descends := hc.descends .runtimePmSnippet
  obtain ⟨new, hnew, hquiet⟩ := removeOption_keeps (AsksOnly.frame writesNothing)
    (Act.edits_asksOnly _ config.runtimePmSnippet) w
  refine ⟨new, hnew, fun content => iff_of_false ?_ fun h =>
    not_refused_of_writesNothing hquiet h.2⟩
  rw [removeOption_tree]
  exact Act.read_removeFile_ne hdown free content

/-- Switching off drops the option, unless the write of the attribute is refused. -/
theorem switchOff_drops (hc : config.WritesApart) (ha : actions.KeepsFiles) (device : Device)
    (eligibility : Eligibility) (onBus : Bool) (free : w.tree.LinkFree) :
    DropsOption config w
      (RuntimePm.setRuntimePm config actions.recorded device false eligibility onBus w).2 := by
  obtain ⟨new, hnew, hrefused⟩ : ∃ new, _ ∧ (_ ↔ ¬ Refused config new) :=
    setControl_refused actions device onBus w
  have htree := setControl_tree config ha.recorded device false onBus w
  unfold RuntimePm.setRuntimePm
  simp only [Act.bind_apply]
  cases hset : (RuntimePm.setControl config actions.recorded device false onBus w).1 with
  | error cause =>
    rw [hset] at hrefused
    refine dropsOption_of_refused ⟨new, hnew, ?_⟩ htree
    by_contra hno
    cases hrefused.mpr hno
  | ok done =>
    have hspares : SparesOption config w
        (RuntimePm.setControl config actions.recorded device false onBus w).2 :=
      ⟨new, hnew, hrefused.mp hset, fun content => by rw [htree]⟩
    rw [← htree] at free
    exact hspares.drops (removeOption_drops hc free)

/-- So does attempting to switch off, whatever is made of a failure. -/
theorem attempt_drops (hc : config.WritesApart) (ha : actions.KeepsFiles) (triplet : String)
    (s : Situation) (discrete : Device) (free : w.tree.LinkFree) :
    DropsOption config w
      (attempt config actions.recorded triplet (Decision.runtimePm s discrete false) w).2 := by
  have happly : DropsOption config w
      (apply config actions.recorded triplet (Decision.runtimePm s discrete false) w).2 :=
    switchOff_drops hc ha discrete s.eligibility _ free
  unfold DropsOption at happly ⊢
  rw [(attempt_eq triplet _ w).1, attempt_system_eq]
  exact happly

/-! ## The effects around it -/

/-- Effects that are about other files spare the option. -/
theorem others_spareOption (hc : config.WritesApart) (ha : actions.KeepsFiles) (triplet : String)
    (decided mode : Mode) {effects : List Effect}
    (he : ∀ e ∈ effects, e.file? ≠ some .runtimePmSnippet) (free : w.tree.LinkFree)
    (hw1 : (carryOutFrom (attempt config actions.recorded triplet) (fallBack config) decided mode
      effects w).2 = w1) :
    w1.tree.LinkFree ∧ SparesOption config w w1 := by
  have hdown : config.runtimePmSnippet.Descends := hc.descends .runtimePmSnippet
  have hchanges : Keeps (ChangesTo fun place _ => place ≠ config.runtimePmSnippet.place)
      (carryOutFrom (attempt config actions.recorded triplet) (fallBack config) decided mode
        effects) := by
    have hplace : ∀ file, file ≠ .runtimePmSnippet →
        (config.pathOf file).place ≠ config.runtimePmSnippet.place :=
      fun file hf => (hc.apart file .runtimePmSnippet hf).ne
    refine carryOutFrom_keeps (ChangesTo.frame _) (fallBack_keeps (ChangesTo.frame _) fun f => ?_)
      decided effects mode fun e hm => ?_
    · refine (edits_pathOf hc (.fragment f)).mono fun h => .of_touchesOnly h fun place hp _ => ?_
      rw [List.mem_singleton.mp hp]
      exact hplace _ (by simp)
    · refine (attempt_touches hc ha.recorded triplet e).mono fun h =>
        .of_touchesOnly h fun place hp _ => ?_
      rintro rfl
      exact he e hm (file?_of_mem_places hc hp)
  have hasks : Keeps (AsksOnly writesNothing)
      (carryOutFrom (attempt config actions.recorded triplet) (fallBack config) decided mode
        effects) := by
    refine carryOutFrom_keeps (AsksOnly.frame _)
      (fallBack_keeps (AsksOnly.frame _) fun f => Act.edits_asksOnly _ _) decided effects mode
      fun e hm => attempt_keeps (AsksOnly.frame _) triplet (effectSteps_writesNothing actions ?_)
    rintro device enabled eligibility onBus rfl
    exact he _ hm rfl
  obtain ⟨free1, hallowed⟩ := hchanges w free
  obtain ⟨new, hnew, hquiet⟩ := hasks w
  rw [hw1] at free1 hallowed hnew
  refine ⟨free1, new, hnew, not_refused_of_writesNothing hquiet, fun content => ?_⟩
  have hsame := (hallowed config.runtimePmSnippet.place).resolve_right fun h => h rfl
  exact (FileTree.sameAnswer_read_of_bytes? free free1 hdown hsame).ok_iff.symm

/-- Carrying out a decision that switches runtime power management off drops the option. -/
theorem execute_drops (hc : config.WritesApart) (ha : actions.KeepsFiles) (triplet : String)
    {s : Situation} {d : Decision} (hoff : SwitchesOff s d.effects) (free : w.tree.LinkFree) :
    DropsOption config w (execute config actions.recorded triplet d w).2 := by
  obtain ⟨discrete, before, after, heffects, hothers⟩ := hoff
  have hbefore := fun e he => hothers e (List.mem_append_left _ he)
  have hafter := fun e he => hothers e (List.mem_append_right _ he)
  unfold execute carryOut
  rw [heffects, carryOutFrom_append, Act.bind_apply, carryOutFrom_cons _ _ _ _ rfl, Act.bind_apply]
  obtain ⟨free1, hspares⟩ := others_spareOption hc ha triplet d.mode d.mode hbefore free rfl
  have hdrops := attempt_drops hc ha triplet s discrete free1
  have free2 := attempt_linkFree hc ha.recorded triplet (Decision.runtimePm s discrete false) free1
  obtain ⟨-, hspares'⟩ := others_spareOption hc ha triplet d.mode _ hafter free2 rfl
  exact (hspares.drops hdrops).spares hspares'

/-! ## The main result -/

/-- Until its decision is carried out, a run spares the option. -/
theorem Prepared.sparesOption {w' : World (Recorded σ)} {s : Situation}
    (h : Prepared config actions.recorded w triplet s w') (hc : config.WritesApart)
    (ha : actions.KeepsFiles) (hq : Quiet config w) (free : w.tree.LinkFree) :
    SparesOption config w w' := by
  have hfile : WrittenFile.runtimePmSnippet ≠ .snapshot := by simp
  obtain ⟨new, hnew, hquestions⟩ := prepare_asks config actions w
  rw [h.eq] at hnew
  refine ⟨new, hnew, ?_, fun content => ?_⟩
  · rintro ⟨device, cause, hm⟩
    cases hquestions _ hm
  · exact (h.sameAnswer_read hc ha.recorded hq free hfile).ok_iff.symm

/-- After a run that ends with PRIME on, the option is left if it was there and keeping the card
powered was refused, and in no other case. -/
theorem option_left_iff_refused {w : World (Recorded σ)} (hc : config.WritesApart)
    (ha : actions.KeepsFiles) (hq : Quiet config w) (free : w.tree.LinkFree)
    (hdir : ¬ w.tree.DirAt config.runtimePmSnippet.place)
    (hmode : (run config actions.recorded w).1 = .ok .primeOn) :
    ∃ new, (run config actions.recorded w).2.system.requests = w.system.requests ++ new ∧
      ((run config actions.recorded w).2.tree.has config.runtimePmSnippet = true ↔
        w.tree.has config.runtimePmSnippet = true ∧ Refused config new) := by
  have hdown : config.runtimePmSnippet.Descends := hc.descends .runtimePmSnippet
  have hfile : WrittenFile.runtimePmSnippet ≠ .snapshot := by simp
  rcases run_cases config actions.recorded w with ⟨-, hnone, -⟩ | ⟨cause, hfails, -⟩ |
    ⟨triplet, s, w', h⟩
  · cases hmode.symm.trans hnone
  · cases hmode.symm.trans hfails
  have hoff : SwitchesOff s (Decision.decide s).effects :=
    Decision.switchesOff_of_primeOn (h.mode_eq hmode (by simp))
  have hexecute := execute_drops hc ha triplet hoff (h.linkFree_and_dirAt hc ha.recorded free).1
  obtain ⟨new, hnew, hleft⟩ := (h.sparesOption hc ha hq free).drops hexecute
  obtain ⟨freeEnd, hdirEnd⟩ := h.run_noDir hc ha.recorded free hfile hdir
  rw [h.run_eq] at freeEnd hdirEnd ⊢
  refine ⟨new, hnew, ?_⟩
  rw [FileTree.has_iff_read freeEnd hdown hdirEnd, FileTree.has_iff_read free hdown hdir]
  simp only [hleft, exists_and_right]

/-- A laptop with the option in place, on which no attribute can be written. -/
def Laptop.readOnly : World (Recorded Rehearsal) :=
  { tree := ⟨[("m", .dir [
      ("lspci", Laptop.file "8086:3e9b;0000:00:02:0;1\n10de:1f91;0000:01:00:0;0\n"),
      ("prime-discrete", Laptop.file "on\n"),
      ("nvidia-runtimepm.conf", Laptop.file RuntimePm.driverOption)])]⟩
    system := { system := { loaded := ["nvidia"], writeFails := true } } }

/-- Its run ends with PRIME on, and the option is still there. -/
theorem option_left_iff_refused_laptop :
    (run Laptop.config Rehearsal.actions.recorded Laptop.readOnly).1 = .ok .primeOn ∧
      (run Laptop.config Rehearsal.actions.recorded Laptop.readOnly).2.tree.has
          Laptop.config.runtimePmSnippet = true ∧
        Refused Laptop.config
          (run Laptop.config Rehearsal.actions.recorded Laptop.readOnly).2.system.requests := by
  have hmode : (run Laptop.config Rehearsal.actions.recorded Laptop.readOnly).1 = .ok .primeOn := by
    decide +kernel
  have hthere : (run Laptop.config Rehearsal.actions.recorded Laptop.readOnly).2.tree.has
      Laptop.config.runtimePmSnippet = true := by decide +kernel
  obtain ⟨new, hnew, hleft⟩ := option_left_iff_refused (by decide +kernel)
    Rehearsal.actions_keepsFiles (fun _ _ h => by cases h)
    (FileTree.linkFree_of_check (by decide +kernel)) (by decide +kernel) hmode
  refine ⟨hmode, hthere, ?_⟩
  rw [hnew, refused_append]
  exact .inr (hleft.mp hthere).2

end HybridGraphics.Run
