import HybridGraphics.Proofs.Decision.OnlyPrime
import HybridGraphics.Proofs.Run.FragmentsMatch
import HybridGraphics.Proofs.Run.Requests
import HybridGraphics.Proofs.Run.Survey

/-!
# One card throughout

Gathering and deciding each pick an NVIDIA card, and neither asks the other. Gathering takes the
first NVIDIA card that is not the firmware's primary one, the one known by its mark coming last.
Deciding takes the first card that is not the primary one, and looks at its vendor then, or the
one known by its mark. `selected_card_throughout` says that wherever an effect is about a card, both
have picked the same. So the eligibility that runtime power management goes by was resolved for
the card it is set for, and the fragment was compared with the text that would be written.

A card that has left the bus has no attribute to write. That a run writes none of it, but at most
one of a card that it found, is read off the effects: what a list of effects writes is part of
what they would control (`carryOutFrom_controls`), and of all decisions only PRIME controls a card,
and only one (`decide_controls`).
-/

namespace HybridGraphics

open Pci (Device Vendor Scan)

variable {σ : Type}

/-! ## Effects by their card -/

namespace Effect

/-- The card that an effect is about. -/
def device? : Effect → Option Device
  | writeOutputClass device => some device
  | setRuntimePm device _ _ _ => some device
  | _ => none

/-- The attributes that an effect writes. -/
def controls (config : Config) : Effect → List Path
  | setRuntimePm device _ _ true => [RuntimePm.controlFile config device]
  | _ => []

end Effect

/-- The attribute that is written. -/
def Request.written? : Request → Option Path
  | write file _ _ => some file
  | _ => none

namespace Decision

variable {config : Config} {s : Situation} {discrete d : Device} {e : Effect}

/-- An effect about a card, as PRIME has it. -/
def PrimeEffect (s : Situation) (discrete : Device) (e : Effect) : Prop :=
  e = .writeOutputClass discrete ∨ ∃ enabled, e = runtimePm s discrete enabled

/-- An effect on a card that PRIME aims at is about its own card. -/
theorem primeEffect_of_mem_aims {mode : Mode} {aims : List Effect}
    (h : Course.PrimeWay s discrete mode aims) (he : e ∈ aims) (hd : e.device? = some d) :
    PrimeEffect s discrete e := by
  have hon : e ∈ Course.primeOnGoals s discrete → PrimeEffect s discrete e := by
    intro he
    simp only [Course.primeOnGoals, List.mem_cons, List.not_mem_nil, or_false] at he
    rcases he with rfl | rfl | rfl | rfl
    · exact .inl rfl
    · cases hd
    · exact .inr ⟨false, rfl⟩
    · cases hd
  cases h with
  | off policy =>
    simp only [List.mem_cons, List.not_mem_nil, or_false] at he
    rcases he with rfl | rfl | rfl | rfl
    · cases hd
    · cases hd
    · cases hd
    · exact .inr ⟨true, rfl⟩
  | on policy => exact hon he
  | onDemand policy capable =>
    simp only [List.mem_cons, List.not_mem_nil, or_false] at he
    rcases he with rfl | rfl | rfl | rfl
    · cases hd
    · cases hd
    · exact .inr ⟨true, rfl⟩
    · cases hd
  | tooOld policy old =>
    rcases List.mem_cons.mp he with rfl | he
    · cases hd
    · exact hon he

/-- Only PRIME has effects about a card. -/
theorem primeEffect_of_mem (he : e ∈ (decide s).effects) (hd : e.device? = some d) :
    d.vendor = Vendor.nvidia ∧ PrimeRoute s d ∧ PrimeEffect s d e := by
  have hcommon : e.isCommon = false := by
    cases e <;> first | rfl | cases hd
  obtain ⟨discrete, nvidia, route, -, -, hmem⟩ := prime_of_mem he hcommon
  have hgoal := (Course.prime_sublist s discrete).subset hmem
  have hprime := primeEffect_of_mem_aims (Course.primeWay s discrete) hgoal hd
  have hsame : d = discrete := by
    rcases hprime with rfl | ⟨enabled, rfl⟩
    · exact (Option.some.inj hd).symm
    · exact (Option.some.inj hd).symm
  subst hsame
  exact ⟨nvidia, route, hprime⟩

/-! ## Decisions by what they control -/

theorem controls_optional (b : Bool) (e : Effect) :
    (if b then [e] else []).flatMap (Effect.controls config) =
      if b then e.controls config else [] := by
  cases b <;> simp

theorem controls_removeFragments (s : Situation) :
    (removeFragments s).flatMap (Effect.controls config) = [] := by
  simp [removeFragments, controls_optional, Effect.controls]

theorem controls_loadDriver (s : Situation) :
    (loadDriver s).flatMap (Effect.controls config) = [] := by
  unfold loadDriver
  split <;> rfl

/-- Switching runtime power management controls the card, if it is on the bus. -/
theorem controls_runtimePm (s : Situation) (discrete : Device) (enabled : Bool) :
    (runtimePm s discrete enabled).controls config =
      if s.devices.any (·.sameIdentity discrete) then [RuntimePm.controlFile config discrete]
      else [] := by
  unfold runtimePm
  cases s.devices.any (·.sameIdentity discrete) <;> rfl

/-- Turning PRIME on writes one attribute at most, that of its card. -/
theorem controls_primeOn {before : List Effect}
    (hb : before.flatMap (Effect.controls config) = []) :
    (primeOn s discrete before).effects.flatMap (Effect.controls config) =
      (runtimePm s discrete false).controls config := by
  simp only [primeOn, List.flatMap_append, List.flatMap_cons, controls_optional, hb,
    controls_loadDriver]
  simp [Effect.controls]

theorem controls_primeOnDemand :
    (primeOnDemand s discrete).effects.flatMap (Effect.controls config) =
      (runtimePm s discrete true).controls config := by
  simp only [primeOnDemand, List.flatMap_append, List.flatMap_cons, controls_optional,
    controls_loadDriver]
  simp [Effect.controls]

theorem controls_primeOff :
    (primeOff s discrete).effects.flatMap (Effect.controls config) =
      (runtimePm s discrete true).controls config := by
  simp only [primeOff, List.flatMap_append, List.flatMap_cons, List.flatMap_nil,
    controls_optional, controls_removeFragments]
  simp [Effect.controls]

/-- However PRIME goes, it switches runtime power management of its card once. -/
theorem controls_prime (s : Situation) (discrete : Device) :
    (prime s discrete).effects.flatMap (Effect.controls config) =
      if s.devices.any (·.sameIdentity discrete) then [RuntimePm.controlFile config discrete]
      else [] := by
  unfold prime
  split
  · rw [controls_primeOff, controls_runtimePm]
  · rw [controls_primeOn rfl, controls_runtimePm]
  · split
    · rw [controls_primeOnDemand, controls_runtimePm]
    · exact (controls_primeOn rfl).trans (controls_runtimePm s discrete false)

/-- A decision controls nothing, or one NVIDIA card that is on the bus and not the primary one. -/
theorem decide_controls (config : Config) (s : Situation) :
    (decide s).effects.flatMap (Effect.controls config) = [] ∨
      ∃ discrete ∈ s.devices, discrete.vendor = Vendor.nvidia ∧ discrete.bootVga = false ∧
        (decide s).effects.flatMap (Effect.controls config) =
          [RuntimePm.controlFile config discrete] := by
  have hmarker : (decide s).effects.flatMap (Effect.controls config) =
      (choose s).effects.flatMap (Effect.controls config) := by
    rw [(decide_effects s).2, List.flatMap_append]
    split <;> simp [Effect.controls]
  rw [hmarker]
  generalize hm : (choose s).mode = mode
  generalize heffects : (choose s).effects = effects
  have hchosen := chosen s
  rw [hm, heffects] at hchosen
  cases hchosen with
  | nothing few => exact .inl rfl
  | prime discrete nvidia route =>
    rw [controls_prime]
    cases route with
    | restored integrated single intel restorable =>
      -- the card to bring back is no Intel card, so it is not the one that was found
      have hne : (Vendor.intel == Vendor.nvidia) = false := by decide
      refine .inl (if_neg ?_)
      simp [single, Device.sameIdentity, intel, nvidia, hne]
    | beside boot several primary integrated other capable =>
      split
      next =>
        have hboot := List.find?_some other
        exact .inr ⟨discrete, List.mem_of_find?_eq_some other, nvidia, by simpa using hboot, rfl⟩
      next => exact .inl rfl
  | powerXpress setting => exact .inl rfl
  | integratedAlone single => exact .inl (controls_removeFragments s)
  | discreteAlone single =>
    simp only [discreteOnly, controls_optional]
    simp [Effect.controls]
  | muxed several => exact .inl (controls_removeFragments s)

end Decision

namespace Run

open Act (Asks AsksOnly Keeps)

variable {config : Config} {actions : Actions σ}

/-! ## What the effects write -/

/-- Writes no attribute. -/
def writesNothing (q : Request) : Bool := q.written?.isNone

theorem written?_of_writesNothing {new : List Request} (h : ∀ q ∈ new, writesNothing q = true) :
    new.filterMap Request.written? = [] :=
  List.filterMap_eq_nil_iff.mpr fun q hq => Option.isNone_iff_eq_none.mp (h q hq)

/-- Of all effects, only runtime power management writes an attribute. -/
theorem effectSteps_writesNothing (actions : Actions σ) {e : Effect}
    (he : ∀ device enabled eligibility onBus,
      e ≠ .setRuntimePm device enabled eligibility onBus) :
    EffectSteps (AsksOnly writesNothing) config actions.recorded e := by
  have hedits := Act.edits_asksOnly (σ := σ) writesNothing
  cases e with
  | writeOutputClass device => exact hedits _
  | writeServerLayout => exact hedits _
  | removeFragment f => exact hedits _
  | loadModule name => exact Act.noting_asksOnly _ fun _ => rfl
  | unloadNvidiaStack =>
    exact ⟨Act.noting_asksOnly _ fun _ => rfl, fun _ _ => Act.noting_asksOnly _ fun _ => rfl,
      Act.noting_asksOnly _ fun _ => rfl⟩
  | setRuntimePm device enabled eligibility onBus => exact absurd rfl (he _ _ _ _)
  | persistPolicy policy => exact hedits _
  | setOffloadingMarker required => exact hedits _
  | runPxScript setting => exact Act.noting_asksOnly _ fun _ => rfl

/-- Setting a card's attribute writes it if the card is on the bus, and nothing otherwise. -/
theorem setControl_written (actions : Actions σ) (device : Device) (enabled onBus : Bool) :
    Asks (fun _ new => new.filterMap Request.written? =
        if onBus then [RuntimePm.controlFile config device] else [])
      (RuntimePm.setControl config actions.recorded device enabled onBus) := by
  unfold RuntimePm.setControl
  cases onBus with
  | true =>
    refine (Asks.noting (.write (RuntimePm.controlFile config device)
      (RuntimePm.controlValue enabled)) _).bind fun answer new hnew => ?_
    subst hnew
    cases answer with
    | ok _ => exact .pure rfl
    | error cause => exact .pure rfl
  | false => exact .note_bind (.pure rfl)

/-- An effect writes what it controls. -/
theorem attempt_written (actions : Actions σ) (triplet : String) (e : Effect) :
    Asks (fun _ new => new.filterMap Request.written? = e.controls config)
      (attempt config actions.recorded triplet e) := by
  have hquiet : (∀ device enabled eligibility onBus,
      e ≠ .setRuntimePm device enabled eligibility onBus) → e.controls config = [] →
        Asks (fun _ new => new.filterMap Request.written? = e.controls config)
          (attempt config actions.recorded triplet e) := by
    intro he hnone
    refine (attempt_keeps (AsksOnly.frame writesNothing) triplet
      (effectSteps_writesNothing actions he)).asks.mono fun _ new hn => ?_
    rw [hnone]
    exact written?_of_writesNothing hn
  cases e with
  | setRuntimePm device enabled eligibility onBus =>
    have hoption : Asks (fun _ new => ∀ q ∈ new, writesNothing q = true)
        (RuntimePm.setOption config enabled eligibility : Act (Recorded σ) _) :=
      Keeps.asks (setOption_keeps (AsksOnly.frame _) (Act.edits_asksOnly _ _) enabled eligibility)
    have hset : Asks (fun _ new => new.filterMap Request.written? =
          Effect.controls config (.setRuntimePm device enabled eligibility onBus))
        (RuntimePm.setRuntimePm config actions.recorded device enabled eligibility onBus) := by
      refine (setControl_written actions device enabled onBus).bind fun outcome new hnew => ?_
      have hcontrols : Effect.controls config (.setRuntimePm device enabled eligibility onBus) =
          new.filterMap Request.written? := by
        rw [hnew]
        cases onBus <;> rfl
      cases outcome with
      | error cause => exact .pure (by rw [List.append_nil, hcontrols])
      | ok _ =>
        refine hoption.mono fun _ more hmore => ?_
        rw [List.filterMap_append, written?_of_writesNothing hmore, List.append_nil, hcontrols]
    refine Asks.bind
      (P := fun _ new => new.filterMap Request.written? =
        Effect.controls config (.setRuntimePm device enabled eligibility onBus))
      (hset.bind fun outcome new hnew => .pure (by rwa [List.append_nil])) fun outcome new hnew => ?_
    cases outcome with
    | ok _ => exact .pure (by rwa [List.append_nil])
    | error cause => exact .note_bind (.pure (by rwa [List.append_nil]))
  | _ => exact hquiet (fun _ _ _ _ h => by cases h) rfl

/-- A list of effects writes some of what the effects control, in order. -/
theorem carryOutFrom_controls (actions : Actions σ) (triplet : String) (decided : Mode) :
    ∀ (effects : List Effect) (mode : Mode),
      Asks (fun _ new => (new.filterMap Request.written?).Sublist
          (effects.flatMap (Effect.controls config)))
        (carryOutFrom (attempt config actions.recorded triplet) (fallBack config) decided mode
          effects)
  | [], mode => .pure (List.Sublist.refl _)
  | e :: rest, mode => by
    have ih := carryOutFrom_controls actions triplet decided rest
    have hleft : ∀ {first more : List Request},
        first.filterMap Request.written? = e.controls config →
        (more.filterMap Request.written?).Sublist (rest.flatMap (Effect.controls config)) →
          ((first ++ more).filterMap Request.written?).Sublist
            ((e :: rest).flatMap (Effect.controls config)) := by
      intro first more hfirst hmore
      rw [List.filterMap_append, List.flatMap_cons, hfirst]
      exact hmore.append_left _
    rw [carryOutFrom]
    split
    next =>
      -- what was left out writes nothing
      refine (ih mode).mono fun _ new hnew => ?_
      rw [List.flatMap_cons]
      exact hnew.trans (List.sublist_append_right _ _)
    next =>
      refine (attempt_written actions triplet e).bind fun done new hnew => ?_
      split
      next => exact (ih mode).mono fun _ more hmore => hleft hnew hmore
      next =>
        split
        next =>
          refine fallBack_asks.bind fun _ none hnone => ?_
          subst hnone
          refine (ih _).mono fun _ more hmore => ?_
          exact hleft hnew hmore
        next => exact (ih mode).mono fun _ more hmore => hleft hnew hmore

/-- Asking questions writes nothing. -/
theorem written?_of_questions {new : List Request} (h : ∀ q ∈ new, q.isQuestion = true) :
    new.filterMap Request.written? = [] := by
  refine written?_of_writesNothing fun q hq => ?_
  have hquestion := h q hq
  cases q <;> first | rfl | cases hquestion

/-! ## One card -/

/-- Where a prepared run has an effect about a card, it is the card that gathering picked, and what
gathering found out for its card holds of that one. -/
theorem Situated.selected {actions : Actions σ} {w1 w2 w3 w' : World σ} {triplet : String}
    {scan : Scan} {last : List Device × Snapshot.Status} {s : Situation}
    (hs : Situated config actions triplet scan w1 last w2 w3 s w') {e : Effect}
    (he : e ∈ (Decision.decide s).effects) {d : Device} (hd : e.device? = some d) :
    discreteCard scan.devices s.residualDiscrete = some d ∧
      s.eligibility = (RuntimePm.resolve config (driverMajor config w'.tree) d.address d.model
        (scan.capabilityOf d.address) w'.tree).value ∧
      (∀ enabled eligibility onBus, e = .setRuntimePm d enabled eligibility onBus →
        eligibility = s.eligibility) ∧
      s.outputClass = Fragment.stateOf (some (Fragment.outputClassText triplet d))
        (w'.tree.readText (Fragment.outputClass.file config)) := by
  have hsituation := hs.situation
  rw [value_situationOf] at hsituation
  have hsees : s.SeesFragments config triplet w'.tree := by
    rw [hsituation]
    exact ⟨rfl, rfl, rfl⟩
  have hdevices : s.devices = scan.devices := by rw [hsituation]
  obtain ⟨nvidia, route, heffect⟩ := Decision.primeEffect_of_mem he hd
  have hselected := discreteCard_of_prime hsees nvidia route
  have houtput := hsees.outputClass
  have heligible : s.eligibility = eligibilityOf config scan w'.tree := by rw [hsituation]
  rw [hselected] at houtput
  rw [hdevices] at hselected
  rw [eligibilityOf, ← hdevices, ← hsees.residual, hdevices, hselected] at heligible
  refine ⟨hselected, heligible, ?_, houtput⟩
  rintro enabled eligibility onBus rfl
  rcases heffect with heffect | ⟨_, heffect⟩
  · cases heffect
  · cases heffect
    rfl

/-- A prepared run writes at most the power control of an NVIDIA card that it found and that is not
the primary one. -/
theorem Prepared.writes {w w' : World (Recorded σ)} {triplet : String} {s : Situation}
    (hp : Prepared config actions.recorded w triplet s w') :
    ∃ new, (run config actions.recorded w).2.system.requests = w.system.requests ++ new ∧
      (new.filterMap Request.written? = [] ∨
        ∃ d ∈ s.devices, d.vendor = Vendor.nvidia ∧ d.bootVga = false ∧
          (new.filterMap Request.written?).Sublist [RuntimePm.controlFile config d]) := by
  obtain ⟨asked, hasked, hquestions⟩ := prepare_asks config actions w
  rw [hp.eq] at hasked
  have hcarry : Asks (fun _ new => (new.filterMap Request.written?).Sublist
      ((Decision.decide s).effects.flatMap (Effect.controls config)))
      (execute config actions.recorded triplet (Decision.decide s)) :=
    carryOutFrom_controls actions triplet _ _ _
  obtain ⟨new, hnew, hwritten⟩ := hcarry w'
  refine ⟨asked ++ new, ?_, ?_⟩
  · rw [hp.run_eq, ← List.append_assoc, ← hasked]
    exact hnew
  rw [List.filterMap_append, written?_of_questions hquestions, List.nil_append]
  rcases Decision.decide_controls config s with hnone | ⟨d, hd, nvidia, hboot, hone⟩
  · rw [hnone] at hwritten
    exact .inl (List.sublist_nil.mp hwritten)
  · rw [hone] at hwritten
    exact .inr ⟨d, hd, nvidia, hboot, hwritten⟩

/-! ## The main result -/

/-- Wherever a run has an effect about a card, it is the card that gathering picked: the
eligibility it goes by was resolved for that card, and the fragment was compared with the text that
would be written for it. A run writes at most one attribute, which is the power control of an NVIDIA
card that it found and that is not the firmware's primary one. -/
theorem selected_card_throughout (config : Config) (actions : Actions σ) (w : World (Recorded σ)) :
    (∀ triplet s w', Prepared config actions.recorded w triplet s w' →
      ∃ scan w1, Surveyed config w triplet scan w1 ∧ s.devices = scan.devices ∧
        ∀ e ∈ (Decision.decide s).effects, ∀ d, e.device? = some d →
          discreteCard scan.devices s.residualDiscrete = some d ∧
          s.eligibility = (RuntimePm.resolve config (driverMajor config w'.tree) d.address d.model
            (scan.capabilityOf d.address) w'.tree).value ∧
          (∀ enabled eligibility onBus, e = .setRuntimePm d enabled eligibility onBus →
            eligibility = s.eligibility) ∧
          s.outputClass = Fragment.stateOf (some (Fragment.outputClassText triplet d))
            (w'.tree.readText (Fragment.outputClass.file config))) ∧
    ∃ new, (run config actions.recorded w).2.system.requests = w.system.requests ++ new ∧
      (new.filterMap Request.written?).length ≤ 1 ∧
      ∀ file ∈ new.filterMap Request.written?, ∃ triplet scan w1, Surveyed config w triplet scan w1 ∧
        ∃ d ∈ scan.devices, d.vendor = Vendor.nvidia ∧ d.bootVga = false ∧
          file = config.pciDevices.below [d.address.text, "power", "control"] := by
  have hdevices : ∀ {scan w1 last w2 w3 triplet s w'},
      Situated config actions.recorded triplet scan w1 last w2 w3 s w' →
        s.devices = scan.devices := by
    intro scan w1 last w2 w3 triplet s w' hs
    rw [hs.situation, value_situationOf]
  refine ⟨fun triplet s w' hp => ?_, ?_⟩
  · obtain ⟨scan, w1, last, w2, w3, hsurvey, hs⟩ := hp.surveyed
    exact ⟨scan, w1, hsurvey, hdevices hs, fun e he d hd => hs.selected he hd⟩
  · rcases run_cases config actions.recorded w with ⟨-, -, halike⟩ | ⟨cause, -, hrun⟩ |
      ⟨triplet, s, w', hp⟩
    · refine ⟨[], by rw [halike.system, List.append_nil], Nat.zero_le 1, fun file hfile => ?_⟩
      cases hfile
    · obtain ⟨new, hnew, hquestions⟩ := prepare_asks config actions w
      refine ⟨new, by rw [hrun]; exact hnew, ?_⟩
      rw [written?_of_questions hquestions]
      exact ⟨Nat.zero_le 1, fun file hfile => by cases hfile⟩
    · obtain ⟨scan, w1, last, w2, w3, hsurvey, hs⟩ := hp.surveyed
      obtain ⟨new, hnew, hnone | ⟨d, hd, nvidia, hboot, hone⟩⟩ := hp.writes
      · refine ⟨new, hnew, ?_⟩
        rw [hnone]
        exact ⟨Nat.zero_le 1, fun file hfile => by cases hfile⟩
      · rw [hdevices hs] at hd
        refine ⟨new, hnew, hone.length_le, fun file hfile => ?_⟩
        exact ⟨triplet, scan, w1, hsurvey, d, hd, nvidia, hboot,
          List.mem_singleton.mp (hone.subset hfile)⟩

end Run

end HybridGraphics
