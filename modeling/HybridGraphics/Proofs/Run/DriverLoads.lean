import HybridGraphics.Proofs.Decision.OnlyPrime
import HybridGraphics.Proofs.Run.Requests
import HybridGraphics.Proofs.System.Rehearsal

/-!
# When a run loads the NVIDIA driver

A run asks for a module to be loaded only for PRIME, and only the NVIDIA driver, where it
found that not to be loaded. Beside another card, it has then found that the driver can be
used: it is not blacklisted, it is available, and no other driver is in its place. A card
that was powered off and is brought back is the exception. There the decision does not ask
whether the driver can be used, so the run tries to load it whatever the answer is:
`loads_usable_or_restoring`.

It holds for every tree and every system. What may be loaded is read off the effects of the
decision (`loadModule_of_mem`), as no other effect loads anything (`effectSteps_loads`). That
a load is tried is by induction on the effects left: either the run comes to the one that
loads the driver, or it has fallen back before, and then it stays there.
-/

namespace HybridGraphics

open Pci (Device Vendor)

variable {σ : Type}

/-- The driver may be loaded beside the integrated card's: neither the operator nor another
driver is against it, and there is one to load. -/
structure Situation.DriverUsable (s : Situation) : Prop where
  notBlacklisted : s.drivers.nvidiaBlacklisted = false
  withoutNouveau : s.drivers.nouveauLoaded = false
  available : s.drivers.nvidiaAvailable = true

/-- An Intel card is left alone, and there is an NVIDIA card to bring back. -/
structure Situation.Restores (s : Situation) : Prop where
  alone : ∃ integrated, s.devices = [integrated] ∧ integrated.vendor = Vendor.intel
  card : ∃ discrete, Decision.restorable? s = some discrete

/-! ## Decisions to load the driver -/

namespace Decision

variable {s : Situation} {discrete : Device} {name : String}

/-- PRIME loads the driver, where it is not loaded, unless the card is not to be used. -/
theorem loadModule_mem_prime_iff : Effect.loadModule name ∈ (prime s discrete).effects ↔
    s.policy ≠ .off ∧ name = "nvidia" ∧ s.drivers.nvidiaLoaded = false := by
  have hway := Course.primeWay s discrete
  constructor
  · intro h
    obtain ⟨policy, rfl⟩ :=
      (hway.loadModule_mem_iff name).mp ((Course.prime_sublist s discrete).subset h)
    exact ⟨policy, rfl, Bool.eq_false_iff.mpr (Course.unseen_of_mem_prime h rfl)⟩
  · rintro ⟨policy, rfl, unloaded⟩
    have hgoal := (hway.loadModule_mem_iff "nvidia").mpr ⟨policy, rfl⟩
    refine (Course.prime_seen s discrete _ hgoal).resolve_right fun hseen => ?_
    cases unloaded.symm.trans hseen

/-- PRIME is what it is called, unless the card is not to be used. -/
theorem isPrime_prime (h : s.policy ≠ .off) : (prime s discrete).mode.isPrime = true :=
  (Course.primeWay s discrete).isPrime_or_off.resolve_right fun hoff => h hoff.2

/-- A decision loads a module only for PRIME, and then it is the NVIDIA driver. -/
theorem loadModule_of_mem (h : Effect.loadModule name ∈ (decide s).effects) :
    name = "nvidia" ∧ s.drivers.nvidiaLoaded = false ∧ s.policy ≠ .off ∧
      (s.Restores ∨ s.DriverUsable) := by
  obtain ⟨discrete, -, route, -, -, hprime⟩ := prime_of_mem h rfl
  obtain ⟨policy, rfl, unloaded⟩ := loadModule_mem_prime_iff.mp hprime
  refine ⟨rfl, unloaded, policy, ?_⟩
  cases route with
  | restored integrated single intel restorable =>
    exact .inl ⟨⟨integrated, single, intel⟩, ⟨discrete, restorable⟩⟩
  | beside boot several primary integrated other capable =>
    simp only [Situation.primeCapable, unloaded, Bool.false_or, Bool.and_eq_true,
      Bool.not_eq_true'] at capable
    exact .inr ⟨capable.1.2, capable.1.1.2, capable.2⟩

/-- A decision to bring a card back loads its driver, where it is not loaded. -/
theorem loadModule_mem_of_restores (h : s.Restores) (unloaded : s.drivers.nvidiaLoaded = false) :
    Effect.loadModule "nvidia" ∈ (decide s).effects ∧ (decide s).mode.isPrime = true := by
  obtain ⟨⟨integrated, single, intel⟩, discrete, restorable⟩ := h
  have policy := (restorable?_eq_some restorable).2.2.1
  have hchoose : (choose s).mode = (prime s discrete).mode ∧
      (choose s).effects = (prime s discrete).effects := by
    rw [choose_singleIntel single intel, singleIntel, restorable]
    exact ⟨rfl, rfl⟩
  constructor
  · rw [(decide_effects s).2, hchoose.2]
    exact List.mem_append_left _ (loadModule_mem_prime_iff.mpr ⟨policy, rfl, unloaded⟩)
  · rw [(decide_effects s).1, hchoose.1]
    exact isPrime_prime policy

end Decision

namespace Run

open Act (Asks AsksOnly)

variable {config : Config}

/-! ## What effects ask to be loaded -/

/-- Asks for a module to be loaded. -/
def isLoad : Request → Bool
  | .load _ _ _ => true
  | _ => false

/-- An effect asks for a module to be loaded only if that is what it is for. -/
theorem effectSteps_loads (actions : Actions σ) {ok : Request → Bool} {e : Effect}
    (hload : ∀ name, e = .loadModule name → ∀ answer, ok (.load name none answer) = true)
    (hothers : ∀ q, isLoad q = false → ok q = true) :
    EffectSteps (AsksOnly ok) config actions.recorded e := by
  cases hd : e.drives with
  | false =>
    exact effectSteps_asksOnly actions (fun _ _ _ => hothers _ rfl) (fun _ _ _ => hothers _ rfl) hd
  | true =>
    cases e with
    | loadModule name => exact Act.noting_asksOnly _ (hload name rfl)
    | unloadNvidiaStack =>
      exact ⟨Act.noting_asksOnly _ fun _ => hothers _ rfl,
        fun _ _ => Act.noting_asksOnly _ fun _ => hothers _ rfl,
        Act.noting_asksOnly _ fun _ => hothers _ rfl⟩
    | _ => cases hd

/-- Whatever an effect is for, attempting it only adds to what was asked. -/
theorem attempt_asks (actions : Actions σ) (triplet : String) (e : Effect) :
    Asks (fun _ _ => True) (attempt config actions.recorded triplet e) :=
  (attempt_keeps (Act.AsksOnly.frame fun _ => true) triplet
    (effectSteps_loads actions (fun _ _ _ => rfl) fun _ _ => rfl)).asks.mono fun _ _ _ => trivial

/-- To load a module is to ask for it. -/
theorem attempt_asks_load (actions : Actions σ) (triplet name : String) :
    Asks (fun _ new => ∃ answer, .load name none answer ∈ new)
      (attempt config actions.recorded triplet (.loadModule name)) := by
  refine Asks.bind (P := fun _ new => ∃ answer, .load name none answer ∈ new) ?_
    fun result new hnew => ?_
  · refine Asks.bind (P := fun _ new => ∃ answer, .load name none answer ∈ new) ?_
      fun result new hnew => .pure (by rwa [List.append_nil])
    refine (Asks.noting (Request.load name none) (actions.loadModule name none)).bind
      fun answer new hnew => ?_
    subst hnew
    cases answer with
    | ok _ => exact .pure ⟨_, List.mem_singleton.mpr rfl⟩
    | error cause => exact .pure ⟨_, List.mem_singleton.mpr rfl⟩
  · cases result with
    | ok _ => exact .pure (by rwa [List.append_nil])
    | error cause => exact .note_bind (.pure (by rwa [List.append_nil]))

/-- After the fall back the machine is left to the integrated card. -/
theorem carryOutFrom_integratedOnly (actions : Actions σ) (triplet : String) (decided : Mode) :
    ∀ effects : List Effect, Asks (fun mode _ => mode = .integratedOnly)
      (carryOutFrom (attempt config actions.recorded triplet) (fallBack config) decided
        .integratedOnly effects)
  | [] => .pure rfl
  | e :: rest => by
    have ih := carryOutFrom_integratedOnly actions triplet decided rest
    rw [carryOutFrom]
    split
    next => exact ih
    next =>
      refine (attempt_asks actions triplet e).bind fun done _ _ => ?_
      split
      next => exact ih
      next => exact ih

/-- Whatever is asked while effects are carried out, it is added to the history. -/
theorem carryOutFrom_asks (actions : Actions σ) (triplet : String) (decided : Mode)
    (effects : List Effect) : Asks (fun _ _ => True)
      (carryOutFrom (attempt config actions.recorded triplet) (fallBack config) decided decided
        effects) := by
  have hR := Act.AsksOnly.frame (σ := σ) fun _ => true
  have hfall := fallBack_keeps hR fun f => Act.edits_asksOnly _ (Fragment.file config f)
  refine (carryOutFrom_keeps hR hfall decided effects decided fun e _ => ?_).asks.mono
    fun _ _ _ => trivial
  exact attempt_keeps hR triplet (effectSteps_loads actions (fun _ _ _ => rfl) fun _ _ => rfl)

/-- The module was asked for, or the run fell back. -/
def Tried (name : String) (mode : Mode) (new : List Request) : Prop :=
  (∃ answer, .load name none answer ∈ new) ∨ mode = .integratedOnly

theorem Tried.later {name : String} {mode : Mode} {more : List Request} (h : Tried name mode more)
    (new : List Request) : Tried name mode (new ++ more) :=
  h.imp_left fun ⟨answer, hm⟩ => ⟨answer, List.mem_append_right _ hm⟩

/-- A PRIME decision that is to load a module tries to. -/
theorem carryOutFrom_tries (actions : Actions σ) (triplet : String) {name : String}
    {decided : Mode} (hd : decided.isPrime = true) :
    ∀ effects : List Effect, .loadModule name ∈ effects → Asks (Tried name)
      (carryOutFrom (attempt config actions.recorded triplet) (fallBack config) decided decided
        effects)
  | [], h => by cases h
  | e :: rest, h => by
    rw [carryOutFrom, bne_self_eq_false, Bool.false_and, hd, Bool.true_and]
    simp only [Bool.false_eq_true, if_false]
    -- however it goes on, what is tried stays tried, and who fell back stays there
    have hfallen : Asks (Tried name) (do
        fallBack config
        carryOutFrom (attempt config actions.recorded triplet) (fallBack config) decided
          .integratedOnly rest) :=
      fallBack_asks.bind fun _ _ _ =>
        (carryOutFrom_integratedOnly actions triplet decided rest).mono fun _ _ hm => .inr hm
    by_cases he : e = .loadModule name
    · subst he
      refine (attempt_asks_load actions triplet name).bind fun done new hnew => ?_
      obtain ⟨answer, hm⟩ := hnew
      have htried : ∀ mode more, Tried name mode (new ++ more) := fun _ _ =>
        .inl ⟨answer, List.mem_append_left _ hm⟩
      split
      next => exact (carryOutFrom_asks actions triplet decided rest).mono fun _ _ _ => htried _ _
      next =>
        split
        next => exact hfallen.mono fun _ _ _ => htried _ _
        next => exact (carryOutFrom_asks actions triplet decided rest).mono fun _ _ _ => htried _ _
    · have hrest : .loadModule name ∈ rest :=
        (List.mem_cons.mp h).resolve_left fun heq => he heq.symm
      have ih := carryOutFrom_tries actions triplet hd rest hrest
      refine (attempt_asks actions triplet e).bind fun done new _ => ?_
      split
      next => exact ih.mono fun _ _ h => h.later new
      next =>
        split
        next => exact hfallen.mono fun _ _ h => h.later new
        next => exact ih.mono fun _ _ h => h.later new

/-! ## What a whole run asks to be loaded -/

/-- The request is none to load a module, or one that the decision calls for. -/
def loadsAsDecided (s : Situation) : Request → Bool
  | .load name parameters _ =>
    parameters.isNone && (Decision.decide s).effects.contains (.loadModule name)
  | _ => true

/-- Carrying a decision out loads only modules that it is to load, and without parameters. -/
theorem execute_loadsAsDecided (actions : Actions σ) (triplet : String) (s : Situation) :
    Asks (fun _ new => ∀ q ∈ new, loadsAsDecided s q = true)
      (execute config actions.recorded triplet (Decision.decide s)) := by
  refine (execute_keeps (Act.AsksOnly.frame _) triplet
    (fun f => Act.edits_asksOnly _ (f.file config)) fun e he =>
      effectSteps_loads actions (fun name heq answer => ?_) fun q hq => ?_).asks
  · subst heq
    simpa [loadsAsDecided] using he
  · cases q with
    | load _ _ _ => cases hq
    | _ => rfl

/-- A run asks for no module to be loaded but the NVIDIA driver, and for that only if it did not
find it loaded, the card is to be used, and the driver can be used, or else the card is brought
back. It does ask for it if the card is brought back, whether the driver can be used or not,
unless it fell back before. -/
theorem loads_usable_or_restoring (config : Config) (actions : Actions σ)
    (w : World (Recorded σ)) :
    ∃ new, (run config actions.recorded w).2.system.requests = w.system.requests ++ new ∧
      (∀ name parameters answer, .load name parameters answer ∈ new →
        name = "nvidia" ∧ parameters = none ∧
          ∃ triplet s w', Prepared config actions.recorded w triplet s w' ∧
            s.drivers.nvidiaLoaded = false ∧ s.policy ≠ .off ∧ (s.Restores ∨ s.DriverUsable)) ∧
      ∀ triplet s w', Prepared config actions.recorded w triplet s w' → s.Restores →
        s.drivers.nvidiaLoaded = false →
          (∃ answer, .load "nvidia" none answer ∈ new) ∨
            (run config actions.recorded w).1 = .ok .integratedOnly := by
  have hquestion : ∀ {new : List Request}, (∀ q ∈ new, q.isQuestion = true) →
      ∀ name parameters answer, .load name parameters answer ∉ new := fun h _ _ _ hm => by
    cases h _ hm
  rcases run_cases config actions.recorded w with ⟨hopted, -, halike⟩ | ⟨cause, herror, hrun⟩ |
    ⟨triplet, s, w', hp⟩
  · refine ⟨[], by rw [halike.system, List.append_nil], fun _ _ _ hm => (List.not_mem_nil hm).elim, ?_⟩
    intro _ _ _ hp _ _
    rw [hp.enabled] at hopted
    cases hopted
  · obtain ⟨new, hw, hn⟩ := prepare_asks config actions w
    refine ⟨new, by rw [hrun]; exact hw, fun _ _ _ hm => absurd hm (hquestion hn _ _ _), ?_⟩
    intro _ _ _ hp _ _
    rw [hp.run_eq] at herror
    cases herror
  · obtain ⟨asked, hw, hn⟩ := prepare_asks config actions w
    rw [hp.eq] at hw
    obtain ⟨new, hw', hloads⟩ := execute_loadsAsDecided actions triplet s w'
    have hnew : (run config actions.recorded w).2.system.requests =
        w.system.requests ++ (asked ++ new) := by
      rw [hp.run_eq, ← List.append_assoc, ← hw]
      exact hw'
    refine ⟨asked ++ new, hnew, ?_, ?_⟩
    · intro name parameters answer hm
      have hdecided := hloads _ ((List.mem_append.mp hm).resolve_left (hquestion hn _ _ _))
      rw [loadsAsDecided, Bool.and_eq_true, Option.isNone_iff_eq_none, List.contains_iff_mem]
        at hdecided
      obtain ⟨rfl, unloaded, policy, hway⟩ := Decision.loadModule_of_mem hdecided.2
      exact ⟨rfl, hdecided.1, triplet, s, w', hp, unloaded, policy, hway⟩
    · intro triplet' s' w'' hp' hrestores unloaded
      cases hp.eq.symm.trans hp'.eq
      obtain ⟨hload, hprime⟩ := Decision.loadModule_mem_of_restores hrestores unloaded
      have hcarry : Asks (Tried "nvidia")
          (execute config actions.recorded triplet (Decision.decide s)) :=
        carryOutFrom_tries actions triplet hprime _ hload
      obtain ⟨more, hmore, htried⟩ := hcarry w'
      cases List.append_cancel_left (hw'.symm.trans hmore)
      refine htried.imp (fun ⟨answer, hm⟩ => ⟨answer, List.mem_append_right _ hm⟩) fun hmode => ?_
      rw [hp.run_eq, hmode]

/-- The laptop with its NVIDIA card powered off, on which the operator has since put the driver on
the blacklist and removed it, and nouveau is in its place. -/
def Laptop.withNouveau : World (Recorded Rehearsal) :=
  { tree := ⟨[("m", .dir [("lspci", Laptop.file "8086:3e9b;0000:00:02:0;1\n"),
      ("prime-discrete", Laptop.file "on\n"), ("requires_offloading", Laptop.file "ON\n"),
      ("run", .dir [("u-d-c-gpu-0000:01:00.0-0x10de-0x1f91", Laptop.file ""),
        ("u-d-c-nvidia-was-loaded", Laptop.file "")]),
      ("modprobe.d", .dir [("blacklist-nvidia.conf", Laptop.file "blacklist nvidia\n")])])]⟩
    system := { system := { loaded := ["i915", "nouveau"] } } }

/-- There a run finds all that, and loads the driver nonetheless. -/
theorem loads_usable_or_restoring_nouveau :
    ∃ triplet s w', Prepared Laptop.config Rehearsal.actions.recorded Laptop.withNouveau triplet s w' ∧
      s.drivers.nvidiaBlacklisted = true ∧ s.drivers.nouveauLoaded = true ∧
      s.drivers.nvidiaAvailable = false ∧
      ∃ answer, .load "nvidia" none answer ∈
        (run Laptop.config Rehearsal.actions.recorded Laptop.withNouveau).2.system.requests := by
  have henabled : Probe.optedOut Laptop.config.kernelCommandLine Laptop.withNouveau.tree = false := by
    decide +kernel
  have hfound : (prepare Laptop.config Rehearsal.actions.recorded Laptop.withNouveau).1.toOption.map
      (fun found => (found.2.devices, (Decision.restorable? found.2).isSome, found.2.drivers)) =
        some ([⟨Vendor.intel, 0x3e9b, ⟨0, 0, 2, 0⟩, true, .unknown⟩], true,
          { nvidiaUnloaded := true, nvidiaBlacklisted := true, nouveauLoaded := true }) := by
    decide +kernel
  have hmode : (run Laptop.config Rehearsal.actions.recorded Laptop.withNouveau).1 = .ok .primeOn := by
    decide +kernel
  rcases hprepare : prepare Laptop.config Rehearsal.actions.recorded Laptop.withNouveau with
    ⟨_ | ⟨triplet, s⟩, w'⟩
  · rw [hprepare] at hfound
    cases hfound
  · rw [hprepare] at hfound
    have hs := Option.some.inj
      (show some (s.devices, (Decision.restorable? s).isSome, s.drivers) = _ from hfound)
    obtain ⟨hdevices, hrest⟩ := Prod.mk.inj hs
    obtain ⟨hrestorable, hdrivers⟩ := Prod.mk.inj hrest
    have hp : Prepared Laptop.config Rehearsal.actions.recorded Laptop.withNouveau triplet s w' :=
      ⟨henabled, hprepare⟩
    have hrestores : s.Restores := ⟨⟨_, hdevices, rfl⟩, Option.isSome_iff_exists.mp hrestorable⟩
    obtain ⟨new, hnew, -, hloads⟩ := loads_usable_or_restoring Laptop.config Rehearsal.actions
      Laptop.withNouveau
    refine ⟨triplet, s, w', hp, by rw [hdrivers], by rw [hdrivers], by rw [hdrivers], ?_⟩
    rcases hloads triplet s w' hp hrestores (by rw [hdrivers]) with ⟨answer, hm⟩ | hfell
    · rw [hnew]
      exact ⟨answer, List.mem_append_right _ hm⟩
    · rw [hmode] at hfell
      cases hfell

end Run

end HybridGraphics
