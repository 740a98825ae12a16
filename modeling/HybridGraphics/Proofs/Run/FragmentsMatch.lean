import HybridGraphics.Proofs.Decision.Chosen
import HybridGraphics.Proofs.Run.Fragments

/-!
# The fragments match the mode

The two fragments decide what the X server does at its next start, so they have to agree
with the mode that a run reports. `fragments_match_mode` says that they do, for any
actions that leave the files alone, whatever they answer, and for every way in which
writing, removing or loading can fail.

A write that was skipped because the fragment was current would have changed nothing:
what a fragment is compared with when the situation is gathered is what the decision
would have written (`discreteCard_of_prime`). With that, `Decision.Chosen` leaves six
kinds of decision to look at, and each is a short list of effects to rewrite the
fragments by.
-/

namespace HybridGraphics

open Pci (Device Vendor)

variable {σ : Type}

/-! ## What was seen of the fragments -/

/-- The fragments of a situation are those in the tree. -/
structure Situation.SeesFragments (s : Situation) (config : Config) (triplet : String)
    (t : FileTree) : Prop where
  outputClass : s.outputClass = Fragment.stateOf
    ((Run.discreteCard s.devices s.residualDiscrete).map (Fragment.outputClassText triplet))
    (t.readText (Fragment.outputClass.file config))
  serverLayout : s.serverLayout = Fragment.stateOf (some Fragment.serverLayoutText)
    (t.readText (Fragment.serverLayout.file config))
  residual : s.residualDiscrete = Run.residualOf config s.devices t

namespace Fragment

variable {config : Config} {t : FileTree} {f : Fragment}

/-- A fragment that is not there has no bytes. -/
theorem bytes?_of_missing {expected : Option (List Char)}
    (h : (stateOf expected (t.readText (f.file config))).isPresent = false) :
    f.bytes? config t = none := by
  have h : stateOf expected (t.readText (f.file config)) = .missing := by
    simpa [FragmentState.isPresent] using h
  have h := stateOf_eq_missing_iff.mp h
  unfold FileTree.readText at h
  unfold bytes?
  cases hr : t.read (f.file config) with
  | error cause => rfl
  | ok content =>
    rw [hr] at h
    simp only [bind, Except.bind] at h
    split at h <;> cases h

/-- A current fragment holds what would be generated. -/
theorem bytes?_of_current {expected : Option (List Char)}
    (h : stateOf expected (t.readText (f.file config)) = .current) :
    ∃ text, expected = some text ∧ f.bytes? config t = some (Text.encode text) := by
  obtain ⟨text, hr, he⟩ := stateOf_eq_current_iff.mp h
  refine ⟨text, he, ?_⟩
  unfold bytes?
  rw [FileTree.readText_eq_ok_iff.mp hr]
  rfl

/-- Where no directory is, a fragment without bytes is not there. -/
theorem has_of_bytes?_none (free : t.LinkFree) (down : (f.file config).Descends)
    (hdir : ¬ t.DirAt (f.file config).place) (h : f.bytes? config t = none) :
    t.has (f.file config) = false := by
  refine Bool.eq_false_iff.mpr fun hhas => ?_
  obtain ⟨content, hread⟩ := (FileTree.has_iff_read free down hdir).mp hhas
  unfold bytes? at h
  rw [hread] at h
  cases h

end Fragment

namespace Run

variable {config : Config} {actions : Actions σ} {triplet : String} {s : Situation}

theorem residualOf_eq_some {devices : List Device} {t : FileTree} {d : Device}
    (h : residualOf config devices t = some d) : d.vendor = Vendor.nvidia ∧ d.bootVga = false := by
  unfold residualOf at h
  split at h
  next =>
    unfold KernelModule.residualCard at h
    split at h
    next names hl =>
      have hv := List.find?_some h
      obtain ⟨name, -, hparse⟩ := List.mem_filterMap.mp (List.mem_of_find?_eq_some h)
      refine ⟨by simpa using hv, ?_⟩
      unfold KernelModule.parseCardMark? at hparse
      split at hparse
      next =>
        obtain ⟨_, -, hparse⟩ := Option.bind_eq_some_iff.mp hparse
        obtain ⟨_, -, hparse⟩ := Option.bind_eq_some_iff.mp hparse
        obtain ⟨_, -, hparse⟩ := Option.bind_eq_some_iff.mp hparse
        obtain ⟨_, -, hparse⟩ := Option.bind_eq_some_iff.mp hparse
        obtain ⟨_, -, hparse⟩ := Option.bind_eq_some_iff.mp hparse
        obtain ⟨_, -, hparse⟩ := Option.bind_eq_some_iff.mp hparse
        cases hparse
        rfl
      next => cases hparse
    next => cases h
  next => cases h

/-- What the fragment of PRIME is compared with is what PRIME would write: the card that the
situation was gathered for is the one that was decided on. -/
theorem discreteCard_of_prime {t : FileTree} (hs : s.SeesFragments config triplet t)
    {discrete : Device} (nvidia : discrete.vendor = Vendor.nvidia)
    (route : Decision.PrimeRoute s discrete) :
    discreteCard s.devices s.residualDiscrete = some discrete := by
  cases route with
  | restored integrated single intel restorable =>
    have hr := (Decision.restorable?_eq_some restorable).2.2.2.1
    obtain ⟨-, hb⟩ := residualOf_eq_some (hs.residual ▸ hr)
    have hv : (Vendor.intel == Vendor.nvidia) = false := by decide
    unfold discreteCard
    rw [hr, single]
    simp [intel, hv, nvidia, hb]
  | beside boot several primary integrated other capable =>
    have hnone : s.residualDiscrete = none := by
      rw [hs.residual, residualOf, if_neg (by omega)]
    obtain ⟨hb, before, after, hdevices, hbefore⟩ := List.find?_eq_some_iff_append.mp other
    unfold discreteCard
    rw [hnone, hdevices]
    refine List.find?_eq_some_iff_append.mpr ⟨by simpa [nvidia] using hb, before, after, ?_, ?_⟩
    · simp
    · intro d hd
      have := hbefore d hd
      simp_all

/-! ## What each kind of decision makes of the fragments -/

/-- What the fragments hold in a mode, `before` being what they held when it was decided on. -/
def Held (triplet : String) (s : Situation) (before after : Fragment → Option Bytes) : Mode → Prop
  | .primeOn =>
    (∃ discrete, s.discrete? = some discrete ∧
      after .outputClass = some (Text.encode (Fragment.outputClassText triplet discrete))) ∧
    after .serverLayout = none
  | .primeOnDemand =>
    after .serverLayout = some (Text.encode Fragment.serverLayoutText) ∧ after .outputClass = none
  | .integratedOnly => ∀ f, after f = none
  | .discreteOnly =>
    after .serverLayout = none ∧ (2 ≤ s.devices.length → after .outputClass = none)
  | .powerXpress _ | .noAction => after = before

/-- What is known of the fragments when it is decided on them: none is where none was seen,
and a current one holds what would be written. -/
structure Known (triplet : String) (s : Situation) (content : Fragment → Option Bytes) : Prop where
  outputClass : s.outputClass.isPresent = false → content .outputClass = none
  serverLayout : s.serverLayout.isPresent = false → content .serverLayout = none
  current : ∀ discrete, discreteCard s.devices s.residualDiscrete = some discrete →
    s.outputClass = .current →
      content .outputClass = some (Text.encode (Fragment.outputClassText triplet discrete))
  currentLayout : s.serverLayout = .current →
    content .serverLayout = some (Text.encode Fragment.serverLayoutText)

/-- A situation that sees the fragments on disk tells so much of what they hold. -/
theorem known_of_seesFragments {t : FileTree} (hs : s.SeesFragments config triplet t) :
    Known triplet s fun f => f.bytes? config t where
  outputClass h := Fragment.bytes?_of_missing (hs.outputClass ▸ h)
  serverLayout h := Fragment.bytes?_of_missing (hs.serverLayout ▸ h)
  current discrete hd h := by
    obtain ⟨text, he, hb⟩ := Fragment.bytes?_of_current (hs.outputClass ▸ h)
    rw [hd] at he
    cases he
    exact hb
  currentLayout h := by
    obtain ⟨text, he, hb⟩ := Fragment.bytes?_of_current (hs.serverLayout ▸ h)
    rw [Option.some.inj he]
    exact hb

variable {content : Fragment → Option Bytes}

theorem rewriteAll_append (f : Fragment) (effects more : List Effect) (old : Option Bytes) :
    rewriteAll triplet f (effects ++ more) old =
      rewriteAll triplet f more (rewriteAll triplet f effects old) :=
  List.foldl_append

/-- Removing the fragments that were seen leaves none. -/
theorem rewriteAll_removeFragments (hk : Known triplet s content) (f : Fragment) :
    rewriteAll triplet f (Decision.removeFragments s) (content f) = none := by
  unfold Decision.removeFragments
  rw [rewriteAll_append]
  cases f with
  | outputClass =>
    cases ho : s.outputClass.isPresent <;> cases s.serverLayout.isPresent <;>
      simp [rewriteAll, Effect.rewrite, hk.outputClass, ho]
  | serverLayout =>
    cases s.outputClass.isPresent <;> cases hl : s.serverLayout.isPresent <;>
      simp [rewriteAll, Effect.rewrite, hk.serverLayout, hl]

/-- Runtime power management and the driver come last, and are not about the fragments. -/
theorem rewriteAll_driver (f : Fragment) (discrete : Device) (enabled : Bool)
    (old : Option Bytes) :
    rewriteAll triplet f (Decision.runtimePm s discrete enabled :: Decision.loadDriver s) old =
      old := by
  unfold Decision.loadDriver
  split <;> rfl

/-- PRIME leaves the card primary, whether its fragment had to be written or not. -/
theorem rewriteAll_primeOn (hk : Known triplet s content) {discrete : Device}
    (hd : discreteCard s.devices s.residualDiscrete = some discrete) {before : List Effect}
    (hb : ∀ f old, rewriteAll triplet f before old = old) :
    rewriteAll triplet .outputClass (Decision.primeOn s discrete before).effects
        (content .outputClass) =
      some (Text.encode (Fragment.outputClassText triplet discrete)) ∧
    rewriteAll triplet .serverLayout (Decision.primeOn s discrete before).effects
        (content .serverLayout) = none := by
  have hcurrent := hk.current discrete hd
  simp only [Decision.primeOn, rewriteAll_append, rewriteAll_driver, hb]
  constructor
  · by_cases hw : (s.outputClass != .current || s.changed) = true
    · rw [if_pos hw]
      split <;> rfl
    · rw [if_neg hw]
      simp only [Bool.or_eq_true, bne_iff_ne, not_or, ne_eq, Decidable.not_not] at hw
      rw [show rewriteAll triplet .outputClass [] _ = _ from hcurrent hw.1]
      split <;> rfl
  · have hsame : ∀ old, rewriteAll triplet .serverLayout
        (if s.outputClass != .current || s.changed then [.writeOutputClass discrete] else []) old =
          old := by
      intro old
      split <;> rfl
    rw [hsame]
    split
    next => rfl
    next hp => exact hk.serverLayout (Bool.eq_false_iff.mpr hp)

/-- PRIME on demand leaves the layout fragment, whether it had to be written or not. -/
theorem rewriteAll_primeOnDemand (hk : Known triplet s content) (discrete : Device) :
    rewriteAll triplet .serverLayout (Decision.primeOnDemand s discrete).effects
        (content .serverLayout) = some (Text.encode Fragment.serverLayoutText) ∧
    rewriteAll triplet .outputClass (Decision.primeOnDemand s discrete).effects
        (content .outputClass) = none := by
  simp only [Decision.primeOnDemand, rewriteAll_append, rewriteAll_driver]
  constructor
  · by_cases hw : (s.serverLayout != .current || s.changed) = true
    · rw [if_pos hw]
      split <;> rfl
    · rw [if_neg hw]
      simp only [Bool.or_eq_true, bne_iff_ne, not_or, ne_eq, Decidable.not_not] at hw
      rw [show rewriteAll triplet .serverLayout [] _ = _ from hk.currentLayout hw.1]
      split <;> rfl
  · have hsame : ∀ old, rewriteAll triplet .outputClass
        (if s.serverLayout != .current || s.changed then [.writeServerLayout] else []) old =
          old := by
      intro old
      split <;> rfl
    rw [hsame]
    split
    next => rfl
    next hp => exact hk.outputClass (Bool.eq_false_iff.mpr hp)

/-- The effects of PRIME make of the fragments what its mode says. -/
theorem held_of_prime (hk : Known triplet s content) {discrete : Device}
    (hdiscrete : s.discrete? = some discrete)
    (hd : discreteCard s.devices s.residualDiscrete = some discrete) :
    Held triplet s content (fun f => rewriteAll triplet f (Decision.prime s discrete).effects
      (content f)) (Decision.prime s discrete).mode := by
  have hon : ∀ before : List Effect, (∀ f old, rewriteAll triplet f before old = old) →
      Held triplet s content (fun f => rewriteAll triplet f
        (Decision.primeOn s discrete before).effects (content f)) .primeOn := fun before hb =>
    ⟨⟨discrete, hdiscrete, (rewriteAll_primeOn hk hd hb).1⟩, (rewriteAll_primeOn hk hd hb).2⟩
  unfold Decision.prime
  split
  · intro f
    simp only [Decision.primeOff, rewriteAll_append, rewriteAll_removeFragments hk]
    split <;> rfl
  · exact hon [] fun _ _ => rfl
  · split
    · exact rewriteAll_primeOnDemand hk discrete
    · exact hon [.persistPolicy .on] fun _ _ => rfl

/-- Every decision, with all its effects done, makes of the fragments what its mode says. -/
theorem held_of_chosen (hk : Known triplet s content) {t : FileTree}
    (hs : s.SeesFragments config triplet t) :
    Held triplet s content (fun f => rewriteAll triplet f (Decision.decide s).effects (content f))
      (Decision.decide s).mode := by
  have hmarker : ∀ f old, rewriteAll triplet f (Decision.decide s).effects old =
      rewriteAll triplet f (Decision.choose s).effects old := by
    intro f old
    rw [(Decision.decide_effects s).2, rewriteAll_append]
    split <;> rfl
  simp only [hmarker, (Decision.decide_effects s).1]
  have hremoved := rewriteAll_removeFragments hk
  generalize hm : (Decision.choose s).mode = mode
  generalize he : (Decision.choose s).effects = effects
  have hchosen := Decision.chosen s
  rw [hm, he] at hchosen
  cases hchosen with
  | nothing few => rfl
  | prime discrete nvidia route =>
    exact held_of_prime hk route.discrete? (discreteCard_of_prime hs nvidia route)
  | powerXpress setting => rfl
  | integratedAlone single => exact hremoved
  | discreteAlone single =>
    refine ⟨?_, fun h => by omega⟩
    simp only [Decision.discreteOnly]
    cases hp : s.serverLayout.isPresent with
    | true => rfl
    | false => exact hk.serverLayout hp
  | muxed several =>
    unfold Decision.muxed
    simp only
    split
    · exact ⟨hremoved .serverLayout, fun _ => hremoved .outputClass⟩
    · exact hremoved

/-- Only PRIME decides on effects that enable the discrete card. -/
theorem isPrime_or_not_enables (s : Situation) :
    (Decision.decide s).mode.isPrime = true ∨
      ∀ e ∈ (Decision.decide s).effects, e.enablesDiscrete = false := by
  have hremove : ∀ e ∈ Decision.removeFragments s, e.enablesDiscrete = false := by
    intro e he
    simp only [Decision.removeFragments, List.mem_append] at he
    rcases he with he | he <;> split at he <;> simp at he <;> rw [he] <;> rfl
  rw [(Decision.decide_effects s).1, (Decision.decide_effects s).2]
  suffices h : (Decision.choose s).mode.isPrime = true ∨
      ∀ e ∈ (Decision.choose s).effects, e.enablesDiscrete = false by
    refine h.imp_right fun h e he => ?_
    rcases List.mem_append.mp he with he | he
    · exact h e he
    · split at he
      · cases he
      · rw [List.mem_singleton.mp he]
        rfl
  generalize hm : (Decision.choose s).mode = mode
  generalize he : (Decision.choose s).effects = effects
  have hchosen := Decision.chosen s
  rw [hm, he] at hchosen
  cases hchosen with
  | nothing few => exact .inr fun e he => by cases he
  | prime discrete nvidia route =>
    unfold Decision.prime
    split
    · refine .inr fun e he => ?_
      simp only [Decision.primeOff, List.mem_append, List.mem_singleton] at he
      rcases he with (he | he) | he
      · exact hremove e he
      · split at he
        · rw [List.mem_singleton.mp he]
          rfl
        · cases he
      · rw [he]
        rfl
    · exact .inl rfl
    · split <;> exact .inl rfl
  | powerXpress setting =>
    refine .inr fun e he => ?_
    rw [List.mem_singleton.mp he]
    rfl
  | integratedAlone single => exact .inr hremove
  | discreteAlone single =>
    refine .inr fun e he => ?_
    simp only [Decision.discreteOnly] at he
    split at he
    · rw [List.mem_singleton.mp he]
      rfl
    · cases he
  | muxed several => exact .inr hremove

/-- Carried out, a decision leaves the fragments that the mode it reaches says, be that its own
or the one it falls back to. -/
theorem execute_held (hc : config.WritesApart) (ha : actions.KeepsFiles) {w : World σ}
    (free : w.tree.LinkFree) (hs : s.SeesFragments config triplet w.tree) :
    Held triplet s (fun f => f.bytes? config w.tree)
      (fun f => f.bytes? config
        (execute config actions triplet (Decision.decide s) w).2.tree)
      (execute config actions triplet (Decision.decide s) w).1 := by
  rcases carryOutFrom_fragments hc ha triplet (Decision.decide s).mode
    (Decision.decide s).effects free (isPrime_or_not_enables s) with ⟨hm, hf⟩ | ⟨-, hm, hf⟩
  · unfold execute carryOut
    simp only [hm, hf]
    exact held_of_chosen (known_of_seesFragments hs) hs
  · unfold execute carryOut
    simp only [hm]
    exact hf

/-! ## The main result -/

/-- What the fragments on disk have to be in a mode. `before` is the tree that the mode was
decided on and `after` the one it was reached in. -/
def FragmentsMatch (config : Config) (triplet : String) (s : Situation)
    (before after : FileTree) : Mode → Prop
  | .primeOn =>
    (∃ discrete, s.discrete? = some discrete ∧
      after.read (Fragment.outputClass.file config) =
        .ok (Text.encode (Fragment.outputClassText triplet discrete))) ∧
    Fragment.fileExists config .serverLayout after = false
  | .primeOnDemand =>
    after.read (Fragment.serverLayout.file config) = .ok (Text.encode Fragment.serverLayoutText) ∧
    Fragment.fileExists config .outputClass after = false
  | .integratedOnly => ∀ f : Fragment, Fragment.fileExists config f after = false
  | .discreteOnly =>
    Fragment.fileExists config .serverLayout after = false ∧
    (2 ≤ s.devices.length → Fragment.fileExists config .outputClass after = false)
  | .powerXpress _ | .noAction => ∀ f : Fragment, f.bytes? config after = f.bytes? config before

/-- What the fragments hold is what is on disk, and where they hold nothing there is no file. -/
theorem fragmentsMatch_of_held {before after : FileTree} {mode : Mode}
    (h : Held triplet s (fun f => f.bytes? config before) (fun f => f.bytes? config after) mode)
    (habsent : ∀ f : Fragment, f.bytes? config after = none →
      Fragment.fileExists config f after = false) :
    FragmentsMatch config triplet s before after mode := by
  have hread : ∀ (f : Fragment) (content : Bytes), f.bytes? config after = some content →
      after.read (f.file config) = .ok content := by
    intro f content hb
    unfold Fragment.bytes? at hb
    cases hr : after.read (f.file config) with
    | error cause => rw [hr] at hb; cases hb
    | ok found => rw [hr] at hb; cases hb; rfl
  cases mode with
  | primeOn =>
    obtain ⟨⟨discrete, hd, hb⟩, hl⟩ := h
    exact ⟨⟨discrete, hd, hread _ _ hb⟩, habsent _ hl⟩
  | primeOnDemand => exact ⟨hread _ _ h.1, habsent _ h.2⟩
  | integratedOnly => exact fun f => habsent f (h f)
  | discreteOnly => exact ⟨habsent _ h.1, fun hlen => habsent _ (h.2 hlen)⟩
  | powerXpress setting => exact fun f => congrFun h f
  | noAction => exact fun f => congrFun h f

/-- However a run goes, the fragments on disk match the mode it returns: a run that yields a
mode was opted out of, and changed nothing, or it decided on a situation, and the fragments are
what the mode says for that situation. -/
theorem fragments_match_mode {config : Config} {actions : Actions σ} (hc : config.WritesApart)
    (ha : actions.KeepsFiles) {w : World σ} (free : w.tree.LinkFree)
    (hdir : ∀ f : Fragment, ¬ w.tree.DirAt (f.file config).place) {mode : Mode}
    (h : (run config actions w).1 = .ok mode) :
    (Probe.optedOut config.kernelCommandLine w.tree = true ∧ mode = .noAction ∧
        (run config actions w).2.tree = w.tree) ∨
      ∃ triplet s w', Prepared config actions w triplet s w' ∧
        FragmentsMatch config triplet s w'.tree (run config actions w).2.tree mode := by
  rcases run_cases config actions w with ⟨ho, hm, halike⟩ | ⟨cause, he, -⟩ |
    ⟨triplet, s, w', hp⟩
  · rw [hm] at h
    cases h
    exact .inl ⟨ho, rfl, halike.tree⟩
  · rw [he] at h
    cases h
  · refine .inr ⟨triplet, s, w', hp, ?_⟩
    rw [hp.run_eq] at h ⊢
    cases h
    obtain ⟨free', hdirs⟩ := hp.linkFree_and_dirAt hc ha free
    have hs : s.SeesFragments config triplet w'.tree := by
      obtain ⟨scan, last, offloadingWasRequired, drivers, rfl⟩ := hp.situation_eq
      rw [value_situationOf]
      exact ⟨rfl, rfl, rfl⟩
    refine fragmentsMatch_of_held (execute_held hc ha free' hs) fun f hb => ?_
    have htouch := (execute_touches hc ha triplet (Decision.decide s) w').2 free'
    have down := hc.descends (.fragment f)
    refine Fragment.has_of_bytes?_none htouch.linkFree down (fun hd => hdir f ?_) hb
    -- neither the snapshots nor any other file stand below a fragment
    have happart : ∀ file, (f.file config).place <+: (config.pathOf file).place →
        (f.file config).place = (config.pathOf file).place := by
      intro file hpre
      by_cases hfile : file = .fragment f
      · rw [hfile]
        rfl
      · exact absurd hpre (hc.apart file (.fragment f) hfile).2
    refine hdirs _ ?_ (htouch.dirAt _ ?_ hd)
    · intro p hmem hpre
      rcases List.mem_cons.mp hmem with rfl | hmem
      · exact happart .snapshot hpre
      · rw [List.mem_singleton.mp hmem] at hpre ⊢
        have hne : WrittenFile.fragment f ≠ .snapshot := by simp
        exact absurd hpre (hc.apart_newSnapshot hne).2
    · intro p hmem hpre
      obtain ⟨file, -, rfl⟩ := List.mem_map.mp hmem
      exact happart file hpre

/-- On a laptop whose operator wants the NVIDIA card for every output, a run ends in that mode
and the fragments are what it says. -/
theorem fragments_match_mode_laptop :
    (run Laptop.config Rehearsal.actions.recorded (Laptop.world "on\n" ["i915"])).1 = .ok .primeOn ∧
      ∃ triplet s w', Prepared Laptop.config Rehearsal.actions.recorded
          (Laptop.world "on\n" ["i915"]) triplet s w' ∧
        FragmentsMatch Laptop.config triplet s w'.tree
          (run Laptop.config Rehearsal.actions.recorded (Laptop.world "on\n" ["i915"])).2.tree
          .primeOn := by
  have hmode : (run Laptop.config Rehearsal.actions.recorded (Laptop.world "on\n" ["i915"])).1 =
      .ok .primeOn := by decide +kernel
  refine ⟨hmode, ?_⟩
  have hc : Laptop.config.WritesApart := by decide +kernel
  have h := fragments_match_mode hc Rehearsal.actions_keepsFiles.recorded
    (FileTree.linkFree_of_check (by decide +kernel)) (fun f => by cases f <;> decide +kernel) hmode
  exact h.resolve_left fun h => by cases h.2.1

end Run

end HybridGraphics
