import HybridGraphics.Proofs.Decision.OnlyPrime
import HybridGraphics.Proofs.KernelModule.Protocol
import HybridGraphics.Proofs.Run.Requests

/-!
# When a run may end the display session

Ending the display session costs whoever sits at the screen their work, and unloading a
driver may freeze it. `session_ends_only_for_policy_off` says that a run does either only
where the operator asked for the discrete card to be off, on a machine that really has an
NVIDIA card in use beside an integrated one. Then it goes by the unload protocol, once.

It holds for every tree and every system, with a table of modules that may change between
any two requests: nothing is assumed of what the system answers.

Gathering only asks questions, and every effect but one asks nothing disruptive
(`attempt_served`). A decision calls for that one only in a situation in which it may go,
and then once (`mayGo_of_mem`).
-/

namespace HybridGraphics

open Pci (Device Vendor)

variable {σ : Type}

/-- The situation is one in which the NVIDIA driver is to go: the operator wants the card off,
and it is in use beside an integrated one. -/
structure Situation.NvidiaMayGo (s : Situation) : Prop where
  policy : s.policy = .off
  several : 2 ≤ s.devices.length
  integrated : ∃ boot, s.devices.find? (·.bootVga) = some boot ∧
    (boot.vendor = Vendor.intel ∨ boot.vendor = Vendor.amd)
  discrete : ∃ other, s.devices.find? (!·.bootVga) = some other ∧ other.vendor = Vendor.nvidia
  offloading : s.requiresOffloading = true
  loaded : s.drivers.nvidiaLoaded = true
  withoutNouveau : s.drivers.nouveauLoaded = false
  notBlacklisted : s.drivers.nvidiaBlacklisted = false

/-! ## Decisions to unload the driver -/

namespace Decision

theorem unload_not_mem_removeFragments (s : Situation) :
    Effect.unloadNvidiaStack ∉ removeFragments s := by
  intro h
  cases Course.drives_removeFragments s _ h

/-- PRIME unloads the driver only if the policy is off, and then where it is loaded. -/
theorem prime_unload {s : Situation} {discrete : Device}
    (h : Effect.unloadNvidiaStack ∈ (prime s discrete).effects) :
    s.policy = .off ∧ s.drivers.nvidiaLoaded = true := by
  have hgoal := (Course.prime_sublist s discrete).subset h
  have hunseen := Course.unseen_of_mem_prime h rfl
  exact ⟨(Course.primeWay s discrete).off_of_unload hgoal, (Bool.not_eq_false _).mp hunseen⟩

/-- A decision unloads the driver only in a situation in which it may go, and then once. -/
theorem mayGo_of_mem {s : Situation} (h : Effect.unloadNvidiaStack ∈ (decide s).effects) :
    s.NvidiaMayGo ∧ ∃ before after,
      (decide s).effects = before ++ .unloadNvidiaStack :: after ∧
        Effect.unloadNvidiaStack ∉ before ∧ Effect.unloadNvidiaStack ∉ after := by
  obtain ⟨discrete, nvidia, route, hmode, heffects, hprime⟩ := prime_of_mem h rfl
  obtain ⟨policy, loaded⟩ := prime_unload hprime
  cases route with
  | restored integrated single intel restorable =>
    exact absurd policy (restorable?_eq_some restorable).2.2.1
  | beside boot several primary integrated other capable =>
    simp only [Situation.primeCapable, Bool.and_eq_true, Bool.not_eq_true'] at capable
    refine ⟨⟨policy, several, ⟨boot, primary, integrated⟩, ⟨discrete, other, nvidia⟩,
      capable.1.1.1, loaded, capable.1.1.2, capable.1.2⟩, removeFragments s,
      [runtimePm s discrete true, .setOffloadingMarker s.requiresOffloading], ?_,
      unload_not_mem_removeFragments s, by simp [runtimePm]⟩
    rw [(decide_effects s).2, hmode, heffects]
    simp [prime, policy, primeOff, loaded]

end Decision

namespace Run

open Act (Asks AsksOnly Keeps)
open KernelModule (nvidiaStack Pass Left Session)
open Request (countP_terminate_of_none)

variable {config : Config}

/-! ## What a list of effects asks -/

/-- Neither unloads a module nor ends the display session. -/
def isHarmless (q : Request) : Bool := !q.isDisruptive

/-- Someone at the screen loses nothing to a harmless request. -/
theorem not_disruptive_of_isHarmless {q : Request} (h : isHarmless q = true) :
    q.isDisruptive = false := by
  simpa [isHarmless] using h

theorem not_terminate_of_isHarmless {q : Request} (h : isHarmless q = true) :
    q.isTerminate = false :=
  q.not_terminate_of_not_disruptive (not_disruptive_of_isHarmless h)

/-- The requests of a list of effects: a session of the unload protocol for each effect that
calls for one, unless it was left out, and nothing disruptive for the others. -/
inductive Served (config : Config) : List Effect → List Request → Prop
  | done : Served config [] []
  | unload {rest session more outcome} (protocol : Session config nvidiaStack outcome session)
      (others : Served config rest more) :
      Served config (.unloadNvidiaStack :: rest) (session ++ more)
  | harmless {effect rest requests more} (only : ∀ q ∈ requests, isHarmless q = true)
      (others : Served config rest more) : Served config (effect :: rest) (requests ++ more)

/-- Every effect but one asks nothing disruptive. -/
theorem effectSteps_harmless (actions : Actions σ) {e : Effect} (he : e ≠ .unloadNvidiaStack) :
    EffectSteps (AsksOnly isHarmless) config actions.recorded e := by
  cases hd : e.drives with
  | false => exact effectSteps_asksOnly actions (fun _ _ _ => rfl) (fun _ _ _ => rfl) hd
  | true =>
    cases e with
    | loadModule name => exact Act.noting_asksOnly _ fun _ => rfl
    | unloadNvidiaStack => exact absurd rfl he
    | _ => cases hd

/-- An effect, attempted, asks for a session of the protocol if it is the one to, and nothing
disruptive otherwise. -/
theorem attempt_served (actions : Actions σ) (triplet : String) (e : Effect) :
    Asks (fun _ new => ∀ rest more, Served config rest more → Served config (e :: rest) (new ++ more))
      (attempt config actions.recorded triplet e) := by
  by_cases he : e = .unloadNvidiaStack
  · subst he
    have hunload : Asks (fun outcome new => Session config nvidiaStack outcome new)
        (KernelModule.unloadNvidiaStack config actions.recorded) :=
      KernelModule.unloadStack_asks config actions nvidiaStack
    refine Asks.bind (P := fun _ new => ∃ outcome, Session config nvidiaStack outcome new)
      (hunload.bind fun outcome new protocol => .pure ⟨outcome, by rwa [List.append_nil]⟩)
      fun result new hp => ?_
    obtain ⟨outcome, protocol⟩ := hp
    have hserved : ∀ rest more, Served config rest more →
        Served config (.unloadNvidiaStack :: rest) ((new ++ []) ++ more) := by
      intro rest more others
      rw [List.append_nil]
      exact .unload protocol others
    cases result with
    | ok _ => exact .pure hserved
    | error cause => exact .note_bind (.pure hserved)
  · intro w
    obtain ⟨new, hw, hn⟩ := attempt_keeps (Act.AsksOnly.frame isHarmless) triplet
      (effectSteps_harmless actions he : EffectSteps _ config _ e) w
    exact ⟨new, hw, fun _ _ others => .harmless hn others⟩

/-- Carrying a list of effects out asks what they ask, in order. -/
theorem carryOutFrom_served (actions : Actions σ) (triplet : String) (decided : Mode) :
    ∀ (effects : List Effect) (mode : Mode), Asks (fun _ new => Served config effects new)
      (carryOutFrom (attempt config actions.recorded triplet) (fallBack config) decided mode effects)
  | [], mode => .pure .done
  | e :: rest, mode => by
    have ih := carryOutFrom_served actions triplet decided rest
    rw [carryOutFrom]
    split
    next =>
      refine (ih mode).mono fun _ new others => ?_
      have hnothing : ∀ q ∈ ([] : List Request), isHarmless q = true := fun q hq => by cases hq
      exact .harmless hnothing others
    next =>
      refine (attempt_served actions triplet e).bind fun done new hserved => ?_
      split
      next => exact (ih mode).mono fun _ more others => hserved _ _ others
      next =>
        split
        next =>
          refine fallBack_asks.bind fun _ none hnone => ?_
          subst hnone
          exact (ih _).mono fun _ more others => hserved _ _ others
        next => exact (ih mode).mono fun _ more others => hserved _ _ others

/-- What two lists of effects ask is what the first asks, and then what the second does. -/
theorem Served.append {effects : List Effect} (before : List Effect) :
    ∀ {new : List Request}, Served config (before ++ effects) new →
      ∃ first more, new = first ++ more ∧ Served config before first ∧ Served config effects more := by
  induction before with
  | nil => exact fun {new} h => ⟨[], new, rfl, .done, h⟩
  | cons e rest ih =>
    intro new h
    rw [List.cons_append] at h
    cases h with
    | unload protocol others =>
      obtain ⟨first, more, rfl, hf, hm⟩ := ih others
      exact ⟨_, more, (List.append_assoc _ _ _).symm, .unload protocol hf, hm⟩
    | harmless only others =>
      obtain ⟨first, more, rfl, hf, hm⟩ := ih others
      exact ⟨_, more, (List.append_assoc _ _ _).symm, .harmless only hf, hm⟩

/-- Without the effect that unloads the driver, nothing disruptive is asked. -/
theorem Served.isHarmless {effects : List Effect} {new : List Request}
    (h : Served config effects new) (hn : Effect.unloadNvidiaStack ∉ effects) :
    ∀ q ∈ new, isHarmless q = true := by
  induction h with
  | done => exact fun q hq => by cases hq
  | unload protocol others ih => exact absurd List.mem_cons_self hn
  | harmless only others ih =>
    intro q hq
    rcases List.mem_append.mp hq with hq | hq
    · exact only q hq
    · exact ih (fun hm => hn (List.mem_cons_of_mem _ hm)) q hq

/-- With that effect once, there is at most one session of the protocol, and nothing disruptive
around it. -/
theorem Served.session {before after : List Effect} {new : List Request}
    (h : Served config (before ++ .unloadNvidiaStack :: after) new)
    (hb : Effect.unloadNvidiaStack ∉ before) (ha : Effect.unloadNvidiaStack ∉ after) :
    (∀ q ∈ new, Run.isHarmless q = true) ∨
      ∃ first session last outcome, new = first ++ session ++ last ∧
        (∀ q ∈ first, Run.isHarmless q = true) ∧ (∀ q ∈ last, Run.isHarmless q = true) ∧
          Session config nvidiaStack outcome session := by
  obtain ⟨first, more, rfl, hfirst, hmore⟩ := Served.append before h
  have hfirst := hfirst.isHarmless hb
  cases hmore with
  | unload protocol others =>
    exact .inr ⟨first, _, _, _, (List.append_assoc _ _ _).symm, hfirst, others.isHarmless ha,
      protocol⟩
  | harmless only others =>
    refine .inl fun q hq => ?_
    rcases List.mem_append.mp hq with hq | hq
    · exact hfirst q hq
    rcases List.mem_append.mp hq with hq | hq
    · exact only q hq
    · exact others.isHarmless ha q hq

/-! ## What a whole run asks -/

/-- Either a run asks nothing disruptive, or it found a situation in which the NVIDIA driver may
go, and asked for one session of the unload protocol. -/
theorem run_requests (config : Config) (actions : Actions σ) (w : World (Recorded σ)) :
    ∃ new, (run config actions.recorded w).2.system.requests = w.system.requests ++ new ∧
      ((∀ q ∈ new, isHarmless q = true) ∨
        ∃ triplet s w', Prepared config actions.recorded w triplet s w' ∧ s.NvidiaMayGo ∧
          ∃ first session last outcome, new = first ++ session ++ last ∧
            (∀ q ∈ first, isHarmless q = true) ∧ (∀ q ∈ last, isHarmless q = true) ∧
              Session config nvidiaStack outcome session) := by
  have hquestion : ∀ q : Request, q.isQuestion = true → isHarmless q = true := fun q hq => by
    rw [isHarmless, Request.not_disruptive_of_question hq]
    rfl
  rcases run_cases config actions.recorded w with ⟨-, -, halike⟩ | ⟨cause, -, hrun⟩ |
    ⟨triplet, s, w', hp⟩
  · exact ⟨[], by rw [halike.system, List.append_nil], .inl fun q hq => by cases hq⟩
  · obtain ⟨new, hw, hn⟩ := prepare_asks config actions w
    exact ⟨new, by rw [hrun]; exact hw, .inl fun q hq => hquestion q (hn q hq)⟩
  · obtain ⟨asked, hw, hn⟩ := prepare_asks config actions w
    rw [hp.eq] at hw
    have hcarry : Asks (fun _ new => Served config (Decision.decide s).effects new)
        (execute config actions.recorded triplet (Decision.decide s)) :=
      carryOutFrom_served actions triplet _ _ _
    obtain ⟨new, hw', hserved⟩ := hcarry w'
    have hnew : (run config actions.recorded w).2.system.requests =
        w.system.requests ++ (asked ++ new) := by
      rw [hp.run_eq, ← List.append_assoc, ← hw]
      exact hw'
    have hasked : ∀ q ∈ asked, isHarmless q = true := fun q hq => hquestion q (hn q hq)
    refine ⟨asked ++ new, hnew, ?_⟩
    have hharmless : (∀ q ∈ new, isHarmless q = true) → ∀ q ∈ asked ++ new, isHarmless q = true := by
      intro h q hq
      rcases List.mem_append.mp hq with hq | hq
      · exact hasked q hq
      · exact h q hq
    by_cases hm : Effect.unloadNvidiaStack ∈ (Decision.decide s).effects
    · obtain ⟨hmay, before, after, heffects, hb, ha⟩ := Decision.mayGo_of_mem hm
      rw [heffects] at hserved
      rcases hserved.session hb ha with h | ⟨first, session, last, outcome, rfl, hf, hl, hs⟩
      · exact .inl (hharmless h)
      · refine .inr ⟨triplet, s, w', hp, hmay, asked ++ first, session, last, outcome, ?_, ?_,
          hl, hs⟩
        · simp only [List.append_assoc]
        · intro q hq
          rcases List.mem_append.mp hq with hq | hq
          · exact hasked q hq
          · exact hf q hq
    · exact .inl (hharmless (hserved.isHarmless hm))

section Around

variable {first session last : List Request} {outcome : Except KernelModule.Error Unit}

/-- A session of the protocol, with nothing disruptive around it, ends the display session at
most once. -/
theorem countP_terminate_le_one (hf : ∀ q ∈ first, isHarmless q = true)
    (hl : ∀ q ∈ last, isHarmless q = true) (hs : Session config nvidiaStack outcome session) :
    (first ++ session ++ last).countP Request.isTerminate ≤ 1 := by
  rw [List.countP_append, List.countP_append,
    countP_terminate_of_none fun q hq => not_terminate_of_isHarmless (hf q hq),
    countP_terminate_of_none fun q hq => not_terminate_of_isHarmless (hl q hq)]
  rcases hs.terminate_cases with h | ⟨pass, look, pinned, answer, rest, rfl, hpass, hleft, hr⟩
  · rw [countP_terminate_of_none h]
    exact Nat.zero_le 1
  · rw [List.countP_append, List.countP_cons, countP_terminate_of_none hr,
      countP_terminate_of_none (KernelModule.not_terminate_of_mem_pass hpass hleft)]
    exact Nat.le_refl 1

/-- What comes before the end of the display session is what came before the session of the
protocol, and a first pass that left a module listed. -/
theorem pass_before_terminate (hf : ∀ q ∈ first, isHarmless q = true)
    (hl : ∀ q ∈ last, isHarmless q = true) (hs : Session config nvidiaStack outcome session)
    {before after : List Request} {servers : List String} {user : String}
    {answer : Except Fault Bool}
    (h : first ++ session ++ last = before ++ .terminate servers user answer :: after) :
    ∃ pass look pinned, before = first ++ (pass ++ look) ∧ Pass nvidiaStack pass ∧
      Left nvidiaStack look (some pinned) := by
  have hfirst : ∀ q ∈ first, q.isTerminate = false := fun q hq =>
    not_terminate_of_isHarmless (hf q hq)
  have hlast : ∀ q ∈ last, q.isTerminate = false := fun q hq =>
    not_terminate_of_isHarmless (hl q hq)
  rcases hs.terminate_cases with hnone | ⟨pass, look, pinned, answer', rest, rfl, hpass, hleft, hr⟩
  · have hmem : Request.terminate servers user answer ∈ first ++ session ++ last := by
      rw [h]
      simp
    simp only [List.mem_append] at hmem
    rcases hmem with (hm | hm) | hm
    · cases hfirst _ hm
    · cases hnone _ hm
    · cases hlast _ hm
  · refine ⟨pass, look, pinned, ?_, hpass, hleft⟩
    have hsplit : before ++ .terminate servers user answer :: after =
        (first ++ (pass ++ look)) ++
          .terminate config.displayServers config.sessionUser answer' :: (rest ++ last) := by
      rw [← h]
      simp only [List.append_assoc, List.cons_append]
    refine (Request.split_at_terminate hsplit rfl ?_ ?_).1
    · intro r hr
      rcases List.mem_append.mp hr with hr | hr
      · exact hfirst r hr
      · exact KernelModule.not_terminate_of_mem_pass hpass hleft r hr
    · intro r hr'
      rcases List.mem_append.mp hr' with hr' | hr'
      · exact hr r hr'
      · exact hlast r hr'

end Around

/-- A run ends the display session at most once. It does that, or asks to unload a module, only
if it was not opted out of and found a situation in which the operator wants the NVIDIA card off
and it is in use beside an integrated one; only the driver and its companions are asked to be
unloaded; and the session is ended only after a first pass over these left one of them listed. -/
theorem session_ends_only_for_policy_off (config : Config) (actions : Actions σ)
    (w : World (Recorded σ)) :
    ∃ new, (run config actions.recorded w).2.system.requests = w.system.requests ++ new ∧
      new.countP Request.isTerminate ≤ 1 ∧
      ((∃ q ∈ new, q.isDisruptive = true) →
        ∃ triplet s w', Prepared config actions.recorded w triplet s w' ∧ s.NvidiaMayGo) ∧
      (∀ name answer, .unload name answer ∈ new →
        name ∈ ["nvidia_drm", "nvidia_modeset", "nvidia_uvm", "nvidia"]) ∧
      (∀ before after servers user answer,
        new = before ++ .terminate servers user answer :: after →
          ∃ earlier pass look pinned, before = earlier ++ (pass ++ look) ∧
            (∀ q ∈ earlier, q.isDisruptive = false) ∧
            Pass nvidiaStack pass ∧ Left nvidiaStack look (some pinned)) := by
  obtain ⟨new, hw, hnew⟩ := run_requests config actions w
  refine ⟨new, hw, ?_⟩
  rcases hnew with hnew | ⟨triplet, s, w', hp, hmay, first, session, last, outcome, rfl, hf, hl, hs⟩
  · refine ⟨?_, ?_, ?_, ?_⟩
    · rw [countP_terminate_of_none fun q hq => not_terminate_of_isHarmless (hnew q hq)]
      exact Nat.zero_le 1
    · rintro ⟨q, hq, hd⟩
      rw [not_disruptive_of_isHarmless (hnew q hq)] at hd
      cases hd
    · intro name answer hq
      cases hnew _ hq
    · intro before after servers user answer he
      cases hnew (.terminate servers user answer) (by rw [he]; simp)
  · refine ⟨countP_terminate_le_one hf hl hs, fun _ => ⟨triplet, s, w', hp, hmay⟩, ?_, ?_⟩
    · intro name answer hq
      rcases List.mem_append.mp hq with hq | hq
      · rcases List.mem_append.mp hq with hq | hq
        · cases hf _ hq
        · exact hs.mem_stack hq
      · cases hl _ hq
    · intro before after servers user answer he
      obtain ⟨pass, look, pinned, hbefore, hpass, hleft⟩ := pass_before_terminate hf hl hs he
      exact ⟨first, pass, look, pinned, hbefore, fun q hq =>
        not_disruptive_of_isHarmless (hf q hq), hpass, hleft⟩

end Run

end HybridGraphics
