import HybridGraphics.Proofs.KernelModule.Protocol
import HybridGraphics.Proofs.System.Modules

/-!
# One ended session is enough

Where nothing but the display session and the stack's own order stands in the way of
unloading it, the protocol frees the stack, and ends the session only if that is needed:
`one_ended_session_suffices`.

On a rehearsed system a round is a function of the system's state: `passOver` goes through
the stack, and the look at its end asks the state it yields (`unloadInOrder_rounds`). Each
module a pass takes away is one that the session does not hold (`passOver_trims`), so a
module it does hold is still there at the end of the first pass, and the session is ended.
A pass in which the session holds nothing clears the stack (`passOver_clears`), by induction
along it: a module is held only by those before it, and they are gone when its turn comes.
-/

namespace HybridGraphics

open KernelModule (nvidiaStack Round)

namespace Rehearsal

variable {r : Rehearsal} {stack : List String}

/-! ## Fewer modules -/

/-- The same system without some of its modules. -/
def without (r : Rehearsal) (gone : List String) : Rehearsal :=
  { r with loaded := r.loaded.filter (· ∉ gone) }

@[simp] theorem mem_without {gone : List String} {name : String} :
    name ∈ (r.without gone).loaded ↔ name ∈ r.loaded ∧ name ∉ gone := by
  simp [without]

theorem without_nil : r.without [] = r := by
  have hall : r.loaded.filter (· ∉ []) = r.loaded := by simp
  rw [without, hall]

/-- Modules may go one after the other, or at once. -/
theorem without_without (gone more : List String) :
    (r.without gone).without more = r.without (gone ++ more) := by
  simp [without, List.filter_filter, Bool.and_comm]

/-- What goes anyway need not have been there. -/
theorem loaded_without_of_subset {gone : List String} (h : gone ⊆ stack) :
    ((r.without gone).without stack).loaded = (r.without stack).loaded := by
  rw [without_without]
  refine List.filter_congr fun name _ => ?_
  simp only [List.mem_append, decide_eq_decide, not_or]
  exact ⟨And.right, fun hn => ⟨fun hg => hn (h hg), hn⟩⟩

theorem without_of_not_mem {name : String} (h : name ∉ r.loaded) : r.without [name] = r := by
  have hall : r.loaded.filter (· ∉ [name]) = r.loaded := by
    refine List.filter_eq_self.mpr fun other ho => ?_
    have hne : other ≠ name := fun he => h (he ▸ ho)
    simpa using hne
  rw [without, hall]

theorem Faithful.without (h : r.Faithful) (gone : List String) : (r.without gone).Faithful where
  reads := h.reads
  plain := h.plain
  named name hn := h.named name (mem_without.mp hn).1

/-! ## One pass -/

/-- Asks for a module to be unloaded if it is in the table. -/
def unloadShown (r : Rehearsal) (name : String) : Rehearsal :=
  if r.shows name then (r.unload name).2 else r

/-- One pass over a stack of modules. -/
def passOver (r : Rehearsal) (stack : List String) : Rehearsal := stack.foldl unloadShown r

/-- Nothing but the display session and the order of the stack stands in the way of unloading it:
a module of the stack is held by one that comes before it, or by one that is not loaded. -/
structure Clearable (r : Rehearsal) (stack : List String) : Prop where
  faithful : r.Faithful
  named : ∀ name ∈ stack, name ≠ "" ∧ name ≠ "16384"
  spent : ∀ name ∈ stack, r.attemptsLeft name = 0
  held : ∀ name ∈ stack, ∀ holder ∈ r.heldBy.lookup name,
    holder ∈ stack.takeWhile (· ≠ name) ∨ holder ∉ r.loaded

namespace Clearable

/-- Of a stack that can be cleared, the table shows what is loaded. -/
theorem shows_iff {name : String} (h : r.Clearable stack) (hn : name ∈ stack) :
    r.shows name = true ↔ name ∈ r.loaded :=
  Rehearsal.shows_iff h.faithful (h.named name hn).1 (h.named name hn).2

/-- It stays so when modules of the stack have gone. -/
theorem without (h : r.Clearable stack) (gone : List String) : (r.without gone).Clearable stack where
  faithful := h.faithful.without gone
  named := h.named
  spent := h.spent
  held name hn holder hl :=
    (h.held name hn holder hl).imp_right fun ho hm => ho (mem_without.mp hm).1

/-- It stays so when the session has ended. -/
theorem ended (h : r.Clearable stack) : Clearable { r with terminated := true } stack where
  faithful := ⟨h.faithful.reads, h.faithful.plain, h.faithful.named⟩
  named := h.named
  spent := h.spent
  held := h.held

/-- What the first module of the stack held, it holds no longer when it has gone. -/
theorem tail {name : String} {rest : List String} (h : r.Clearable (name :: rest)) :
    (r.without [name]).Clearable rest where
  faithful := h.faithful.without [name]
  named other ho := h.named other (List.mem_cons_of_mem _ ho)
  spent other ho := h.spent other (List.mem_cons_of_mem _ ho)
  held other ho holder hl := by
    rcases h.held other (List.mem_cons_of_mem _ ho) holder hl with hm | hm
    · rw [List.takeWhile_cons] at hm
      split at hm
      next =>
        rcases List.mem_cons.mp hm with rfl | hm
        · exact .inr fun hm => (mem_without.mp hm).2 List.mem_cons_self
        · exact .inl hm
      next => cases hm
    · exact .inr fun hm' => hm (mem_without.mp hm').1

/-- The first module of a stack that can be cleared is held by no other. -/
theorem not_held {name : String} {rest : List String} (h : r.Clearable (name :: rest)) :
    r.held name = false := by
  unfold Rehearsal.held
  split
  next holder hl =>
    rcases h.held name List.mem_cons_self holder hl with hm | hm
    · simp at hm
    · simpa using hm
  next => rfl

end Clearable

/-- A module is unloaded unless it is held by the session or by another. -/
theorem unload_eq {name : String} (h : r.attemptsLeft name = 0) :
    (r.unload name).2 = if r.pinned name || r.held name then r else r.without [name] := by
  unfold unload
  split
  next => rfl
  next =>
    have hfilter : r.loaded.filter (· != name) = r.loaded.filter (· ∉ [name]) :=
      List.filter_congr fun other _ => by rw [Bool.eq_iff_iff]; simp
    rw [if_neg (by omega), without, hfilter]

/-- At most the module that is asked for goes, and only if the session does not hold it. -/
theorem unloadShown_cases {name : String} (h : r.attemptsLeft name = 0) :
    r.unloadShown name = r ∨ r.pinned name = false ∧ r.unloadShown name = r.without [name] := by
  unfold unloadShown
  split
  next =>
    rw [unload_eq h]
    split
    next => exact .inl rfl
    next hfree =>
      simp only [Bool.or_eq_true, not_or, Bool.not_eq_true] at hfree
      exact .inr ⟨hfree.1, rfl⟩
  next => exact .inl rfl

/-- A pass takes modules of the stack away that the session does not hold, and nothing else. -/
theorem passOver_trims : ∀ (stack : List String) {r : Rehearsal},
    (∀ name ∈ stack, r.attemptsLeft name = 0) →
      ∃ gone, gone ⊆ stack ∧ (∀ name ∈ gone, r.pinned name = false) ∧ r.passOver stack = r.without gone
  | [], _, _ => ⟨[], List.nil_subset _, fun _ hn => (List.not_mem_nil hn).elim, without_nil.symm⟩
  | name :: rest, r, h => by
    have hrest : ∀ other ∈ rest, r.attemptsLeft other = 0 := fun other ho =>
      h other (List.mem_cons_of_mem _ ho)
    rcases unloadShown_cases (h name List.mem_cons_self) with hstep | ⟨hfree, hstep⟩
    · obtain ⟨gone, hsub, hpins, hpass⟩ := passOver_trims rest hrest
      refine ⟨gone, fun _ hg => List.mem_cons_of_mem _ (hsub hg), hpins, ?_⟩
      rw [← hpass, passOver, List.foldl_cons, hstep, passOver]
    · obtain ⟨gone, hsub, hpins, hpass⟩ := passOver_trims rest (r := r.without [name]) hrest
      refine ⟨name :: gone, List.cons_subset_cons _ hsub, ?_, ?_⟩
      · intro other ho
        rcases List.mem_cons.mp ho with rfl | ho
        · exact hfree
        · exact hpins other ho
      · rw [passOver, List.foldl_cons, hstep]
        exact hpass.trans (without_without [name] gone)

/-- A pass in which the session holds no loaded module of the stack clears it. -/
theorem passOver_clears : ∀ (stack : List String) {r : Rehearsal}, r.Clearable stack →
    (∀ name ∈ stack, name ∈ r.loaded → r.pinned name = false) →
      r.passOver stack = r.without stack
  | [], _, _, _ => without_nil.symm
  | name :: rest, r, h, hpins => by
    have hstep : r.unloadShown name = r.without [name] := by
      unfold unloadShown
      by_cases hl : name ∈ r.loaded
      · rw [if_pos ((h.shows_iff List.mem_cons_self).mpr hl), unload_eq (h.spent _ List.mem_cons_self),
          hpins name List.mem_cons_self hl, h.not_held]
        rfl
      · rw [if_neg fun hs => hl ((h.shows_iff List.mem_cons_self).mp hs), without_of_not_mem hl]
    have hrest := passOver_clears rest h.tail fun other ho hl =>
      hpins other (List.mem_cons_of_mem _ ho) (mem_without.mp hl).1
    rw [passOver, List.foldl_cons, hstep]
    exact hrest.trans (without_without [name] rest)

/-! ## The protocol -/

/-- The step makes this of the system's state. -/
def Drives {α : Type} (x : Act (Recorded Rehearsal) α) (f : Rehearsal → Rehearsal) : Prop :=
  ∀ w, (x w).2.system.system = f w.system.system

section Drives

variable {α β : Type} {x : Act (Recorded Rehearsal) α} {g : α → Act (Recorded Rehearsal) β}

theorem Drives.bind {f h : Rehearsal → Rehearsal} (hx : Drives x f) (hg : ∀ a, Drives (g a) h) :
    Drives (x >>= g) fun r => h (f r) := by
  intro w
  rw [Act.bind_apply, hg, hx]

theorem Drives.note_bind {level : Level} {text : String} {g : Unit → Act (Recorded Rehearsal) β}
    {h : Rehearsal → Rehearsal} (hg : Drives (g ()) h) : Drives (Act.note level text >>= g) h :=
  fun w => hg (Act.note level text w).2

/-- A step that asks the system, and then one that goes by the answer. -/
theorem drives_of_answers {f : Rehearsal → α} {h : α → Rehearsal → Rehearsal}
    (hx : Act.Answers x fun r _ => f r) (hg : ∀ a, Drives (g a) (h a)) :
    Drives (x >>= g) fun r => h (f r) r := by
  intro w
  obtain ⟨hv, hs⟩ := hx w
  rw [Act.bind_apply, hg, hv, hs.system]

end Drives

theorem unload_drives (name : String) :
    Drives (actions.recorded.unloadModule name) fun r => (r.unload name).2 := fun _ => rfl

/-- Unloading what is listed of a stack is one pass over it. -/
theorem unloadListed_drives :
    ∀ stack : List String, Drives (KernelModule.unloadListed actions.recorded stack)
      (passOver · stack)
  | [] => fun _ => rfl
  | name :: rest => by
    have ih := unloadListed_drives rest
    refine drives_of_answers
      (h := fun loaded r => passOver (if loaded then (r.unload name).2 else r) rest)
      (isLoaded_answers name) fun loaded => ?_
    cases loaded with
    | false => exact ih
    | true =>
      refine (unload_drives name).bind (h := (passOver · rest)) fun outcome => ?_
      cases outcome with
      | ok _ => exact ih
      | error cause => exact .note_bind ih

/-- A round goes over the stack, and finds the first module that is in the table then. -/
theorem unloadInOrder_rounds (stack : List String) (w : World (Recorded Rehearsal)) :
    (KernelModule.unloadInOrder actions.recorded stack w).1 =
        stack.find? (w.system.system.passOver stack).shows ∧
      (KernelModule.unloadInOrder actions.recorded stack w).2.system.system =
        w.system.system.passOver stack := by
  obtain ⟨hv, hs⟩ := firstListed_answers stack (KernelModule.unloadListed actions.recorded stack w).2
  have hpass := unloadListed_drives stack w
  rw [hpass] at hv
  exact ⟨hv, hs.system.trans hpass⟩

/-- A session that can be ended is ended, and what it pinned is free. -/
theorem terminate_eq (h : r.session = some true) :
    r.terminate = (.ok true, { r with terminated := true }) := by
  rw [terminate, h]

/-- A stack that has gone is not in the table. -/
theorem find?_shows_without (h : r.Clearable stack) :
    stack.find? (r.without stack).shows = none := by
  refine List.find?_eq_none.mpr fun name hn hs => ?_
  exact (mem_without.mp (((h.without stack).shows_iff hn).mp hs)).2 hn

/-- A module that the session holds is still there after a pass. -/
theorem find?_shows_passOver (h : r.Clearable stack) {name : String} (hn : name ∈ stack)
    (hl : name ∈ r.loaded) (hpin : r.pinned name = true) :
    ∃ found, stack.find? (r.passOver stack).shows = some found := by
  obtain ⟨gone, -, hfree, hpass⟩ := passOver_trims stack h.spent
  have hkept : name ∉ gone := fun hg => by
    rw [hfree name hg] at hpin
    cases hpin
  have hshows : (r.passOver stack).shows name = true := by
    rw [hpass]
    exact ((h.without gone).shows_iff hn).mpr (mem_without.mpr ⟨hl, hkept⟩)
  exact Option.isSome_iff_exists.mp (List.find?_isSome.mpr ⟨name, hn, hshows⟩)

/-- Without a module in its way, the protocol is a round. -/
theorem unloadStack_of_cleared {config : Config} {w : World (Recorded Rehearsal)}
    (h : (KernelModule.unloadInOrder actions.recorded stack w).1 = none) :
    KernelModule.unloadStack config actions.recorded stack w =
      (.ok (), (KernelModule.unloadInOrder actions.recorded stack w).2) := by
  rw [KernelModule.unloadStack, Act.bind_apply, h]
  rfl

/-- With a module in its way, it ends the session, and is a second round from there. -/
theorem unloadStack_of_pinned {config : Config} {w w1 : World (Recorded Rehearsal)} {pinned : String}
    (h : KernelModule.unloadInOrder actions.recorded stack w = (some pinned, w1))
    (session : w1.system.system.session = some true) :
    ∃ w2 : World (Recorded Rehearsal),
      w2.system.system = { w1.system.system with terminated := true } ∧
      w2.system.requests = w1.system.requests ++
        [.terminate config.displayServers config.sessionUser (.ok true)] ∧
      ((KernelModule.unloadInOrder actions.recorded stack w2).1 = none →
        KernelModule.unloadStack config actions.recorded stack w =
          (.ok (), (KernelModule.unloadInOrder actions.recorded stack w2).2)) := by
  have hend := terminate_eq session
  obtain ⟨ended, he⟩ : ∃ ended, ended =
      actions.recorded.terminateSession config.displayServers config.sessionUser
        (Act.warn s!"{pinned} is still in use; terminating the display session" w1).2 := ⟨_, rfl⟩
  have hanswer : ended.1 = .ok true := by
    rw [he]
    exact congrArg Prod.fst hend
  have hasked : ended.2.system.requests = w1.system.requests ++
      [.terminate config.displayServers config.sessionUser ended.1] := by
    rw [he]
    rfl
  refine ⟨ended.2, ?_, by rw [hasked, hanswer], fun hnone => ?_⟩
  · rw [he]
    exact congrArg Prod.snd hend
  · rw [KernelModule.unloadStack, Act.bind_apply, h]
    dsimp only
    rw [Act.bind_apply, Act.bind_apply, ← he, hanswer]
    dsimp only
    rw [Act.bind_apply, hnone]
    rfl

/-- A stack that the session does not hold is cleared in one round. -/
theorem unloadStack_of_free {config : Config} {w : World (Recorded Rehearsal)}
    (h : w.system.system.Clearable stack)
    (hfree : ∀ name ∈ stack, name ∈ w.system.system.loaded → w.system.system.pinned name = false) :
    (KernelModule.unloadStack config actions.recorded stack w).1 = .ok () ∧
      (KernelModule.unloadStack config actions.recorded stack w).2.system.system.loaded =
        (w.system.system.without stack).loaded ∧
      ∃ new, (KernelModule.unloadStack config actions.recorded stack w).2.system.requests =
          w.system.requests ++ new ∧
        ∀ q ∈ new, q.isTerminate = false := by
  obtain ⟨hv, hs⟩ := unloadInOrder_rounds stack w
  obtain ⟨asked, hasked, round⟩ := KernelModule.unloadInOrder_asks actions stack w
  rw [passOver_clears stack h hfree] at hv hs
  have hrun : KernelModule.unloadStack config actions.recorded stack w = _ :=
    unloadStack_of_cleared (hv.trans (find?_shows_without h))
  rw [hrun]
  exact ⟨rfl, congrArg Rehearsal.loaded hs, asked, hasked, round.not_terminate⟩

/-- A stack that the session holds is cleared in a second round, when the session has ended. -/
theorem unloadStack_of_held {config : Config} {w : World (Recorded Rehearsal)} {name : String}
    (h : w.system.system.Clearable stack) (session : w.system.system.session = some true)
    (hn : name ∈ stack) (hl : name ∈ w.system.system.loaded)
    (hpin : w.system.system.pinned name = true) :
    (KernelModule.unloadStack config actions.recorded stack w).1 = .ok () ∧
      (KernelModule.unloadStack config actions.recorded stack w).2.system.system.loaded =
        (w.system.system.without stack).loaded ∧
      ∃ new, (KernelModule.unloadStack config actions.recorded stack w).2.system.requests =
          w.system.requests ++ new ∧
        ∃ q ∈ new, q.isTerminate = true := by
  obtain ⟨hv, hs⟩ := unloadInOrder_rounds stack w
  obtain ⟨first, hfirst, -⟩ := KernelModule.unloadInOrder_asks actions stack w
  obtain ⟨left, hleft⟩ := find?_shows_passOver h hn hl hpin
  obtain ⟨gone, hsub, -, hpass⟩ := passOver_trims stack h.spent
  rw [hpass] at hs
  obtain ⟨w2, hended, hasked, hrun⟩ := unloadStack_of_pinned (Prod.ext (hv.trans hleft) rfl)
    ((congrArg Rehearsal.session hs).trans session)
  rw [hs] at hended
  -- the second pass starts without the session, and with what the first one left
  obtain ⟨hv2, hs2⟩ := unloadInOrder_rounds stack w2
  obtain ⟨second, hsecond, -⟩ := KernelModule.unloadInOrder_asks actions stack w2
  have h2 : w2.system.system.Clearable stack := by
    rw [hended]
    exact (h.without gone).ended
  have hfree : ∀ name ∈ stack, name ∈ w2.system.system.loaded →
      w2.system.system.pinned name = false := fun _ _ _ => by
    rw [hended]
    rfl
  rw [passOver_clears stack h2 hfree] at hv2 hs2
  rw [hrun (hv2.trans (find?_shows_without h2))]
  refine ⟨rfl, ?_, first ++ .terminate config.displayServers config.sessionUser (.ok true) :: second,
    ?_, _, List.mem_append_right _ List.mem_cons_self, rfl⟩
  · rw [hs2, hended]
    exact loaded_without_of_subset hsub
  · rw [hsecond, hasked, hfirst]
    simp only [List.append_assoc, List.singleton_append]

/-- A system on which nothing but the display session and the modules' own order stands in the way
of unloading the NVIDIA stack. A module of the stack is held by one that goes before it, or by one
that is not loaded. -/
structure OnlySessionPins (r : Rehearsal) : Prop where
  faithful : r.Faithful
  live : r.terminated = false
  session : r.session = some true
  spent : ∀ name ∈ nvidiaStack, r.attemptsLeft name = 0
  held : ∀ name ∈ nvidiaStack, ∀ holder ∈ r.heldBy.lookup name,
    holder ∈ nvidiaStack.takeWhile (· ≠ name) ∨ holder ∉ r.loaded

namespace OnlySessionPins

/-- Where only the session and the modules' own order are in the way, the stack can be cleared. -/
theorem clearable (h : r.OnlySessionPins) : r.Clearable nvidiaStack where
  faithful := h.faithful
  named := by decide
  spent := h.spent
  held := h.held

theorem pinned_iff (h : r.OnlySessionPins) {name : String} :
    r.pinned name = true ↔ name ∈ r.sessionPinned := by
  rw [pinned, h.live]
  simp

end OnlySessionPins

/-- The NVIDIA stack is unloaded, and no other module goes. The display session is ended if a
loaded module of the stack is held by it, and is left alone otherwise. -/
theorem one_ended_session_suffices (config : Config) (w : World (Recorded Rehearsal))
    (h : w.system.system.OnlySessionPins) :
    (KernelModule.unloadNvidiaStack config actions.recorded w).1 = .ok () ∧
      (KernelModule.unloadNvidiaStack config actions.recorded w).2.system.system.loaded =
        w.system.system.loaded.filter
          (· ∉ ["nvidia_drm", "nvidia_modeset", "nvidia_uvm", "nvidia"]) ∧
      ∃ new, (KernelModule.unloadNvidiaStack config actions.recorded w).2.system.requests =
          w.system.requests ++ new ∧
        ((∃ q ∈ new, q.isTerminate = true) ↔
          ∃ name ∈ ["nvidia_drm", "nvidia_modeset", "nvidia_uvm", "nvidia"],
            name ∈ w.system.system.loaded ∧ name ∈ w.system.system.sessionPinned) := by
  by_cases hheld : ∃ name ∈ nvidiaStack, name ∈ w.system.system.loaded ∧
      name ∈ w.system.system.sessionPinned
  · obtain ⟨name, hn, hl, hpin⟩ := hheld
    obtain ⟨hok, hloaded, new, hnew, hends⟩ := unloadStack_of_held h.clearable h.session hn hl
      (h.pinned_iff.mpr hpin)
    exact ⟨hok, hloaded, new, hnew, fun _ => ⟨name, hn, hl, hpin⟩, fun _ => hends⟩
  · have hfree : ∀ name ∈ nvidiaStack, name ∈ w.system.system.loaded →
        w.system.system.pinned name = false := fun name hn hl =>
      Bool.eq_false_iff.mpr fun hpin => hheld ⟨name, hn, hl, h.pinned_iff.mp hpin⟩
    obtain ⟨hok, hloaded, new, hnew, hnone⟩ := unloadStack_of_free h.clearable hfree
    refine ⟨hok, hloaded, new, hnew, fun ⟨q, hq, hends⟩ => ?_, fun hpin => absurd hpin hheld⟩
    rw [hnone q hq] at hends
    cases hends

/-- A system whose display session holds a companion, which holds the driver by way of another. -/
def pinnedCompanion : World (Recorded Rehearsal) :=
  { tree := ⟨[]⟩
    system :=
      { system :=
          { loaded := ["nvidia", "i915", "nvidia_modeset", "nvidia_drm", "nvidia", "video"]
            sessionPinned := ["nvidia_drm", "i915"]
            heldBy := [("nvidia", "nvidia_modeset"), ("nvidia_modeset", "nvidia_drm")]
            session := some true } } }

theorem one_ended_session_suffices_companion :
    (KernelModule.unloadNvidiaStack Laptop.config actions.recorded pinnedCompanion).1 = .ok () ∧
      (KernelModule.unloadNvidiaStack Laptop.config actions.recorded
        pinnedCompanion).2.system.system.loaded = ["i915", "video"] ∧
      ∃ q ∈ (KernelModule.unloadNvidiaStack Laptop.config actions.recorded
        pinnedCompanion).2.system.requests, q.isTerminate = true := by
  have h : pinnedCompanion.system.system.OnlySessionPins :=
    ⟨by decide +kernel, rfl, rfl, by decide, by decide⟩
  obtain ⟨hok, hloaded, new, hnew, hend⟩ := one_ended_session_suffices Laptop.config pinnedCompanion h
  refine ⟨hok, hloaded, ?_⟩
  rw [hnew]
  exact hend.mpr ⟨"nvidia_drm", by decide, by decide, by decide⟩

end Rehearsal

end HybridGraphics
