import HybridGraphics.KernelModule.Unload
import HybridGraphics.Proofs.World.History

/-!
# The unload protocol, seen from the system

What `unloadStack` asks of the system, request by request. `Pass` is one pass over the
stack: each module is looked up, and asked to be unloaded if the table lists it just
then. `Left` is the look at the end of a pass for the first module still listed, and
`Round` is both. `Session` puts them together: one round; if a module is left, one request
to end the display session; if one was ended, a second round, and nothing more. What comes
of it is what the last of these said.

The system may answer anything, and give a different table each time it is asked.
`unloadStack_asks` says that whatever it answers, the requests are a `Session`.
-/

namespace HybridGraphics.KernelModule

open Act (Asks)

variable {σ : Type}

/-- The table could be read and lists the module. -/
def Shows (answer : Except Fault String) (name : String) : Prop :=
  ∃ listing, answer = .ok listing ∧ listed listing name = true

/-- The requests of one pass over a stack of modules. -/
inductive Pass : List String → List Request → Prop
  | done : Pass [] []
  | absent {name rest requests} (answer) (hidden : ¬ Shows answer name)
      (more : Pass rest requests) : Pass (name :: rest) (.listing answer :: requests)
  | asked {name rest requests} (answer) (shown : Shows answer name) (outcome)
      (more : Pass rest requests) :
      Pass (name :: rest) (.listing answer :: .unload name outcome :: requests)

/-- The requests of a look for the first module of a stack that is listed, and what it finds. -/
inductive Left : List String → List Request → Option String → Prop
  | none : Left [] [] none
  | absent {name rest requests found} (answer) (hidden : ¬ Shows answer name)
      (more : Left rest requests found) : Left (name :: rest) (.listing answer :: requests) found
  | first {name rest} (answer) (shown : Shows answer name) :
      Left (name :: rest) [.listing answer] (some name)

/-- The requests of a pass over a stack and of the look at its end, and what that finds. -/
def Round (stack : List String) (requests : List Request) (found : Option String) : Prop :=
  ∃ pass look, requests = pass ++ look ∧ Pass stack pass ∧ Left stack look found

/-- The requests of unloading a stack of modules, and what comes of it. -/
inductive Session (config : Config) (stack : List String) :
    Except Error Unit → List Request → Prop
  /-- The first round was enough. -/
  | cleared {first} (round : Round stack first none) : Session config stack (.ok ()) first
  /-- A module was left, and the display session could not be ended. -/
  | refused {first pinned} (round : Round stack first (some pinned)) (cause) :
      Session config stack (.error (.terminate cause))
        (first ++ [.terminate config.displayServers config.sessionUser (.error cause)])
  /-- A module was left, and there was no display session to end. -/
  | alone {first pinned} (round : Round stack first (some pinned)) :
      Session config stack (.error (.noSession pinned))
        (first ++ [.terminate config.displayServers config.sessionUser (.ok false)])
  /-- A module was left, the session was ended, and the second round was enough. -/
  | freed {first pinned second} (round : Round stack first (some pinned))
      (again : Round stack second none) :
      Session config stack (.ok ())
        (first ++ .terminate config.displayServers config.sessionUser (.ok true) :: second)
  /-- A module was left, the session was ended, and a module is left still. -/
  | stuck {first pinned second kept} (round : Round stack first (some pinned))
      (again : Round stack second (some kept)) :
      Session config stack (.error (.stillLoaded kept))
        (first ++ .terminate config.displayServers config.sessionUser (.ok true) :: second)

/-! ## The protocol follows it -/

/-- Whether a module is loaded takes one reading of the table, and is what that shows. -/
theorem isLoaded_asks (actions : Actions σ) (name : String) :
    Asks (fun loaded new => ∃ answer, new = [.listing answer] ∧ (loaded = true ↔ Shows answer name))
      (isLoaded actions.recorded name) := by
  refine (Asks.noting Request.listing actions.moduleListing).bind fun answer new hnew => ?_
  subst hnew
  cases answer with
  | ok listing =>
    refine .pure ⟨.ok listing, rfl, fun h => ⟨listing, rfl, h⟩, ?_⟩
    rintro ⟨found, he, h⟩
    cases he
    exact h
  | error cause =>
    refine .note_bind (.pure ⟨.error cause, rfl, (fun h => by cases h), ?_⟩)
    rintro ⟨found, he, -⟩
    cases he

/-- Unloading what is listed of a stack makes one pass over it. -/
theorem unloadListed_asks (actions : Actions σ) :
    ∀ stack : List String, Asks (fun _ new => Pass stack new) (unloadListed actions.recorded stack)
  | [] => .pure .done
  | name :: rest => by
    have ih := unloadListed_asks actions rest
    refine (isLoaded_asks actions name).bind fun loaded new hnew => ?_
    obtain ⟨answer, rfl, hshown⟩ := hnew
    cases loaded with
    | false =>
      have hidden : ¬ Shows answer name := fun h => Bool.false_ne_true (hshown.mpr h)
      exact ih.mono fun _ _ more => .absent answer hidden more
    | true =>
      have shown := hshown.mp rfl
      refine (Asks.noting (Request.unload name) (actions.unloadModule name)).bind
        fun outcome _ ho => ?_
      subst ho
      cases outcome with
      | ok _ => exact ih.mono fun _ _ more => .asked answer shown _ more
      | error cause => exact .note_bind (ih.mono fun _ _ more => .asked answer shown _ more)

theorem firstListed_asks (actions : Actions σ) :
    ∀ stack : List String,
      Asks (fun found new => Left stack new found) (firstListed actions.recorded stack)
  | [] => .pure .none
  | name :: rest => by
    have ih := firstListed_asks actions rest
    refine (isLoaded_asks actions name).bind fun loaded new hnew => ?_
    obtain ⟨answer, rfl, hshown⟩ := hnew
    cases loaded with
    | false =>
      have hidden : ¬ Shows answer name := fun h => Bool.false_ne_true (hshown.mpr h)
      exact ih.mono fun _ _ more => .absent answer hidden more
    | true => exact .pure (.first answer (hshown.mp rfl))

/-- Unloading a stack in order is a pass and a look, and so a round. -/
theorem unloadInOrder_asks (actions : Actions σ) (stack : List String) :
    Asks (fun found new => Round stack new found) (unloadInOrder actions.recorded stack) :=
  (unloadListed_asks actions stack).bind fun _ pass passed =>
    (firstListed_asks actions stack).mono fun _ look left => ⟨pass, look, rfl, passed, left⟩

/-- Whatever the system answers, unloading a stack asks for one session of the protocol. -/
theorem unloadStack_asks (config : Config) (actions : Actions σ) (stack : List String) :
    Asks (Session config stack) (unloadStack config actions.recorded stack) := by
  refine (unloadInOrder_asks actions stack).bind fun found first round => ?_
  cases found with
  | none =>
    refine .pure ?_
    rw [List.append_nil]
    exact .cleared round
  | some pinned =>
    refine .note_bind ((Asks.noting (Request.terminate config.displayServers config.sessionUser)
      (actions.terminateSession config.displayServers config.sessionUser)).bind
        fun answer _ hanswer => ?_)
    subst hanswer
    match answer with
    | .error cause => exact .pure (.refused round cause)
    | .ok false => exact .pure (.alone round)
    | .ok true =>
      refine (unloadInOrder_asks actions stack).bind fun found' second again => ?_
      cases found' with
      | none =>
        refine .pure ?_
        rw [List.append_nil]
        exact .freed round again
      | some kept =>
        refine .pure ?_
        rw [List.append_nil]
        exact .stuck round again

/-! ## What a session of the protocol can ask -/

variable {config : Config} {stack : List String} {requests : List Request}

/-- A pass only reads the table and unloads modules of the stack. -/
theorem Pass.mem (h : Pass stack requests) {q : Request} (hq : q ∈ requests) :
    (∃ answer, q = .listing answer) ∨ ∃ name ∈ stack, ∃ outcome, q = .unload name outcome := by
  induction h with
  | done => cases hq
  | absent answer hidden more ih =>
    rcases List.mem_cons.mp hq with rfl | hq
    · exact .inl ⟨_, rfl⟩
    · exact (ih hq).imp_right fun ⟨name, hn, h⟩ => ⟨name, List.mem_cons_of_mem _ hn, h⟩
  | asked answer shown outcome more ih =>
    rcases List.mem_cons.mp hq with rfl | hq
    · exact .inl ⟨_, rfl⟩
    rcases List.mem_cons.mp hq with rfl | hq
    · exact .inr ⟨_, List.mem_cons_self, _, rfl⟩
    · exact (ih hq).imp_right fun ⟨name, hn, h⟩ => ⟨name, List.mem_cons_of_mem _ hn, h⟩

theorem Left.mem {found : Option String} (h : Left stack requests found) {q : Request}
    (hq : q ∈ requests) : ∃ answer, q = .listing answer := by
  induction h with
  | none => cases hq
  | absent answer hidden more ih =>
    rcases List.mem_cons.mp hq with rfl | hq
    · exact ⟨_, rfl⟩
    · exact ih hq
  | first answer shown =>
    rw [List.mem_singleton.mp hq]
    exact ⟨_, rfl⟩

/-- A pass and the look after it end no session. -/
theorem not_terminate_of_mem_pass {pass look : List Request} {found : Option String}
    (passed : Pass stack pass) (left : Left stack look found) :
    ∀ q ∈ pass ++ look, q.isTerminate = false := by
  intro q hq
  rcases List.mem_append.mp hq with hq | hq
  · rcases passed.mem hq with ⟨answer, rfl⟩ | ⟨name, -, outcome, rfl⟩ <;> rfl
  · obtain ⟨answer, rfl⟩ := left.mem hq
    rfl

/-- A pass and the look after it ask to unload modules of the stack only. -/
theorem mem_stack_of_mem_pass {pass look : List Request} {found : Option String}
    (passed : Pass stack pass) (left : Left stack look found) {name : String}
    {outcome : Except Fault Unit} (hq : .unload name outcome ∈ pass ++ look) : name ∈ stack := by
  rcases List.mem_append.mp hq with hq | hq
  · rcases passed.mem hq with ⟨answer, he⟩ | ⟨name, hn, outcome, he⟩ <;> cases he
    exact hn
  · obtain ⟨answer, he⟩ := left.mem hq
    cases he

/-- No round ends the display session. -/
theorem Round.not_terminate {found : Option String} (h : Round stack requests found) :
    ∀ q ∈ requests, q.isTerminate = false := by
  obtain ⟨pass, look, rfl, passed, left⟩ := h
  exact not_terminate_of_mem_pass passed left

theorem Round.mem_stack {found : Option String} (h : Round stack requests found) {name : String}
    {outcome : Except Fault Unit} (hq : .unload name outcome ∈ requests) : name ∈ stack := by
  obtain ⟨pass, look, rfl, passed, left⟩ := h
  exact mem_stack_of_mem_pass passed left hq

/-- A session of the protocol asks to unload modules of the stack only. -/
theorem Session.mem_stack {outcome : Except Error Unit} (h : Session config stack outcome requests)
    {name : String} {answer : Except Fault Unit} (hq : .unload name answer ∈ requests) :
    name ∈ stack := by
  have hended : ∀ {first pinned ended last}, Round stack first (some pinned) →
      .unload name answer ∈ first ++ .terminate config.displayServers config.sessionUser ended :: last →
        (.unload name answer ∈ last → name ∈ stack) → name ∈ stack := by
    intro first pinned ended last round hq hlast
    rcases List.mem_append.mp hq with hq | hq
    · exact round.mem_stack hq
    · rcases List.mem_cons.mp hq with hq | hq
      · cases hq
      · exact hlast hq
  cases h with
  | cleared round => exact round.mem_stack hq
  | refused round cause => exact hended round hq fun h => absurd h List.not_mem_nil
  | alone round => exact hended round hq fun h => absurd h List.not_mem_nil
  | freed round again => exact hended round hq again.mem_stack
  | stuck round again => exact hended round hq again.mem_stack

/-- A session of the protocol ends no display session, or one, after a round that left a module
of the stack. -/
theorem Session.terminate_cases {outcome : Except Error Unit}
    (h : Session config stack outcome requests) :
    (∀ q ∈ requests, q.isTerminate = false) ∨
      ∃ pass look pinned answer rest,
        requests = pass ++ look
          ++ .terminate config.displayServers config.sessionUser answer :: rest ∧
        Pass stack pass ∧ Left stack look (some pinned) ∧ ∀ q ∈ rest, q.isTerminate = false := by
  cases h with
  | cleared round => exact .inl round.not_terminate
  | refused round cause =>
    obtain ⟨pass, look, rfl, passed, left⟩ := round
    exact .inr ⟨pass, look, _, _, [], rfl, passed, left, fun q hq => absurd hq List.not_mem_nil⟩
  | alone round =>
    obtain ⟨pass, look, rfl, passed, left⟩ := round
    exact .inr ⟨pass, look, _, _, [], rfl, passed, left, fun q hq => absurd hq List.not_mem_nil⟩
  | freed round again =>
    obtain ⟨pass, look, rfl, passed, left⟩ := round
    exact .inr ⟨pass, look, _, _, _, rfl, passed, left, again.not_terminate⟩
  | stuck round again =>
    obtain ⟨pass, look, rfl, passed, left⟩ := round
    exact .inr ⟨pass, look, _, _, _, rfl, passed, left, again.not_terminate⟩

end HybridGraphics.KernelModule
