import HybridGraphics.Proofs.KernelModule.Protocol

/-!
# What the unload protocol promises

`Truthful` says of a history of requests, and of what came of it, what may be relied on
whatever the system answers: the display session is ended once at most, and not before a
look at the table found a module in the way; a module is asked to go only if the table just
read lists it, in the order of the stack; nothing follows if no session could be ended; and
the outcome is what the last look at the table, or the answer to ending the session, says.

A history is cut where the session is ended (`beforeEnd`, `afterEnd`). Each part is a round
of the protocol, and what a round found is determined by its requests (`Round.unique`): the
table's answer decides whether a request to unload follows, so the end of the pass, where the
look begins, can be told from the requests alone.
-/

namespace HybridGraphics.KernelModule

open Act (Asks)

variable {σ : Type} {config : Config} {stack : List String} {requests : List Request}

/-! ## A history of requests -/

/-- What was asked before the display session was ended; everything, if it never was. -/
def beforeEnd (requests : List Request) : List Request := requests.takeWhile (!·.isTerminate)

/-- What was asked after the display session was ended; nothing, if it never was. -/
def afterEnd (requests : List Request) : List Request :=
  (requests.dropWhile (!·.isTerminate)).tail

/-- What ending the display session answered. -/
def ended? (requests : List Request) : Option (Except Fault Bool) :=
  requests.findSome? fun
    | .terminate _ _ answer => some answer
    | _ => none

/-- The requests of the last round: the first one's, unless the session was ended. -/
def lastRound (requests : List Request) : List Request :=
  match ended? requests with
  | some (.ok true) => afterEnd requests
  | _ => beforeEnd requests

/-- The modules that were asked to be unloaded, in order. -/
def unloads (requests : List Request) : List String :=
  requests.filterMap fun
    | .unload name _ => some name
    | _ => none

/-- Right before a module is asked to be unloaded, the table is read, and lists it. -/
def Announced (requests : List Request) : Prop :=
  ∀ before name outcome after, requests = before ++ .unload name outcome :: after →
    ∃ earlier table, before = earlier ++ [.listing table] ∧ Shows table name

/-- What may be asked to unload a stack of modules, and when. -/
structure Measured (config : Config) (stack : List String) (requests : List Request) : Prop where
  ends_once : requests.countP Request.isTerminate ≤ 1
  ends_configured : ∀ servers user answer, .terminate servers user answer ∈ requests →
    servers = config.displayServers ∧ user = config.sessionUser
  /-- The session is ended only after a first round that left a module of the stack listed. -/
  ends_pinned : ∀ servers user answer, .terminate servers user answer ∈ requests →
    ∃ pinned, Round stack (beforeEnd requests) (some pinned)
  announced : Announced requests
  before_in_order : (unloads (beforeEnd requests)).Sublist stack
  after_in_order : (unloads (afterEnd requests)).Sublist stack
  /-- Where no session could be ended, nothing more is asked. -/
  gives_up : ∀ answer, ended? requests = some answer → answer ≠ .ok true → afterEnd requests = []
  looked : ∃ found, Round stack (lastRound requests) found

/-- The requests are as promised, and the outcome is what their answers say. -/
structure Truthful (config : Config) (stack : List String) (outcome : Except Error Unit)
    (requests : List Request) : Prop extends Measured config stack requests where
  ok_iff : outcome = .ok () ↔ Round stack (lastRound requests) none
  terminate_iff : ∀ cause, outcome = .error (.terminate cause) ↔
    ended? requests = some (.error cause)
  noSession_iff : ∀ name, outcome = .error (.noSession name) ↔
    ended? requests = some (.ok false) ∧ Round stack (beforeEnd requests) (some name)
  stillLoaded_iff : ∀ name, outcome = .error (.stillLoaded name) ↔
    Round stack (afterEnd requests) (some name)

/-! ## Cutting a history -/

section Cut

variable {first : List Request}

theorem not_isTerminate (h : ∀ q ∈ requests, q.isTerminate = false) :
    ∀ q ∈ requests, (!q.isTerminate) = true := fun q hq => by
  rw [h q hq]
  rfl

theorem beforeEnd_of_none (h : ∀ q ∈ requests, q.isTerminate = false) :
    beforeEnd requests = requests := by
  have hall : (requests ++ []).takeWhile (!Request.isTerminate ·) = _ :=
    List.takeWhile_append_of_pos (not_isTerminate h)
  rwa [List.takeWhile_nil, List.append_nil] at hall

theorem afterEnd_of_none (h : ∀ q ∈ requests, q.isTerminate = false) : afterEnd requests = [] := by
  have hnone : (requests ++ []).dropWhile (!Request.isTerminate ·) = _ :=
    List.dropWhile_append_of_pos (not_isTerminate h)
  rw [List.dropWhile_nil, List.append_nil] at hnone
  rw [afterEnd, hnone, List.tail_nil]

theorem ended?_of_none (h : ∀ q ∈ requests, q.isTerminate = false) : ended? requests = none := by
  refine List.findSome?_eq_none_iff.mpr fun q hq => ?_
  have hq := h q hq
  cases q with
  | terminate _ _ _ => cases hq
  | _ => rfl

theorem beforeEnd_append (h : ∀ q ∈ first, q.isTerminate = false) (servers : List String)
    (user : String) (answer : Except Fault Bool) (second : List Request) :
    beforeEnd (first ++ .terminate servers user answer :: second) = first := by
  rw [beforeEnd, List.takeWhile_append_of_pos (not_isTerminate h)]
  simp [Request.isTerminate]

theorem afterEnd_append (h : ∀ q ∈ first, q.isTerminate = false) (servers : List String)
    (user : String) (answer : Except Fault Bool) (second : List Request) :
    afterEnd (first ++ .terminate servers user answer :: second) = second := by
  rw [afterEnd, List.dropWhile_append_of_pos (not_isTerminate h)]
  rfl

/-- The answer that counts is that of the first request to end the session. -/
theorem ended?_append (h : ∀ q ∈ first, q.isTerminate = false) (servers : List String)
    (user : String) (answer : Except Fault Bool) (second : List Request) :
    ended? (first ++ .terminate servers user answer :: second) = some answer := by
  have hnone := ended?_of_none h
  unfold ended? at hnone ⊢
  rw [List.findSome?_append, hnone]
  rfl

end Cut

/-! ## What a round asks -/

/-- A pass unloads modules of the stack in its order. -/
theorem Pass.unloads_sublist (h : Pass stack requests) : (unloads requests).Sublist stack := by
  induction h with
  | done => exact .slnil
  | absent answer hidden more ih => exact ih.cons _
  | asked answer shown outcome more ih => exact ih.cons_cons _

theorem Left.unloads_eq {found : Option String} (h : Left stack requests found) :
    unloads requests = [] := by
  induction h with
  | none => rfl
  | absent answer hidden more ih => exact ih
  | first answer shown => rfl

theorem Round.unloads_sublist {found : Option String} (h : Round stack requests found) :
    (unloads requests).Sublist stack := by
  obtain ⟨pass, look, rfl, passed, left⟩ := h
  have happend : unloads (pass ++ look) = unloads pass ++ unloads look := List.filterMap_append
  rw [happend, left.unloads_eq, List.append_nil]
  exact passed.unloads_sublist

/-- Where nothing is unloaded, nothing has to be announced. -/
theorem announced_of_no_unload (h : ∀ name outcome, .unload name outcome ∉ requests) :
    Announced requests := by
  intro before name outcome after he
  exact absurd (by rw [he]; simp) (h name outcome)

/-- Histories in which every unloading was announced can be put together. -/
theorem Announced.append {first second : List Request} (h : Announced first)
    (h' : Announced second) : Announced (first ++ second) := by
  intro before name outcome after he
  rcases List.append_eq_append_iff.mp he with ⟨gap, rfl, hgap⟩ | ⟨gap, rfl, hgap⟩
  · obtain ⟨earlier, table, rfl, shown⟩ := h' gap name outcome after hgap
    exact ⟨first ++ earlier, table, (List.append_assoc _ _ _).symm, shown⟩
  · cases gap with
    | nil =>
      obtain ⟨earlier, table, hempty, -⟩ := h' [] name outcome after hgap.symm
      exact absurd (congrArg List.length hempty) (by simp)
    | cons q gap =>
      cases hgap
      exact h before name outcome gap rfl

/-- A pass looks at the table before each module that it unloads. -/
theorem Pass.announced (h : Pass stack requests) : Announced requests := by
  induction h with
  | done => exact announced_of_no_unload fun _ _ => List.not_mem_nil
  | absent answer hidden more ih =>
    have hread : Announced [.listing answer] := announced_of_no_unload fun _ _ hm => by
      cases List.mem_singleton.mp hm
    exact hread.append ih
  | @asked name rest requests answer shown outcome more ih =>
    have hasked : Announced [.listing answer, .unload name outcome] := by
      intro before other result after he
      match before with
      | [] => cases he
      | [q] =>
        cases he
        exact ⟨[], answer, rfl, shown⟩
      | q :: q' :: before => exact absurd (congrArg List.length he) (by simp)
    exact hasked.append ih

/-- So does a round, since the look at its end unloads nothing. -/
theorem Round.announced {found : Option String} (h : Round stack requests found) :
    Announced requests := by
  obtain ⟨pass, look, rfl, passed, left⟩ := h
  refine passed.announced.append (announced_of_no_unload fun name outcome hm => ?_)
  obtain ⟨answer, he⟩ := left.mem hm
  cases he

/-! ## What a round found -/

/-- Where a pass over a stack ends can be told from the requests. -/
theorem Pass.append_inj {pass pass' look look' : List Request} (h : Pass stack pass)
    (h' : Pass stack pass') (he : pass ++ look = pass' ++ look') : look = look' := by
  induction h generalizing pass' with
  | done =>
    cases h'
    exact he
  | absent answer hidden more ih =>
    cases h' with
    | absent _ _ more' => exact ih more' (List.cons.inj he).2
    | asked _ shown =>
      cases (List.cons.inj he).1
      exact absurd shown hidden
  | asked answer shown outcome more ih =>
    cases h' with
    | absent _ hidden =>
      cases (List.cons.inj he).1
      exact absurd shown hidden
    | asked _ _ _ more' => exact ih more' (List.cons.inj (List.cons.inj he).2).2

/-- What a look finds is told by what it was answered. -/
theorem Left.unique {found found' : Option String} (h : Left stack requests found)
    (h' : Left stack requests found') : found = found' := by
  induction h with
  | none =>
    cases h'
    rfl
  | absent answer hidden more ih =>
    cases h' with
    | absent _ _ more' => exact ih more'
    | first _ shown => exact absurd shown hidden
  | first answer shown =>
    cases h' with
    | absent _ hidden => exact absurd shown hidden
    | first => rfl

/-- The requests of a round determine what it found. -/
theorem Round.unique {found found' : Option String} (h : Round stack requests found)
    (h' : Round stack requests found') : found = found' := by
  obtain ⟨pass, look, rfl, passed, left⟩ := h
  obtain ⟨pass', look', he, passed', left'⟩ := h'
  have hlook := passed.append_inj passed' he
  subst hlook
  exact left.unique left'

theorem Round.iff {found found' : Option String} (h : Round stack requests found) :
    Round stack requests found' ↔ found = found' :=
  ⟨h.unique, fun he => he ▸ h⟩

/-- Without a look at the table, no module is found in it. -/
theorem not_round_nil {found : String} : ¬ Round stack [] (some found) := by
  rintro ⟨pass, look, he, -, left⟩
  rw [(List.append_eq_nil_iff.mp he.symm).2] at left
  cases left

/-! ## The protocol keeps its promises -/

/-- A round that left nothing, and nothing else. -/
theorem Round.measured (h : Round stack requests none) : Measured config stack requests := by
  have hnone := h.not_terminate
  have hnot : ∀ servers user answer, Request.terminate servers user answer ∉ requests :=
    fun servers user answer hm => by cases hnone _ hm
  have hbefore := beforeEnd_of_none hnone
  have hafter := afterEnd_of_none hnone
  have hended := ended?_of_none hnone
  exact {
    ends_once := by
      rw [Request.countP_terminate_of_none hnone]
      exact Nat.zero_le 1
    ends_configured := fun _ _ _ hm => absurd hm (hnot _ _ _)
    ends_pinned := fun _ _ _ hm => absurd hm (hnot _ _ _)
    announced := h.announced
    before_in_order := by
      rw [hbefore]
      exact h.unloads_sublist
    after_in_order := by
      rw [hafter]
      exact List.nil_sublist _
    gives_up := fun _ _ _ => hafter
    looked := ⟨none, by
      rw [lastRound, hended]
      exact hbefore.symm ▸ h⟩ }

/-- A round that left a module, the end of the display session, and a second round if there was
a session to end. -/
theorem measured_of_ended {first second : List Request} {pinned : String}
    {answer : Except Fault Bool} (h : Round stack first (some pinned))
    (after : second = [] ∧ answer ≠ .ok true ∨
      answer = .ok true ∧ ∃ found, Round stack second found) :
    Measured config stack
      (first ++ .terminate config.displayServers config.sessionUser answer :: second) := by
  have hnone := h.not_terminate
  have hbefore := beforeEnd_append hnone config.displayServers config.sessionUser answer second
  have hafter := afterEnd_append hnone config.displayServers config.sessionUser answer second
  have hended := ended?_append hnone config.displayServers config.sessionUser answer second
  have hsecond : (∀ q ∈ second, q.isTerminate = false) ∧ Announced second ∧
      (unloads second).Sublist stack := by
    rcases after with ⟨rfl, -⟩ | ⟨-, found, again⟩
    · exact ⟨fun _ hq => absurd hq List.not_mem_nil,
        announced_of_no_unload fun _ _ => List.not_mem_nil, List.nil_sublist _⟩
    · exact ⟨again.not_terminate, again.announced, again.unloads_sublist⟩
  obtain ⟨hnone', hannounced, hsub⟩ := hsecond
  exact {
    ends_once := by
      rw [List.countP_append, List.countP_cons, Request.countP_terminate_of_none hnone,
        Request.countP_terminate_of_none hnone']
      exact Nat.le_refl 1
    ends_configured := fun servers user answer hm => by
      rcases List.mem_append.mp hm with hm | hm
      · cases hnone _ hm
      rcases List.mem_cons.mp hm with hm | hm
      · cases hm
        exact ⟨rfl, rfl⟩
      · cases hnone' _ hm
    ends_pinned := fun _ _ _ _ => ⟨pinned, by rwa [hbefore]⟩
    announced := by
      have hend : Announced [.terminate config.displayServers config.sessionUser answer] :=
        announced_of_no_unload fun _ _ hm => by cases List.mem_singleton.mp hm
      exact h.announced.append (hend.append hannounced)
    before_in_order := by
      rw [hbefore]
      exact h.unloads_sublist
    after_in_order := by rwa [hafter]
    gives_up := fun answer' he hne => by
      rw [hended] at he
      cases he
      rw [hafter]
      exact after.elim (·.1) fun h => absurd h.1 hne
    looked := by
      rw [lastRound, hended, hbefore, hafter]
      rcases after with ⟨-, hne⟩ | ⟨rfl, again⟩
      · refine ⟨some pinned, ?_⟩
        split
        next he => exact absurd (Option.some.inj he) hne
        next => exact h
      · exact again }

/-- The outcome is read off the last thing that was asked. -/
theorem Session.truthful {outcome : Except Error Unit} (h : Session config stack outcome requests) :
    Truthful config stack outcome requests := by
  cases h with
  | cleared round =>
    have hnone := round.not_terminate
    refine ⟨round.measured, ?_, ?_, ?_, ?_⟩ <;>
      simp [lastRound, beforeEnd_of_none hnone, afterEnd_of_none hnone, ended?_of_none hnone, round,
        not_round_nil]
  | refused round cause =>
    have hnone := round.not_terminate
    refine ⟨measured_of_ended round (.inl ⟨rfl, by simp⟩), ?_, ?_, ?_, ?_⟩ <;>
      simp [lastRound, beforeEnd_append hnone, afterEnd_append hnone, ended?_append hnone,
        round.iff, not_round_nil]
  | alone round =>
    have hnone := round.not_terminate
    refine ⟨measured_of_ended round (.inl ⟨rfl, by simp⟩), ?_, ?_, ?_, ?_⟩ <;>
      simp [lastRound, beforeEnd_append hnone, afterEnd_append hnone, ended?_append hnone,
        round.iff, not_round_nil]
  | freed round again =>
    have hnone := round.not_terminate
    refine ⟨measured_of_ended round (.inr ⟨rfl, none, again⟩), ?_, ?_, ?_, ?_⟩ <;>
      simp [lastRound, beforeEnd_append hnone, afterEnd_append hnone, ended?_append hnone,
        again.iff]
  | stuck round again =>
    have hnone := round.not_terminate
    refine ⟨measured_of_ended round (.inr ⟨rfl, some _, again⟩), ?_, ?_, ?_, ?_⟩ <;>
      simp [lastRound, beforeEnd_append hnone, afterEnd_append hnone, ended?_append hnone,
        again.iff]

/-- Whatever the system answers to any request, and whatever becomes of its table in between,
unloading the NVIDIA stack or a single module keeps the promises. -/
theorem unload_protocol_truthful (config : Config) (actions : Actions σ) :
    Asks (Truthful config ["nvidia_drm", "nvidia_modeset", "nvidia_uvm", "nvidia"])
        (unloadNvidiaStack config actions.recorded) ∧
      ∀ name, Asks (Truthful config [name]) (unloadWithRetry config actions.recorded name) :=
  ⟨(unloadStack_asks config actions nvidiaStack).mono fun _ _ h => h.truthful,
    fun name => (unloadStack_asks config actions [name]).mono fun _ _ h => h.truthful⟩

end HybridGraphics.KernelModule
