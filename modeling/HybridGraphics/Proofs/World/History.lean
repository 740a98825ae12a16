import HybridGraphics.Proofs.World.Frame

/-!
# What a step asks of the system

`Actions.recorded` notes every request that is made of a system, with its answer. What a
step asks is then a list of requests that is added to the history, and `Act.Asks P x` says
that whatever the world, this list and the step's result satisfy `P`. A step's requests
are those of the steps it is made of, one list after the other (`Asks.bind`).

Where the result does not matter, requests are bounded by a frame: `Act.AsksOnly` says
that each request added satisfies a condition.
-/

namespace HybridGraphics

variable {σ α β : Type}

namespace Request

/-- True for the requests that someone at the screen may lose work to. -/
def isDisruptive : Request → Bool
  | unload _ _ | terminate _ _ _ => true
  | _ => false

def isTerminate : Request → Bool
  | terminate _ _ _ => true
  | _ => false

/-- True for the requests that change which modules are loaded, or who is at the screen. -/
def isDriving : Request → Bool
  | load _ _ _ | unload _ _ | terminate _ _ _ => true
  | _ => false

theorem not_disruptive_of_question {q : Request} (h : q.isQuestion = true) :
    q.isDisruptive = false := by
  cases q <;> first | rfl | cases h

/-- Ending the session is disruptive. -/
theorem not_terminate_of_not_disruptive {q : Request} (h : q.isDisruptive = false) :
    q.isTerminate = false := by
  cases q <;> first | rfl | cases h

theorem countP_terminate_of_none {l : List Request} (h : ∀ q ∈ l, q.isTerminate = false) :
    l.countP isTerminate = 0 :=
  List.countP_eq_zero.mpr fun q hq => by
    rw [h q hq]
    exact Bool.false_ne_true

/-- Where only one request ends the display session, a list of requests is cut there in one
way. -/
theorem split_at_terminate {before before' after after' : List Request} {q q' : Request}
    (h : before ++ q :: after = before' ++ q' :: after') (hq : q.isTerminate = true)
    (hb' : ∀ r ∈ before', r.isTerminate = false) (ha' : ∀ r ∈ after', r.isTerminate = false) :
    before = before' ∧ q = q' ∧ after = after' := by
  have hbefore : before = before' := by
    rcases List.append_eq_append_iff.mp h with ⟨gap, rfl, hgap⟩ | ⟨gap, rfl, hgap⟩
    · cases gap with
      | nil => rw [List.append_nil]
      | cons r gap =>
        cases hgap
        have := hb' q (by simp)
        rw [hq] at this
        cases this
    · cases gap with
      | nil => rw [List.append_nil]
      | cons r gap =>
        cases hgap
        have := ha' q (by simp)
        rw [hq] at this
        cases this
  subst hbefore
  have hcons := List.cons.inj (List.append_cancel_left h)
  exact ⟨rfl, hcons.1, hcons.2⟩

end Request

namespace Act

/-- Whatever the world, what the step asks and what it yields satisfy the condition. -/
def Asks (P : α → List Request → Prop) (x : Act (Recorded σ) α) : Prop :=
  ∀ w, ∃ new, (x w).2.system.requests = w.system.requests ++ new ∧ P (x w).1 new

namespace Asks

variable {P : α → List Request → Prop} {Q : β → List Request → Prop}

theorem mono {P' : α → List Request → Prop} {x : Act (Recorded σ) α} (hx : Asks P x)
    (h : ∀ a new, P a new → P' a new) : Asks P' x := by
  intro w
  obtain ⟨new, hw, hp⟩ := hx w
  exact ⟨new, hw, h _ _ hp⟩

theorem pure {a : α} (h : P a []) : Asks P (Pure.pure a : Act (Recorded σ) α) :=
  fun _ => ⟨[], (List.append_nil _).symm, h⟩

/-- What chained steps ask is what the first asks and then what the second does. -/
theorem bind {x : Act (Recorded σ) α} {f : α → Act (Recorded σ) β} (hx : Asks P x)
    (hf : ∀ a new, P a new → Asks (fun b more => Q b (new ++ more)) (f a)) :
    Asks Q (x >>= f) := by
  intro w
  obtain ⟨new, hw, hp⟩ := hx w
  obtain ⟨more, hw', hq⟩ := hf _ new hp (x w).2
  refine ⟨new ++ more, ?_, hq⟩
  rw [bind_apply, hw', hw, List.append_assoc]

/-- A line of the report asks nothing. -/
theorem note_bind {level : Level} {text : String} {f : Unit → Act (Recorded σ) β}
    (hf : Asks Q (f ())) : Asks Q (Act.note level text >>= f) := fun w => hf (Act.note level text w).2

/-- Each request is noted with the answer that it got. -/
theorem noting (request : α → Request) (serve : Act σ α) :
    Asks (fun answer new => new = [request answer]) (Actions.noting request serve) :=
  fun _ => ⟨_, rfl, rfl⟩

end Asks

/-- Each request that the step adds satisfies the condition. -/
def AsksOnly (ok : Request → Bool) (w w' : World (Recorded σ)) : Prop :=
  ∃ new, w'.system.requests = w.system.requests ++ new ∧ ∀ q ∈ new, ok q = true

theorem AsksOnly.frame (ok : Request → Bool) :
    Frame (AsksOnly ok : World (Recorded σ) → World (Recorded σ) → Prop) where
  refl w := ⟨[], (List.append_nil _).symm, fun _ h => by cases h⟩
  trans := by
    rintro a b c ⟨new, hab, hn⟩ ⟨more, hbc, hm⟩
    refine ⟨new ++ more, by rw [hbc, hab, List.append_assoc], fun q hq => ?_⟩
    rcases List.mem_append.mp hq with h | h
    · exact hn q h
    · exact hm q h
  report w _ := ⟨[], (List.append_nil _).symm, fun _ h => by cases h⟩

/-- In terms of what is asked, every request satisfies the condition. -/
theorem Keeps.asks {ok : Request → Bool} {x : Act (Recorded σ) α} (h : Keeps (AsksOnly ok) x) :
    Asks (fun _ new => ∀ q ∈ new, ok q = true) x := h

/-- A step that leaves the system alone asks nothing. -/
theorem asksOnly_of_system_eq {ok : Request → Bool} {w w' : World (Recorded σ)}
    (h : w'.system = w.system) : AsksOnly ok w w' :=
  ⟨[], by rw [h, List.append_nil], fun _ h => by cases h⟩

/-- An action whose requests satisfy the condition adds no others. -/
theorem noting_asksOnly {ok : Request → Bool} {request : α → Request} (serve : Act σ α)
    (h : ∀ answer, ok (request answer) = true) :
    Keeps (AsksOnly ok) (Actions.noting request serve) :=
  fun _ => ⟨_, rfl, fun q hq => by rw [List.mem_singleton.mp hq]; exact h _⟩

/-- Files are written and removed without the system's help. -/
theorem edits_asksOnly (ok : Request → Bool) (p : Path) :
    Edits (AsksOnly ok : World (Recorded σ) → World (Recorded σ) → Prop) p where
  write _ _ := asksOnly_of_system_eq rfl
  remove w := by
    unfold removeFile changeWith
    split <;> exact asksOnly_of_system_eq rfl

/-- Programs are called without the system's help. -/
theorem call_system_eq (name : String) (arguments : List String) (w : World σ) :
    (call name arguments w).2.system = w.system := by
  have hperform : ∀ program : Program, (perform name arguments program w).2.system = w.system := by
    intro program
    unfold perform
    rfl
  unfold call
  split
  · rfl
  · simp only [bind_apply, get_apply]
    cases w.programs.lookup name with
    | some program => exact hperform program
    | none => rfl

end Act

end HybridGraphics
