import HybridGraphics.Proofs.Run.Writes
import HybridGraphics.Proofs.Text.Utf8

/-!
# The fragments after a run

The two fragments decide what the X server does at its next start. `Effect.rewrite` says
what an effect makes of a fragment if it is done, and `attempt_fragments` that an attempt
comes to that or leaves the fragment. So a decision, carried out, either made of both
fragments what all its effects make of them, or fell back and left neither
(`carryOutFrom_fragments`).

That holds for any actions that leave the files alone, whatever they answer, and for every
way in which writing, removing or loading can fail.
-/

namespace HybridGraphics

open Act (Keeps TouchesOnly)
open Pci (Device Vendor)

variable {σ : Type}

namespace Fragment

/-! ## What a fragment holds -/

/-- The bytes of a fragment, if there is one that can be read. -/
def bytes? (config : Config) (t : FileTree) (f : Fragment) : Option Bytes :=
  (t.read (f.file config)).toOption

theorem endsInName_file (config : Config) (f : Fragment) :
    Path.EndsInName (f.file config).route := by
  cases f <;> exact Path.endsInName_child _ (by decide)

variable {config : Config} {t t' : FileTree} {f : Fragment}

/-- A fragment can be read if the machine takes its path and there is a file in its place. -/
theorem bytes?_eq_some_iff (free : t.LinkFree) (down : (f.file config).Descends)
    {content : Bytes} :
    f.bytes? config t = some content ↔
      (f.file config).Walkable ∧ t.bytes? (f.file config).place = some content := by
  have hread : t.read (f.file config) = .ok content ↔ _ := FileTree.read_eq_ok_iff free down
  unfold bytes?
  constructor
  · intro h
    cases hr : t.read (f.file config) with
    | error cause => rw [hr] at h; cases h
    | ok found =>
      rw [hr] at h
      cases h
      have h := hread.mp hr
      exact ⟨h.1, h.2.2⟩
  · rintro ⟨hw, hb⟩
    rw [hread.mpr ⟨hw, endsInName_file config f, hb⟩]
    rfl

/-- A fragment whose file is as it was holds what it held. -/
theorem bytes?_congr (free : t.LinkFree) (free' : t'.LinkFree) (down : (f.file config).Descends)
    (h : t'.bytes? (f.file config).place = t.bytes? (f.file config).place) :
    f.bytes? config t' = f.bytes? config t := by
  ext content
  rw [bytes?_eq_some_iff free' down, bytes?_eq_some_iff free down, h]

/-! ## Writing and removing one -/

/-- A fragment that was written holds what was written, and one that could not be holds what
it held. -/
theorem bytes?_write (text : List Char) {w : World σ} (free : w.tree.LinkFree)
    (down : (f.file config).Descends) :
    ((write config f text w).1 = .ok () →
        f.bytes? config (write config f text w).2.tree = some (Text.encode text)) ∧
      (∀ cause, (write config f text w).1 = .error cause →
        f.bytes? config (write config f text w).2.tree = f.bytes? config w.tree) := by
  simp only [write, Act.bind_apply]
  have htree : (Act.info s!"Writing {(f.file config).text}" w).2.tree = w.tree := rfl
  generalize (Act.info s!"Writing {(f.file config).text}" w).2 = w1 at htree ⊢
  rw [← htree] at free
  have hfree := (((Act.edits_touchesOnly down).write text w1).2 free).linkFree
  cases hr : (Act.writeText (f.file config) text w1).1 with
  | ok _ =>
    obtain ⟨hw, -, hb⟩ := Act.bytes?_of_writeText down free hr
    refine ⟨fun _ => (bytes?_eq_some_iff hfree down).mpr ⟨hw, hb⟩, fun _ h => ?_⟩
    cases h
  | error cause =>
    refine ⟨(fun h => by cases h), fun _ _ => ?_⟩
    rw [← htree]
    exact bytes?_congr free hfree down (Act.bytes?_of_writeText_error down free hr)

/-- After a fragment was removed there is none, nor is there after it could not be removed. -/
theorem bytes?_remove {w : World σ} (free : w.tree.LinkFree) (down : (f.file config).Descends) :
    f.bytes? config (remove config f w).2.tree = none := by
  have htree : (remove config f w).2.tree = (Act.removeFile (f.file config) w).2.tree := by
    simp only [remove, Act.bind_apply]
    match (Act.removeFile (f.file config) w).1 with
    | .ok true => rfl
    | .ok false => rfl
    | .error _ => rfl
  rw [htree, bytes?]
  cases hr : (Act.removeFile (f.file config) w).2.tree.read (f.file config) with
  | ok content => exact absurd hr (Act.read_removeFile_ne down free content)
  | error cause => rfl

end Fragment

/-! ## What effects make of the fragments -/

/-- What an effect, once done, makes of a fragment's bytes. -/
def Effect.rewrite (triplet : String) (f : Fragment) (content : Option Bytes) :
    Effect → Option Bytes
  | writeOutputClass device =>
    if f = .outputClass then some (Text.encode (Fragment.outputClassText triplet device))
    else content
  | writeServerLayout =>
    if f = .serverLayout then some (Text.encode Fragment.serverLayoutText) else content
  | removeFragment removed => if f = removed then none else content
  | _ => content

namespace Run

variable {config : Config} {actions : Actions σ}

/-- An attempt does what carrying the effect out does, and succeeds where that does. -/
theorem attempt_eq (triplet : String) (e : Effect) (w : World σ) :
    (attempt config actions triplet e w).2.tree = (apply config actions triplet e w).2.tree ∧
      ((attempt config actions triplet e w).1 = true ↔
        (apply config actions triplet e w).1 = .ok ()) := by
  simp only [attempt, Act.bind_apply]
  cases (apply config actions triplet e w).1 with
  | ok _ => exact ⟨rfl, by simp⟩
  | error cause => exact ⟨rfl, by simp [Act.error]⟩

theorem attempt_system_eq {triplet : String} {e : Effect} (actions : Actions σ) (w : World σ) :
    (attempt config actions triplet e w).2.system = (apply config actions triplet e w).2.system := by
  simp only [attempt, Act.bind_apply]
  cases (apply config actions triplet e w).1 with
  | ok _ => rfl
  | error cause => rfl

/-- An effect about another file leaves a fragment as it was. -/
theorem bytes?_attempt_of_ne (hc : config.WritesApart) (ha : actions.KeepsFiles)
    (triplet : String) {e : Effect} {f : Fragment} (hf : e.file? ≠ some (.fragment f))
    {w : World σ} (free : w.tree.LinkFree) :
    f.bytes? config (attempt config actions triplet e w).2.tree = f.bytes? config w.tree := by
  have ht := (attempt_touches hc ha triplet e w).2 free
  have hb := attempt_bytes?_of_ne hc ha triplet free hf
  exact Fragment.bytes?_congr free ht.linkFree (hc.descends (.fragment f)) hb

/-- What attempting an effect makes of the fragments. An effect that enables the discrete card
leaves them alone if it was not done; no other depends on whether it was. -/
theorem attempt_fragments (hc : config.WritesApart) (ha : actions.KeepsFiles)
    (triplet : String) (e : Effect) (f : Fragment) {w : World σ} (free : w.tree.LinkFree) :
    f.bytes? config (attempt config actions triplet e w).2.tree =
      if (attempt config actions triplet e w).1 || !e.enablesDiscrete then
        e.rewrite triplet f (f.bytes? config w.tree)
      else f.bytes? config w.tree := by
  by_cases hf : e.file? = some (.fragment f)
  · obtain ⟨htree, hdone⟩ : (attempt config actions triplet e w).2.tree = _ ∧ _ :=
      attempt_eq triplet e w
    have down := hc.descends (.fragment f)
    -- writing a fragment is the same for both
    have hwrite : ∀ text, (∀ u, e.rewrite triplet f u = some (Text.encode text)) →
        e.enablesDiscrete = true →
        apply config actions triplet e w = ((Fragment.write config f text w).1.mapError .fragment,
          (Fragment.write config f text w).2) →
        f.bytes? config (attempt config actions triplet e w).2.tree =
          if (attempt config actions triplet e w).1 || !e.enablesDiscrete then
            e.rewrite triplet f (f.bytes? config w.tree)
          else f.bytes? config w.tree := by
      intro text hr he happ
      have hspec := Fragment.bytes?_write text free down
      rw [htree, happ, he, hr]
      rw [happ] at hdone
      cases ho : (Fragment.write config f text w).1 with
      | ok _ =>
        rw [ho] at hdone
        rw [hdone.mpr rfl, hspec.1 ho]
        rfl
      | error cause =>
        rw [ho] at hdone
        have hfailed : (attempt config actions triplet e w).1 = false :=
          Bool.eq_false_iff.mpr fun h => nomatch hdone.mp h
        rw [hfailed, hspec.2 cause ho]
        rfl
    cases e with
    | writeOutputClass device =>
      cases hf
      exact hwrite (Fragment.outputClassText triplet device) (fun _ => rfl) rfl rfl
    | writeServerLayout =>
      cases hf
      exact hwrite Fragment.serverLayoutText (fun _ => rfl) rfl rfl
    | removeFragment removed =>
      cases hf
      rw [htree]
      refine (Fragment.bytes?_remove free down).trans ?_
      simp [Effect.enablesDiscrete, Effect.rewrite]
    | _ => cases hf
  · have hr : ∀ content, e.rewrite triplet f content = content := by
      intro content
      cases e with
      | writeOutputClass device => exact if_neg fun h : f = .outputClass => hf (h ▸ rfl)
      | writeServerLayout => exact if_neg fun h : f = .serverLayout => hf (h ▸ rfl)
      | removeFragment removed => exact if_neg fun h : f = removed => hf (h ▸ rfl)
      | _ => rfl
    rw [bytes?_attempt_of_ne hc ha triplet hf free, hr, ite_self]

/-! ## What a decision makes of them -/

/-- What a list of effects, all done, makes of a fragment's bytes. -/
def rewriteAll (triplet : String) (f : Fragment) (effects : List Effect)
    (content : Option Bytes) : Option Bytes :=
  effects.foldl (fun content e => e.rewrite triplet f content) content

/-- No effect makes a link. -/
theorem attempt_linkFree (hc : config.WritesApart) (ha : actions.KeepsFiles)
    (triplet : String) (e : Effect) {w : World σ} (free : w.tree.LinkFree) :
    (attempt config actions triplet e w).2.tree.LinkFree :=
  ((attempt_touches hc ha triplet e w).2 free).linkFree

/-- Falling back leaves neither fragment. -/
theorem fallBack_fragments (hc : config.WritesApart) (f : Fragment) {w : World σ}
    (free : w.tree.LinkFree) :
    (fallBack config w).2.tree.LinkFree ∧ f.bytes? config (fallBack config w).2.tree = none := by
  have hdiscard : ∀ (f : Fragment) (w : World σ),
      (discard config f w).2.tree = (Fragment.remove config f w).2.tree := by
    intro f w
    simp only [discard, Act.bind_apply]
    cases (Fragment.remove config f w).1 with
    | ok _ => rfl
    | error cause => rfl
  have htouch : ∀ (f : Fragment) {w : World σ}, w.tree.LinkFree →
      w.tree.Touches [(f.file config).place] (Fragment.remove config f w).2.tree := fun f w free =>
    (removeFragment_keeps (TouchesOnly.frame _) (edits_pathOf hc (.fragment f)) w).2 free
  have hremove : ∀ (f : Fragment) {w : World σ}, w.tree.LinkFree →
      f.bytes? config (Fragment.remove config f w).2.tree = none := fun f w free =>
    Fragment.bytes?_remove free (hc.descends (.fragment f))
  simp only [fallBack, Act.bind_apply, hdiscard]
  have htree : ∀ w1 : World σ, w1.tree = w.tree →
      (discard config .outputClass w1).2.tree.LinkFree := by
    intro w1 h
    rw [hdiscard]
    exact (htouch .outputClass (h ▸ free)).linkFree
  have free2 := htree (Act.warn "unable to enable the discrete GPU; falling back to integrated only"
    w).2 rfl
  have h2 := htouch .serverLayout free2
  refine ⟨h2.linkFree, ?_⟩
  cases f with
  | serverLayout => exact hremove .serverLayout free2
  | outputClass =>
    have happart := (hc.apart (.fragment .outputClass) (.fragment .serverLayout) (by decide)).ne
    rw [Fragment.bytes?_congr free2 h2.linkFree (hc.descends (.fragment .outputClass))
      (h2.bytes?_eq _ fun h => happart (List.mem_singleton.mp h)), hdiscard]
    exact hremove .outputClass (w := (Act.warn _ w).2) free

/-- After the fall back nothing brings a fragment back. -/
theorem carryOutFrom_fallen (hc : config.WritesApart) (ha : actions.KeepsFiles)
    (triplet : String) {decided : Mode} (hd : decided.isPrime = true) :
    ∀ (effects : List Effect) {w : World σ}, w.tree.LinkFree →
      (∀ f : Fragment, f.bytes? config w.tree = none) →
        (carryOutFrom (attempt config actions triplet) (fallBack config) decided
            .integratedOnly effects w).1 = .integratedOnly ∧
          ∀ f : Fragment, f.bytes? config (carryOutFrom (attempt config actions triplet)
            (fallBack config) decided .integratedOnly effects w).2.tree = none
  | [], w, _, hnone => ⟨rfl, hnone⟩
  | e :: rest, w, free, hnone => by
    have hne : (Mode.integratedOnly != decided) = true := by
      cases decided <;> first | rfl | cases hd
    rw [carryOutFrom, hne, Bool.true_and]
    cases he : e.enablesDiscrete with
    | true => exact carryOutFrom_fallen hc ha triplet hd rest free hnone
    | false =>
      have free' := attempt_linkFree hc ha triplet e free
      have hnone' : ∀ f : Fragment,
          f.bytes? config (attempt config actions triplet e w).2.tree = none := by
        intro f
        rw [attempt_fragments hc ha triplet e f free, he, hnone f]
        cases e <;> simp [Effect.rewrite, Effect.enablesDiscrete] at he ⊢
      have ih := carryOutFrom_fallen hc ha triplet hd rest free' hnone'
      simp only [Bool.false_eq_true, if_false, Act.bind_apply, Mode.isPrime, Bool.false_and]
      split
      · exact ih
      · exact ih

/-- A decision that was carried out made of the fragments what all its effects make of them,
or fell back and left neither. -/
theorem carryOutFrom_fragments (hc : config.WritesApart) (ha : actions.KeepsFiles)
    (triplet : String) (decided : Mode) :
    ∀ (effects : List Effect) {w : World σ}, w.tree.LinkFree →
      (decided.isPrime = true ∨ ∀ e ∈ effects, e.enablesDiscrete = false) →
        ((carryOutFrom (attempt config actions triplet) (fallBack config) decided decided
            effects w).1 = decided ∧
          ∀ f : Fragment, f.bytes? config (carryOutFrom (attempt config actions triplet)
            (fallBack config) decided decided effects w).2.tree =
              rewriteAll triplet f effects (f.bytes? config w.tree)) ∨
        (decided.isPrime = true ∧
          (carryOutFrom (attempt config actions triplet) (fallBack config) decided decided
            effects w).1 = .integratedOnly ∧
          ∀ f : Fragment, f.bytes? config (carryOutFrom (attempt config actions triplet)
            (fallBack config) decided decided effects w).2.tree = none)
  | [], w, _, _ => .inl ⟨rfl, fun _ => rfl⟩
  | e :: rest, w, free, hd => by
    have hd' := hd.imp_right fun h e he => h e (List.mem_cons_of_mem _ he)
    have free' := attempt_linkFree hc ha triplet e free
    have ih := carryOutFrom_fragments hc ha triplet decided rest free' hd'
    have hspec := fun f => attempt_fragments hc ha triplet e f free
    rw [carryOutFrom, bne_self_eq_false, Bool.false_and]
    simp only [Bool.false_eq_true, if_false, Act.bind_apply]
    cases hdone : (attempt config actions triplet e w).1 with
    | true =>
      simp only [hdone, Bool.true_or, if_true] at hspec
      simp only [hspec] at ih
      simp only [if_true]
      exact ih
    | false =>
      cases he : e.enablesDiscrete with
      | false =>
        simp only [he, Bool.not_false, Bool.or_true, if_true] at hspec
        simp only [hspec] at ih
        simp only [Bool.and_false, Bool.false_eq_true, if_false]
        exact ih
      | true =>
        have hprime : decided.isPrime = true := by
          refine hd.resolve_right fun h => ?_
          rw [h e List.mem_cons_self] at he
          cases he
        have hfall := fun f => fallBack_fragments hc f free'
        have hfallen := carryOutFrom_fallen hc ha triplet hprime rest (hfall .outputClass).1
          fun f => (hfall f).2
        simp only [hprime, Bool.and_self, if_true, Bool.false_eq_true, if_false, Act.bind_apply]
        exact .inr ⟨trivial, hfallen⟩

end Run

end HybridGraphics
