import HybridGraphics.Proofs.FileTree.Creation
import HybridGraphics.Proofs.FileTree.Unmoved
import HybridGraphics.Proofs.Run.Fragments

/-!
# What an effect leaves in its file

Each effect that changes a file changes one, and what the file holds afterwards does not
depend on what it held before: `Effect.leaves?`. An effect that was done leaves that
(`attempt_holds`), and one that was not leaves the bytes there were. So an effect whose
file holds already what it would leave there changes nothing, done or not
(`attempt_bytes?`), and a fragment that is in place can be written again
(`attempt_of_holds`).
-/

namespace HybridGraphics

variable {σ α β ε ε' : Type}

/-- The file at the path can be read and holds these bytes, or there is none in its place. -/
def FileTree.Holds (t : FileTree) (p : Path) : Option Bytes → Prop
  | some content => t.read p = .ok content
  | none => t.bytes? p.place = none

/-- A file that holds these bytes has them in its place. -/
theorem FileTree.Holds.bytes?_eq {t : FileTree} {p : Path} {content : Option Bytes}
    (h : t.Holds p content) (free : t.LinkFree) (down : p.Descends) :
    t.bytes? p.place = content := by
  cases content with
  | none => exact h
  | some content => exact ((FileTree.read_eq_ok_iff free down).mp h).2.2

theorem FileTree.Holds.congr {t t' : FileTree} {p : Path} {content : Option Bytes}
    (h : t.Holds p content) (free : t.LinkFree) (free' : t'.LinkFree) (down : p.Descends)
    (hb : t'.bytes? p.place = t.bytes? p.place) : t'.Holds p content := by
  cases content with
  | none => exact hb.trans h
  | some content => exact (sameAnswer_read_of_bytes? free free' down hb).ok_iff.mp h

/-- Where reading comes to nothing, there is no file. -/
theorem FileTree.holds_none_of_readText {t : FileTree} {p : Path} (free : t.LinkFree)
    (down : p.Descends) (h : t.readText p = .error .notFound) : t.Holds p none := by
  refine FileTree.bytes?_of_read_notFound free down ?_
  unfold FileTree.readText at h
  cases hr : t.read p with
  | error cause =>
    rw [hr] at h
    cases h
    rfl
  | ok content =>
    rw [hr] at h
    simp only [bind, Except.bind] at h
    split at h <;> cases h

/-! ## Steps about one file -/

namespace Act

/-- The step leaves the file with these bytes if it succeeds, and else with the bytes it had. -/
def Leaves (p : Path) (content : Option Bytes) (x : Act σ (Except ε α)) : Prop :=
  ∀ w, w.tree.LinkFree →
    ((x w).2.tree.bytes? p.place = w.tree.bytes? p.place ∨
      (x w).2.tree.bytes? p.place = content) ∧
    ∀ a, (x w).1 = .ok a → (x w).2.tree.Holds p content

namespace Leaves

variable {p : Path} {content : Option Bytes}

/-- Writing a text leaves its bytes. -/
theorem writeText (down : p.Descends) (text : List Char) :
    Leaves p (some (Text.encode text)) (Act.writeText p text : Act σ _) := by
  intro w free
  have hfree := (((edits_touchesOnly down).write text w).2 free).linkFree
  cases hr : (Act.writeText p text w).1 with
  | ok _ =>
    obtain ⟨hwalk, hends, hbytes⟩ := bytes?_of_writeText down free hr
    refine ⟨.inr hbytes, fun _ _ => ?_⟩
    exact (FileTree.read_eq_ok_iff hfree down).mpr ⟨hwalk, hends, hbytes⟩
  | error cause =>
    exact ⟨.inl (bytes?_of_writeText_error down free hr), fun _ h => by cases h⟩

theorem removeFile (down : p.Descends) : Leaves p none (Act.removeFile p : Act σ _) := by
  intro w free
  rcases removeFile_cases down free with ⟨-, hb⟩ | ⟨⟨cause, he⟩, -, heq⟩
  · exact ⟨.inr hb, fun _ _ => hb⟩
  · refine ⟨.inl (by rw [heq]), fun a h => ?_⟩
    rw [he] at h
    cases h

/-- A line of the report leaves every file as it is. -/
theorem note_bind {level : Level} {text : String} {x : Unit → Act σ (Except ε α)}
    (hx : Leaves p content (x ())) : Leaves p content (Act.note level text >>= x) :=
  fun w free => hx (Act.note level text w).2 free

/-- What comes after the step only passes its outcome on. -/
theorem bind {x : Act σ (Except ε α)} {g : Except ε α → Act σ (Except ε' β)}
    (hx : Leaves p content x) (htree : ∀ r w, (g r w).2.tree = w.tree)
    (herror : ∀ cause w b, (g (.error cause) w).1 ≠ .ok b) : Leaves p content (x >>= g) := by
  intro w free
  obtain ⟨hb, hok⟩ := hx w free
  simp only [bind_apply, htree]
  refine ⟨hb, fun b h => ?_⟩
  cases hr : (x w).1 with
  | ok a => exact hok a hr
  | error cause =>
    rw [hr] at h
    exact absurd h (herror cause _ b)

/-- Passing an outcome on leaves every file as it is. -/
theorem map {x : Act σ (Except ε α)} (hx : Leaves p content x) (f : Except ε α → Except ε' β)
    (hf : ∀ cause b, f (.error cause) ≠ .ok b) : Leaves p content (x >>= fun r => Pure.pure (f r)) :=
  hx.bind (fun _ _ => rfl) fun cause _ b => hf cause b

end Leaves

end Act

open Act (Leaves)

/-! ## Effects -/

/-- What an effect, once done, leaves in its file. -/
def Effect.leaves? (config : Config) (triplet : String) :
    Effect → Option (WrittenFile × Option Bytes)
  | writeOutputClass device =>
    some (.fragment .outputClass, some (Text.encode (Fragment.outputClassText triplet device)))
  | writeServerLayout => some (.fragment .serverLayout, some (Text.encode Fragment.serverLayoutText))
  | removeFragment f => some (.fragment f, none)
  | setRuntimePm _ enabled eligibility _ =>
    if enabled then
      if eligibility.supported && !eligibility.currentlyEnabled then
        some (.runtimePmSnippet, some (Text.encode RuntimePm.driverOption.toList))
      else none
    else some (.runtimePmSnippet, none)
  | persistPolicy policy => some (.policy, some (Text.encode (policy.text.toList ++ ['\n'])))
  | setOffloadingMarker required =>
    if config.dryRun then none
    else some (.marker, if required then some (Text.encode Run.markerText) else none)
  | loadModule _ | unloadNvidiaStack | runPxScript _ => none

namespace Run

variable {config : Config} {actions : Actions σ} {triplet : String} {e : Effect}

/-- What an effect leaves is in the file that it is about. -/
theorem file?_of_leaves? {file : WrittenFile} {content : Option Bytes}
    (h : e.leaves? config triplet = some (file, content)) : e.file? = some file := by
  cases e with
  | setRuntimePm device enabled eligibility onBus =>
    simp only [Effect.leaves?] at h
    split at h
    next => split at h <;> cases h; rfl
    next => cases h; rfl
  | setOffloadingMarker required =>
    simp only [Effect.leaves?] at h
    split at h <;> cases h
    rfl
  | _ => cases h <;> rfl

theorem writeFragment_leaves (hc : config.WritesApart) (f : Fragment) (text : List Char) :
    Leaves (f.file config) (some (Text.encode text)) (Fragment.write config f text : Act σ _) := by
  refine .note_bind ((Leaves.writeText (hc.descends (.fragment f)) text).bind ?_ ?_)
  · intro r w
    cases r <;> rfl
  · intro cause w b h
    cases h

theorem removeFragment_leaves (hc : config.WritesApart) (f : Fragment) :
    Leaves (f.file config) none (Fragment.remove config f : Act σ _) := by
  refine (Leaves.removeFile (hc.descends (.fragment f))).bind ?_ ?_
  · intro r w
    match r with
    | .ok true => rfl
    | .ok false => rfl
    | .error cause => rfl
  · intro cause w b h
    cases h

/-- Setting the driver's option leaves it, or none, as the effect on runtime power management has
it. -/
theorem setOption_leaves (hc : config.WritesApart) {enabled : Bool} {eligibility : Eligibility}
    {content : Option Bytes} {device : Pci.Device} {onBus : Bool} {file : WrittenFile}
    (h : (Effect.setRuntimePm device enabled eligibility onBus).leaves? config triplet =
      some (file, content)) :
    Leaves config.runtimePmSnippet content
      (RuntimePm.setOption config enabled eligibility : Act σ _) := by
  have hdown : config.runtimePmSnippet.Descends := hc.descends .runtimePmSnippet
  simp only [Effect.leaves?] at h
  unfold RuntimePm.setOption
  split at h
  next hon =>
    split at h
    next hs =>
      cases h
      rw [if_pos hon, if_pos hs]
      refine .note_bind ((Leaves.writeText hdown _).bind ?_ ?_)
      · intro r w
        cases r <;> rfl
      · intro cause w b h
        cases h
    next => cases h
  next hoff =>
    cases h
    rw [if_neg hoff]
    refine (Leaves.removeFile hdown).bind ?_ ?_
    · intro r w
      match r with
      | .ok true => rfl
      | .ok false => rfl
      | .error cause => rfl
    · intro cause w b h
      cases h

/-- Setting a card's control attribute changes no file. -/
theorem setControl_tree (config : Config) (ha : actions.KeepsFiles) (device : Pci.Device)
    (enabled onBus : Bool) (w : World σ) :
    (RuntimePm.setControl config actions device enabled onBus w).2.tree = w.tree := by
  unfold RuntimePm.setControl
  split
  next =>
    have hw := ha.write (RuntimePm.controlFile config device) (RuntimePm.controlValue enabled) w
    simp only [Act.bind_apply]
    cases (actions.writeAttribute (RuntimePm.controlFile config device)
      (RuntimePm.controlValue enabled) w).1 with
    | ok _ => exact hw.1
    | error cause => exact hw.1
  next => rfl

/-- An effect that was done leaves in its file what it is to leave there. -/
theorem apply_leaves (hc : config.WritesApart) (ha : actions.KeepsFiles) {file : WrittenFile}
    {content : Option Bytes} (h : e.leaves? config triplet = some (file, content)) :
    Leaves (config.pathOf file) content (apply config actions triplet e) := by
  have hmap : ∀ {ε α : Type} (f : ε → EffectError) (cause : ε) (b : α),
      (Except.error cause : Except ε α).mapError f ≠ .ok b := fun f cause b h => by cases h
  cases e with
  | writeOutputClass device =>
    cases h
    exact (writeFragment_leaves hc .outputClass _).map _ (hmap _)
  | writeServerLayout =>
    cases h
    exact (writeFragment_leaves hc .serverLayout _).map _ (hmap _)
  | removeFragment f =>
    cases h
    exact (removeFragment_leaves hc f).map _ fun cause b h => by cases h
  | setRuntimePm device enabled eligibility onBus =>
    have hfile := file?_of_leaves? h
    cases hfile
    have hoption : Leaves config.runtimePmSnippet content
        (RuntimePm.setRuntimePm config actions device enabled eligibility onBus) := by
      intro w free
      have htree := setControl_tree config ha device enabled onBus w
      unfold RuntimePm.setRuntimePm
      simp only [Act.bind_apply]
      cases (RuntimePm.setControl config actions device enabled onBus w).1 with
      | error cause => exact ⟨.inl (congrArg (FileTree.bytes? · _) htree), fun _ h => by cases h⟩
      | ok _ =>
        rw [← htree] at free ⊢
        exact setOption_leaves hc h _ free
    exact hoption.map _ (hmap _)
  | persistPolicy policy =>
    cases h
    refine Leaves.map (.note_bind ((Leaves.writeText (hc.descends .policy) _).bind ?_ ?_)) _ (hmap _)
    · intro r w
      cases r <;> rfl
    · intro cause w b h
      cases h
  | setOffloadingMarker required =>
    simp only [Effect.leaves?] at h
    split at h
    next => cases h
    next hdry =>
      cases h
      have happly : apply config actions triplet (.setOffloadingMarker required) =
          setOffloadingMarker config required := rfl
      rw [happly]
      unfold setOffloadingMarker
      simp only [hdry, Bool.false_eq_true, if_false]
      cases required with
      | true => exact (Leaves.writeText (hc.descends .marker) _).map _ (hmap _)
      | false =>
        exact (Leaves.removeFile (hc.descends .marker)).map _ fun cause b h => by cases h
  | loadModule name => cases h
  | unloadNvidiaStack => cases h
  | runPxScript setting => cases h

/-- An effect that leaves nothing in a file changes none. -/
theorem apply_bytes?_of_none (hc : config.WritesApart) (ha : actions.KeepsFiles)
    (h : e.leaves? config triplet = none) {w : World σ} (free : w.tree.LinkFree) :
    ∀ q, (apply config actions triplet e w).2.tree.bytes? q = w.tree.bytes? q := by
  have hsame : (apply config actions triplet e w).2.tree = w.tree →
      ∀ q, (apply config actions triplet e w).2.tree.bytes? q = w.tree.bytes? q :=
    fun ht q => by rw [ht]
  have hkept : e.file? = none →
      ∀ q, (apply config actions triplet e w).2.tree.bytes? q = w.tree.bytes? q := by
    intro hf q
    have htouch := (attempt_touches hc ha triplet e w).2 free
    have hplaces : e.places config = [] := by
      rw [Effect.places, hf]
      rfl
    rw [hplaces, (attempt_eq triplet e w).1] at htouch
    exact htouch.bytes?_eq q List.not_mem_nil
  cases e with
  | setRuntimePm device enabled eligibility onBus =>
    refine hsame ?_
    have htree := setControl_tree config ha device enabled onBus w
    simp only [Effect.leaves?] at h
    simp only [apply, RuntimePm.setRuntimePm, RuntimePm.setOption, Act.bind_apply]
    cases (RuntimePm.setControl config actions device enabled onBus w).1 with
    | error cause => exact htree
    | ok _ =>
      split at h
      next hon =>
        split at h
        next => cases h
        next hs =>
          rw [if_pos hon, if_neg hs]
          exact htree
      next => cases h
  | setOffloadingMarker required =>
    refine hsame ?_
    simp only [Effect.leaves?] at h
    split at h
    next hdry =>
      have happly : apply config actions triplet (.setOffloadingMarker required) =
          setOffloadingMarker config required := rfl
      rw [happly]
      unfold setOffloadingMarker
      simp only [hdry, if_true]
      rfl
    next => cases h
  | loadModule name => exact hkept rfl
  | unloadNvidiaStack => exact hkept rfl
  | runPxScript setting => exact hkept rfl
  | _ => cases h

/-! ## Attempts -/

/-- Done, an effect leaves in its file what it is to leave there. -/
theorem attempt_holds (hc : config.WritesApart) (ha : actions.KeepsFiles) {w : World σ}
    (free : w.tree.LinkFree) (hdone : (attempt config actions triplet e w).1 = true)
    {file : WrittenFile} {content : Option Bytes}
    (h : e.leaves? config triplet = some (file, content)) :
    (attempt config actions triplet e w).2.tree.Holds (config.pathOf file) content := by
  obtain ⟨htree, hiff⟩ : (attempt config actions triplet e w).2.tree = _ ∧ _ :=
    attempt_eq triplet e w
  rw [htree]
  exact (apply_leaves hc ha h w free).2 () (hiff.mp hdone)

/-- Done or not, an effect whose file holds what it would leave there changes no file. -/
theorem attempt_bytes? (hc : config.WritesApart) (ha : actions.KeepsFiles) {w : World σ}
    (free : w.tree.LinkFree) (hholds : ∀ file content,
      e.leaves? config triplet = some (file, content) → w.tree.Holds (config.pathOf file) content) :
    ∀ q, (attempt config actions triplet e w).2.tree.bytes? q = w.tree.bytes? q := by
  intro q
  have htouch := (attempt_touches hc ha triplet e w).2 free
  rw [(attempt_eq triplet e w).1] at htouch ⊢
  cases h : e.leaves? config triplet with
  | none => exact apply_bytes?_of_none hc ha h free q
  | some leaves =>
    obtain ⟨file, content⟩ := leaves
    by_cases hq : q = (config.pathOf file).place
    · have hbytes := (hholds file content h).bytes?_eq free (hc.descends file)
      rw [hq]
      rcases (apply_leaves hc ha h w free).1 with hb | hb
      · exact hb
      · rw [hb, hbytes]
    · refine htouch.bytes?_eq q fun hm => hq ?_
      rw [Effect.places, file?_of_leaves? h] at hm
      exact List.mem_singleton.mp hm

/-- A fragment that is in place can be written again. -/
theorem attempt_of_holds (hc : config.WritesApart) {w : World σ} (free : w.tree.LinkFree)
    (henables : e.enablesDiscrete = true) (hdrives : e.drives = false) (hholds : ∀ file content,
      e.leaves? config triplet = some (file, content) → w.tree.Holds (config.pathOf file) content) :
    (attempt config actions triplet e w).1 = true := by
  have hwrite : ∀ (f : Fragment) (text old : List Char),
      w.tree.read (f.file config) = .ok (Text.encode old) →
        ∀ w1 : World σ, w1.tree = w.tree → (Fragment.write config f text w1).1 = .ok () := by
    intro f text old hread w1 ht
    have down := hc.descends (.fragment f)
    obtain ⟨hwalk, hends, hbytes⟩ := (FileTree.read_eq_ok_iff free down).mp hread
    have hok : (Act.writeText (f.file config) text
        (Act.info s!"Writing {(f.file config).text}" w1).2).1 = .ok () := by
      rw [← ht] at free hbytes
      exact FileTree.writeWithParents_of_file free down hwalk hends hbytes _
    simp only [Fragment.write, Act.bind_apply, hok]
    rfl
  refine (attempt_eq triplet e w).2.mpr ?_
  cases e with
  | writeOutputClass device =>
    have hread := hholds _ _ rfl
    have hok := hwrite .outputClass (Fragment.outputClassText triplet device) _ hread w rfl
    simp only [apply, Fragment.writeOutputClass, Act.bind_apply, hok]
    rfl
  | writeServerLayout =>
    have hread := hholds _ _ rfl
    have hok := hwrite .serverLayout Fragment.serverLayoutText _ hread w rfl
    simp only [apply, Fragment.writeServerLayout, Act.bind_apply, hok]
    rfl
  | loadModule name => cases hdrives
  | _ => cases henables

end Run

end HybridGraphics
