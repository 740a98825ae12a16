import HybridGraphics.Actions
import HybridGraphics.Proofs.FileTree.Changes
import HybridGraphics.Proofs.FileTree.Written

/-!
# What a step leaves alone

Most of what a step does not do is said by a relation between the world before it and
the world after it: the programs are the same, the tree differs at most at these places,
the system was asked nothing but questions. `Act.Keeps R x` says so of a step `x` and a
relation `R`. A relation in which steps can be chained, and to which the report does not
matter, is a `Frame`; for one of these, what a step keeps follows from what the steps it
is made of keep, whatever they answer (`Keeps.bind`).

Only five steps change anything: writing a file, removing one, calling a program, and
what the system's actions do. So every frame of a run is checked on these
(`HybridGraphics.Proofs.Run.Steps`).
-/

namespace HybridGraphics

variable {σ α β : Type}

namespace Act

/-! ## Running steps -/

@[simp] theorem bind_apply (x : Act σ α) (f : α → Act σ β) (w : World σ) :
    (x >>= f) w = f (x w).1 (x w).2 := rfl

@[simp] theorem pure_apply (a : α) (w : World σ) : (pure a : Act σ α) w = (a, w) := rfl

@[simp] theorem get_apply (w : World σ) : (get : Act σ (World σ)) w = (w, w) := rfl

@[simp] theorem note_apply (level : Level) (text : String) (w : World σ) :
    (note level text : Act σ Unit) w = ((), { w with report := w.report ++ [⟨level, text⟩] }) := rfl

/-! ## Frames -/

/-- A relation that steps can be chained in, and to which the report does not matter. -/
structure Frame (R : World σ → World σ → Prop) : Prop where
  refl : ∀ w, R w w
  trans : ∀ {a b c}, R a b → R b c → R a c
  report : ∀ w notes, R w { w with report := notes }

/-- Whatever the world, the step leads to a related one. -/
def Keeps (R : World σ → World σ → Prop) (x : Act σ α) : Prop := ∀ w, R w (x w).2

variable {R : World σ → World σ → Prop}

namespace Keeps

theorem pure (hR : Frame R) (a : α) : Keeps R (Pure.pure a : Act σ α) := fun w => hR.refl w

/-- Chained steps keep what each of them keeps. -/
theorem bind (hR : Frame R) {x : Act σ α} {f : α → Act σ β} (hx : Keeps R x)
    (hf : ∀ a, Keeps R (f a)) : Keeps R (x >>= f) :=
  fun w => hR.trans (hx w) (hf (x w).1 (x w).2)

theorem get (hR : Frame R) : Keeps R (MonadState.get : Act σ (World σ)) := fun w => hR.refl w

theorem note (hR : Frame R) (level : Level) (text : String) :
    Keeps R (Act.note level text : Act σ Unit) := fun w => hR.report w _

/-- Looking at the files reports, if anything. -/
theorem look (hR : Frame R) (reader : FileTree → Noted α) : Keeps R (Act.look reader) :=
  fun w => hR.report w _

theorem ite {c : Prop} [Decidable c] {x y : Act σ α} (hx : Keeps R x) (hy : Keeps R y) :
    Keeps R (if c then x else y) := by
  split
  · exact hx
  · exact hy

/-- Two steps that go on in the same way. -/
theorem branch (hR : Frame R) {c : Prop} [Decidable c] {x y : Act σ α} {f : α → Act σ β}
    (hx : Keeps R x) (hy : Keeps R y) (hf : ∀ a, Keeps R (f a)) :
    Keeps R (if c then x >>= f else y >>= f) :=
  .ite (hx.bind hR hf) (hy.bind hR hf)

/-- Passing an outcome on changes nothing. -/
theorem map (hR : Frame R) {x : Act σ α} (hx : Keeps R x) (f : α → β) :
    Keeps R (x >>= fun a => Pure.pure (f a)) :=
  hx.bind hR fun a => pure hR (f a)

end Keeps

/-- Writing or removing the file keeps the relation. -/
structure Edits (R : World σ → World σ → Prop) (p : Path) : Prop where
  write : ∀ text, Keeps R (writeText p text : Act σ (Except Fault Unit))
  remove : Keeps R (removeFile p : Act σ (Except Fault Bool))

end Act

/-- Every action keeps the relation. -/
structure Actions.Keep (R : World σ → World σ → Prop) (actions : Actions σ) : Prop where
  load : ∀ name parameters, Act.Keeps R (actions.loadModule name parameters)
  unload : ∀ name, Act.Keeps R (actions.unloadModule name)
  listing : Act.Keeps R actions.moduleListing
  available : ∀ name, Act.Keeps R (actions.moduleAvailable name)
  versioned : ∀ name, Act.Keeps R (actions.moduleVersioned name)
  terminate : ∀ servers user, Act.Keeps R (actions.terminateSession servers user)
  write : ∀ file value, Act.Keeps R (actions.writeAttribute file value)
  px : ∀ script mode, Act.Keeps R (actions.runPxScript script mode)

namespace Act

/-! ## Files -/

/-- The changes of a step are about these places, and the programs are not among them. -/
def TouchesOnly (places : List (List FileName)) (w w' : World σ) : Prop :=
  w'.programs = w.programs ∧ (w.tree.LinkFree → w.tree.Touches places w'.tree)

/-- Steps about the same places can be chained. -/
theorem TouchesOnly.frame (places : List (List FileName)) :
    Frame (TouchesOnly places : World σ → World σ → Prop) where
  refl _ := ⟨rfl, fun free => .refl free⟩
  trans h h' := ⟨h'.1.trans h.1, fun free => (h.2 free).trans (h'.2 (h.2 free).linkFree)⟩
  report _ _ := ⟨rfl, fun free => .refl free⟩

theorem TouchesOnly.mono {places more : List (List FileName)} {w w' : World σ}
    (h : TouchesOnly places w w') (hm : places ⊆ more) : TouchesOnly more w w' :=
  ⟨h.1, fun free => (h.2 free).mono hm⟩

theorem Keeps.mono {R R' : World σ → World σ → Prop} {x : Act σ α} (h : Keeps R x)
    (hR : ∀ {w w'}, R w w' → R' w w') : Keeps R' x := fun w => hR (h w)

theorem Edits.mono {R R' : World σ → World σ → Prop} {p : Path} (h : Edits R p)
    (hR : ∀ {w w'}, R w w' → R' w w') : Edits R' p :=
  ⟨fun text => (h.write text).mono hR, h.remove.mono hR⟩

/-- A step whose changes are about the place of a path. -/
theorem edits_touchesOnly {p : Path} (down : p.Descends) :
    Edits (TouchesOnly [p.place] : World σ → World σ → Prop) p where
  write text w := ⟨rfl, fun free => (FileTree.writeWithParents_spec free down _).1⟩
  remove w := by
    unfold removeFile changeWith
    split
    next tree wasThere h => exact ⟨rfl, fun free => (FileTree.removeIfPresent_spec free down h).1⟩
    next => exact (TouchesOnly.frame _).refl w

/-- What is written stays, if it was written at all. -/
theorem bytes?_of_writeText {p : Path} (down : p.Descends) {text : List Char} {w : World σ}
    (free : w.tree.LinkFree) (h : (writeText p text w).1 = .ok ()) :
    p.Walkable ∧ Path.EndsInName p.route ∧
      (writeText p text w).2.tree.bytes? p.place = some (Text.encode text) :=
  (FileTree.writeWithParents_spec free down _).2.1 h

/-- A write that failed leaves the bytes there were. -/
theorem bytes?_of_writeText_error {p : Path} (down : p.Descends) {text : List Char} {w : World σ}
    (free : w.tree.LinkFree) {cause : Fault} (h : (writeText p text w).1 = .error cause) :
    (writeText p text w).2.tree.bytes? p.place = w.tree.bytes? p.place :=
  (FileTree.writeWithParents_spec free down _).2.2 cause h

/-- Removing a file leaves none, or fails and leaves the tree as it was. -/
theorem removeFile_cases {p : Path} (down : p.Descends) {w : World σ} (free : w.tree.LinkFree) :
    ((∃ wasThere, (removeFile p w).1 = .ok wasThere) ∧
        (removeFile p w).2.tree.bytes? p.place = none) ∨
      ((∃ cause, (removeFile p w).1 = .error cause) ∧
        (∀ tree b, w.tree.removeIfPresent p ≠ .ok (tree, b)) ∧
          (removeFile p w).2.tree = w.tree) := by
  unfold removeFile changeWith
  split
  next tree wasThere h =>
    exact .inl ⟨⟨_, rfl⟩, (FileTree.removeIfPresent_spec free down h).2⟩
  next cause h =>
    refine .inr ⟨⟨_, rfl⟩, fun tree b hok => ?_, rfl⟩
    cases h.symm.trans hok

/-- What was written is read, through links as well. -/
theorem read_of_writeText {p : Path} {text : List Char} {w : World σ}
    (h : (writeText p text w).1 = .ok ()) :
    (writeText p text w).2.tree.read p = .ok (Text.encode text) :=
  FileTree.read_of_writeWithParents h

/-- What was removed is not found. -/
theorem read_of_removeFile {p : Path} {w : World σ} {wasThere : Bool}
    (h : (removeFile p w).1 = .ok wasThere) :
    (removeFile p w).2.tree.read p = .error .notFound := by
  unfold removeFile changeWith at h ⊢
  split at h
  next tree found hr => exact FileTree.read_of_removeIfPresent hr
  next => cases h

/-- What was removed need not be removed again. -/
theorem removeFile_again {p : Path} {w w' : World σ} {wasThere : Bool}
    (h : (removeFile p w).1 = .ok wasThere) (htree : w'.tree = (removeFile p w).2.tree) :
    (removeFile p w').1 = .ok false := by
  have hagain : w'.tree.removeIfPresent p = .ok (w'.tree, false) := by
    rw [htree]
    unfold removeFile changeWith at h ⊢
    split at h
    next tree found hr => exact FileTree.removeIfPresent_again hr
    next => cases h
  unfold removeFile changeWith
  simp only [hagain]

/-- What can be read can be removed. -/
theorem removeFile_of_read {p : Path} {w : World σ} {content : Bytes}
    (hslash : p.endsInSlash = false) (h : w.tree.read p = .ok content) :
    (removeFile p w).1 = .ok true := by
  obtain ⟨removed, hr⟩ := FileTree.removeIfPresent_of_read hslash h
  unfold removeFile changeWith
  simp only [hr]

/-- Removing a file leaves none that can be read, even if it fails. -/
theorem read_removeFile_ne {p : Path} (down : p.Descends) {w : World σ} (free : w.tree.LinkFree)
    (content : Bytes) : (removeFile p w).2.tree.read p ≠ .ok content := by
  intro hread
  rcases removeFile_cases down free with ⟨⟨wasThere, hok⟩, -⟩ | ⟨-, hfails, hsame⟩
  · cases hread.symm.trans (read_of_removeFile hok)
  · rw [hsame] at hread
    obtain ⟨hwalk, hends, hbytes⟩ := (FileTree.read_eq_ok_iff free down).mp hread
    obtain ⟨removed, hr⟩ := FileTree.removeIfPresent_of_file down hwalk hends hbytes
    exact hfails removed true hr

/-! ## Programs -/

/-- A step that leaves a tree without links so, and makes no directory. -/
def AddsNoDir (w w' : World σ) : Prop :=
  w.tree.LinkFree → w'.tree.LinkFree ∧ ∀ q, w'.tree.DirAt q → w.tree.DirAt q

theorem AddsNoDir.frame : Frame (AddsNoDir : World σ → World σ → Prop) where
  refl _ free := ⟨free, fun _ h => h⟩
  trans h h' free := ⟨(h' (h free).1).1, fun q hq => (h free).2 q ((h' (h free).1).2 q hq)⟩
  report _ _ free := ⟨free, fun _ h => h⟩

/-- Whatever file a program overwrites, it makes no directory. -/
theorem call_addsNoDir (name : String) (arguments : List String) :
    Keeps (AddsNoDir : World σ → World σ → Prop) (call name arguments) := by
  have hperform : ∀ program : Program,
      Keeps (AddsNoDir : World σ → World σ → Prop) (perform name arguments program) := by
    intro program w free
    unfold perform
    simp only
    split
    next file text ho =>
      cases hw : w.tree.write file (Text.encode text.toList) with
      | error cause => exact ⟨free, fun _ h => h⟩
      | ok written =>
        obtain ⟨place, -, htouch, -, hdir⟩ := FileTree.write_spec free hw
        exact ⟨htouch.linkFree, hdir⟩
    next => exact ⟨free, fun _ h => h⟩
  refine Keeps.ite (.pure AddsNoDir.frame _) ((Keeps.get AddsNoDir.frame).bind AddsNoDir.frame ?_)
  intro w
  cases w.programs.lookup name with
  | some program => exact hperform program
  | none => exact .pure AddsNoDir.frame _

end Act

end HybridGraphics
