import HybridGraphics.Proofs.FileTree.Changes
import HybridGraphics.Proofs.FileTree.Written

/-!
# Creating a file

A write creates directories on its way, and it may fail at any point of the way. New directories are
put where nothing was, so all else is as it was (`GainsDirs`): every file holds what it held, and a
path that led to a file still leads there. Only at the end of a write that succeeds a file differs,
and it is one (`writeWithParents_cases`).

In a tree without links, and for a path that does not climb, `Touches` says where that file is. Here
nothing is asked of the tree or the path.
-/

namespace HybridGraphics.FileTree

variable {t t' t'' : FileTree} {p : Path} {content : Bytes} {place : List FileName}

/-! ## New directories -/

/-- Nothing but directories is new, and they are where nothing was. -/
def GainsDirs (t t' : FileTree) : Prop :=
  ∀ q, t'.find? q = t.find? q ∨ t'.DirAt q ∧ (t.DirAt q ∨ t.find? q = none)

namespace GainsDirs

theorem refl (t : FileTree) : GainsDirs t t := fun _ => .inl rfl

theorem trans (h : GainsDirs t t') (h' : GainsDirs t' t'') : GainsDirs t t'' := by
  intro q
  rcases h' q with hsame' | ⟨hd', hwas'⟩
  · rcases h q with hsame | ⟨⟨entries, he⟩, hwas⟩
    · exact .inl (hsame'.trans hsame)
    · exact .inr ⟨⟨entries, hsame'.trans he⟩, hwas⟩
  · refine .inr ⟨hd', ?_⟩
    rcases h q with hsame | ⟨-, hwas⟩
    · unfold DirAt at hwas' ⊢
      rwa [hsame] at hwas'
    · exact hwas

/-- Every file holds what it held, and no file is new. -/
theorem bytes?_eq (h : GainsDirs t t') (place : List FileName) :
    t'.bytes? place = t.bytes? place := by
  rcases h place with hsame | ⟨hd, hd' | hnone⟩
  · exact bytes?_congr hsame
  · rw [bytes?_of_dirAt hd, bytes?_of_dirAt hd']
  · rw [bytes?_of_dirAt hd, bytes?_of_find?_none hnone]

/-- What is no directory is found as before. -/
theorem find?_eq (h : GainsDirs t t') {node : Node} (hf : t.find? place = some node)
    (hdir : node.isDir = false) : t'.find? place = some node := by
  rcases h place with hsame | ⟨-, ⟨entries, he⟩ | hnone⟩
  · exact hsame.trans hf
  · cases hf.symm.trans he
    cases hdir
  · cases hf.symm.trans hnone

theorem dirAt (h : GainsDirs t t') (hd : t.DirAt place) : t'.DirAt place := by
  rcases h place with hsame | ⟨hd', -⟩
  · obtain ⟨entries, he⟩ := hd
    exact ⟨entries, hsame.trans he⟩
  · exact hd'

/-- A walk that found something goes the same way. -/
theorem follow_eq (h : GainsDirs t t') {atLink atLink' : AtLink}
    (hlink : ∀ start components place, t.find? place ≠ none →
      atLink start components = .ok place → atLink' start components = .ok place)
    (hf : t.find? place ≠ none) :
    ∀ components here : List FileName, t.follow atLink .look here components = .ok place →
      t'.follow atLink' .look here components = .ok place
  | [], here, hw => hw
  | name :: rest, here, hw => by
    simp only [follow] at hw ⊢
    split at hw
    next hidle =>
      rw [if_pos hidle]
      exact follow_eq h hlink hf rest here hw
    next hidle =>
      rw [if_neg hidle]
      split at hw
      next hup =>
        rw [if_pos hup]
        exact follow_eq h hlink hf rest _ hw
      next hup =>
        rw [if_neg hup]
        simp only [reduceCtorEq, decide_false, Bool.false_and, Bool.and_false, Bool.or_false,
          Bool.false_eq_true, if_false] at hw ⊢
        split at hw
        next => cases hw
        next hlong =>
          rw [if_neg hlong]
          split at hw
          next hnone =>
            -- the walk did not end where nothing was
            split at hw
            next =>
              cases hw
              exact absurd hnone hf
            next => cases hw
          next entries he =>
            obtain ⟨entries', he'⟩ := h.dirAt ⟨entries, he⟩
            rw [he']
            exact follow_eq h hlink hf rest _ hw
          next content runnable he =>
            rw [h.find?_eq he rfl]
            exact hw
          next target he =>
            rw [h.find?_eq he rfl]
            exact hlink _ _ _ hf hw

/-- A walk that found something finds it as well where directories are new, through any links. -/
theorem locateWithin_eq (h : GainsDirs t t') :
    ∀ (links : Nat) (here components place : List FileName), t.find? place ≠ none →
      t.locateWithin .look links here components = .ok place →
        t'.locateWithin .look links here components = .ok place
  | 0, here, components, _, hf, hw =>
    follow_eq h (fun _ _ _ _ h => by cases h) hf components here hw
  | links + 1, here, components, _, hf, hw =>
    follow_eq h (fun start more place => locateWithin_eq h links start more place) hf components
      here hw

/-- A path that led to something leads there still. -/
theorem locate_eq (h : GainsDirs t t') (hf : t.find? place ≠ none)
    (hl : t.locate .look p = .ok place) : t'.locate .look p = .ok place := by
  obtain ⟨hrefusal, hwalk, -⟩ := locate_eq_ok hl
  unfold locate
  rw [hrefusal]
  exact locateWithin_eq h maxLinks [] p.route place hf hwalk

end GainsDirs

/-! ## Directories on the way to a file -/

theorem put_emptyDir_gainsDirs {above : List FileName} {name : FileName} (hd : t.DirAt above)
    (hnone : t.find? (above ++ [name]) = none) :
    GainsDirs t (t.put (above ++ [name]) (some (.dir []))) := by
  have hn : ¬ t.DirAt (above ++ [name]) := by
    rintro ⟨entries, he⟩
    cases hnone.symm.trans he
  intro q
  rcases find?_put_cases hd hn hollow_emptyDir q with ⟨rfl, h⟩ | ⟨-, h, h'⟩ | ⟨-, h⟩
  · exact .inr ⟨⟨[], h⟩, .inr hnone⟩
  · exact .inr ⟨h', .inl h⟩
  · exact .inl h

/-- Where a directory is created, nothing was. -/
theorem makeDir_gainsDirs {made : FileTree} (h : t.makeDir p = .ok made) : GainsDirs t made := by
  unfold makeDir at h
  cases hl : t.locate .entry p with
  | error cause =>
    rw [hl] at h
    cases h
  | ok place =>
    rw [hl] at h
    simp only [bind, Except.bind] at h
    split at h
    next => cases h
    next hnone =>
      cases h
      obtain ⟨-, -, ⟨entries, he⟩ | ⟨above, name, rfl, hd, -⟩⟩ := locate_eq_ok hl
      · cases hnone.symm.trans he
      · exact put_emptyDir_gainsDirs hd hnone

theorem ensureDir_gainsDirs (t : FileTree) (p : Path) : GainsDirs t (t.ensureDir p).1 := by
  unfold ensureDir
  split
  next made h => exact makeDir_gainsDirs h
  next => exact .refl t

/-- However far up directories have to be created, and even if that fails on the way, no file
differs. -/
theorem makeDirsUp_gainsDirs (base : String) :
    ∀ (names : List FileName) (t : FileTree), GainsDirs t (t.makeDirsUp base names).1
  | [], t => ensureDir_gainsDirs t _
  | name :: above, t => by
    have ih := makeDirsUp_gainsDirs base above t
    unfold makeDirsUp
    split
    next => exact ih
    next =>
      simp only
      split
      next =>
        split
        next made hmade =>
          rw [hmade] at ih
          exact ih.trans (ensureDir_gainsDirs made _)
        next made cause hmade =>
          rw [hmade] at ih
          exact ih
      next => exact ensureDir_gainsDirs t _

theorem makeParent_gainsDirs (t : FileTree) (p : Path) : GainsDirs t (t.makeParent p).1 := by
  unfold makeParent makeDirs
  split
  next parent _ => exact makeDirsUp_gainsDirs _ _ t
  next => exact .refl t

/-! ## The file at the end -/

/-- In the second tree, the path leads to a file with these bytes at this place. No other file
differs. -/
structure WrittenAt (p : Path) (content : Bytes) (place : List FileName) (t t' : FileTree) :
    Prop where
  located : t'.locate .look p = .ok place
  holds : t'.bytes? place = some content
  others : ∀ other, other ≠ place → t'.bytes? other = t.bytes? other

theorem Rewritten.bytes?_of_ne {other : List FileName} (h : Rewritten place content t t')
    (hne : other ≠ place) : t'.bytes? other = t.bytes? other := by
  rcases h.same other hne with ⟨hd, hd'⟩ | hsame
  · rw [bytes?_of_dirAt hd, bytes?_of_dirAt hd']
  · exact bytes?_congr hsame

/-- New directories do not get in the way to what was written. -/
theorem WrittenAt.gainsDirs (h : WrittenAt p content place t t') (hg : GainsDirs t' t'') :
    WrittenAt p content place t t'' where
  located := by
    obtain ⟨runnable, hf⟩ := bytes?_eq_some_iff.mp h.holds
    exact hg.locate_eq (by rw [hf]; exact Option.some_ne_none _) h.located
  holds := (hg.bytes?_eq place).trans h.holds
  others other hne := (hg.bytes?_eq other).trans (h.others other hne)

/-- A write with the directories above it changes no file if it fails, and one if it succeeds. -/
theorem writeWithParents_cases (t : FileTree) (p : Path) (content : Bytes) :
    (∃ cause, (t.writeWithParents p content).2 = .error cause ∧
        GainsDirs t (t.writeWithParents p content).1) ∨
      ((t.writeWithParents p content).2 = .ok () ∧
        ∃ place, WrittenAt p content place t (t.writeWithParents p content).1) := by
  have hmade := makeParent_gainsDirs t p
  unfold writeWithParents
  split
  next made cause hm =>
    rw [hm] at hmade
    exact .inl ⟨cause, rfl, hmade⟩
  next made hm =>
    rw [hm] at hmade
    split
    next written hw =>
      obtain ⟨place, hl, hrewritten⟩ := write_rewritten hw
      refine .inr ⟨rfl, place, hrewritten.locate_look hl, ?_, fun other hne => ?_⟩
      · exact bytes?_eq_some_iff.mpr hrewritten.isFile
      · exact (hrewritten.bytes?_of_ne hne).trans (hmade.bytes?_eq other)
    next cause _ => exact .inl ⟨cause, rfl, hmade⟩

/-! ## A file that was missing -/

/-- Where reading comes to nothing, there is no file. -/
theorem bytes?_of_read_notFound (free : t.LinkFree) (down : p.Descends)
    (h : t.read p = .error .notFound) : t.bytes? p.place = none := by
  have hentry : t.entry p = .error .notFound := by
    unfold read at h
    cases he : t.entry p with
    | error cause =>
      rw [he] at h
      cases h
      rfl
    | ok node =>
      rw [he] at h
      cases node <;> cases h
  refine bytes?_of_find?_none ?_
  unfold entry at hentry
  cases hl : t.locate .look p with
  | error cause =>
    rw [hl] at hentry
    cases hentry
    exact find?_of_locate_notFound free down hl
  | ok place =>
    rw [hl] at hentry
    rw [← FileTree.locate_eq free down hl]
    simp only [bind, Except.bind] at hentry
    split at hentry
    next => cases hentry
    next hnone => exact hnone

/-- The path led to nothing, and now it leads to a file with these bytes. No other file differs. If
there are no links and the path does not climb, there was no file at its end before. -/
structure Created (p : Path) (content : Bytes) (t t' : FileTree) : Prop where
  missing : t.read p = .error .notFound
  there : ∃ place, WrittenAt p content place t t' ∧
    (t.LinkFree → p.Descends → t.bytes? place = none)

/-- Writing where nothing is creates a file. -/
theorem created_of_missing (hmissing : t.read p = .error .notFound)
    (h : (t.writeWithParents p content).2 = .ok ()) :
    Created p content t (t.writeWithParents p content).1 := by
  refine ⟨hmissing, ?_⟩
  rcases writeWithParents_cases t p content with ⟨cause, he, -⟩ | ⟨-, place, hw⟩
  · cases he.symm.trans h
  · refine ⟨place, hw, fun free down => ?_⟩
    have free' := (writeWithParents_spec free down content).1.linkFree
    rw [FileTree.locate_eq free' down hw.located]
    exact bytes?_of_read_notFound free down hmissing

/-- A file that was created is there after a gain of directories as well. -/
theorem Created.gainsDirs (h : Created p content t t') (hg : GainsDirs t' t'') :
    Created p content t t'' := by
  obtain ⟨place, hw, hnone⟩ := h.there
  exact ⟨h.missing, place, hw.gainsDirs hg, hnone⟩

end HybridGraphics.FileTree
