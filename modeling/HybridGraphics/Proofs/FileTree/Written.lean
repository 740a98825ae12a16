import HybridGraphics.Proofs.FileTree.Touches
import HybridGraphics.Proofs.Text.Utf8

/-!
# Reading what was written

A file that was written reads as it was written, and one that was removed is not found
(`read_of_writeWithParents`, `read_of_removeIfPresent`). That holds of every path in every tree,
with links and however the path climbs. It is no fact about a place, for with links in the way the
place that a path leads to depends on the tree. So the walk is followed again after the change: it
goes the same way, since all that differs is the entry at its end (`follow_rewritten`,
`follow_misses`).

The two walks are for different ends. What is written is looked at through links like any file, so
only a slash at the end makes a difference. What is removed may be a link itself, which the second
walk then does not find. So to remove it again changes nothing (`removeIfPresent_again`), and what
can be read can be removed, be it for the link that leads to it (`removeIfPresent_of_read`).
-/

namespace HybridGraphics.FileTree

variable {t t' : FileTree} {aim : Aim} {p : Path} {content : Bytes}

/-- How a walk to a directory entry goes on at a link. -/
abbrev AtLink := List FileName → List FileName → Except Fault (List FileName)

/-- A file reads as a text just if it holds the bytes of that text. -/
theorem readText_eq_ok_iff {text : List Char} :
    t.readText p = .ok text ↔ t.read p = .ok (Text.encode text) := by
  unfold readText
  cases t.read p with
  | error cause => simp [bind, Except.bind]
  | ok content =>
    simp only [bind, Except.bind, Except.ok.injEq]
    constructor
    · intro h
      split at h
      next found hd =>
        cases h
        exact (Text.encode_of_decode? hd).symm
      next => cases h
    · rintro rfl
      rw [Text.decode?_encode]

/-! ## Where a walk ends -/

/-- A walk can end here: in a directory, or in the entry of one, which is no link unless the walk
is for the entry itself. -/
def Ends (t : FileTree) (aim : Aim) (place : List FileName) : Prop :=
  t.DirAt place ∨ ∃ above name, place = above ++ [name] ∧ t.DirAt above ∧
    (aim ≠ .entry → ∀ target, t.find? place ≠ some (.link target))

/-- A walk ends in a place of the kind that it is for, if those that it starts over at links do. -/
theorem follow_ends {atLink : AtLink} (hlink : ∀ start components place, t.DirAt start →
      atLink start components = .ok place → t.Ends aim place) :
    ∀ (components here : List FileName) {place : List FileName}, t.DirAt here →
      t.follow atLink aim here components = .ok place → t.Ends aim place
  | [], here, place, hd, h => by
    cases h
    exact .inl hd
  | name :: rest, here, place, hd, h => by
    simp only [follow] at h
    split at h
    next => exact follow_ends hlink rest here hd h
    split at h
    next => exact follow_ends hlink rest _ hd.dropLast h
    split at h
    next => cases h
    split at h
    next => cases h
    split at h
    next hnone =>
      split at h
      next =>
        cases h
        refine .inr ⟨here, name, rfl, hd, fun _ target hl => ?_⟩
        cases hnone.symm.trans hl
      next => cases h
    next entries he => exact follow_ends hlink rest _ ⟨entries, he⟩ h
    next content runnable hf =>
      split at h
      next =>
        cases h
        refine .inr ⟨here, name, rfl, hd, fun _ target hl => ?_⟩
        cases hf.symm.trans hl
      next => cases h
    next target hl =>
      split at h
      next hentry =>
        cases h
        simp only [Bool.and_eq_true, decide_eq_true_eq] at hentry
        exact .inr ⟨here, name, rfl, hd, fun hne => absurd hentry.2 hne⟩
      next =>
        refine hlink _ _ _ ?_ h
        split
        · exact t.dirAt_root
        · exact hd

theorem locateWithin_ends :
    ∀ (links : Nat) (here components : List FileName) {place : List FileName}, t.DirAt here →
      t.locateWithin aim links here components = .ok place → t.Ends aim place
  | 0, here, components, _, hd, h =>
    follow_ends (fun _ _ _ _ h => by cases h) components here hd h
  | links + 1, here, components, _, hd, h =>
    follow_ends (fun start more _ hd h => locateWithin_ends links start more hd h) components here
      hd h

/-- What is located is what a walk from the root ends in. -/
theorem locate_eq_ok {place : List FileName} (h : t.locate aim p = .ok place) :
    p.refusal? = none ∧ t.locateWithin aim maxLinks [] p.route = .ok place ∧ t.Ends aim place := by
  unfold locate at h
  split at h
  next => cases h
  next hr => exact ⟨hr, h, locateWithin_ends maxLinks [] p.route t.dirAt_root h⟩

/-! ## The way to a file that was written -/

/-- The trees differ in one entry, which is a file in the second and no directory in the first. -/
structure Rewritten (place : List FileName) (content : Bytes) (t t' : FileTree) : Prop where
  notDir : ¬ t.DirAt place
  notLink : ∀ target, t.find? place ≠ some (.link target)
  isFile : ∃ runnable, t'.find? place = some (.file content runnable)
  same : ∀ q, q ≠ place → t.DirAt q ∧ t'.DirAt q ∨ t'.find? q = t.find? q

/-- A walk that was to create a file finds it. -/
theorem follow_rewritten {place : List FileName} (h : Rewritten place content t t')
    {atLink atLink' : AtLink} (hlink : ∀ start components, atLink start components = .ok place →
      atLink' start components = .ok place) :
    ∀ components here : List FileName, t.follow atLink .create here components = .ok place →
      t'.follow atLink' .look here components = .ok place
  | [], here, hw => hw
  | name :: rest, here, hw => by
    obtain ⟨runnable, hfile⟩ := h.isFile
    simp only [follow] at hw ⊢
    split at hw
    next hidle =>
      rw [if_pos hidle]
      exact follow_rewritten h hlink rest here hw
    next hidle =>
      rw [if_neg hidle]
      split at hw
      next hup =>
        rw [if_pos hup]
        exact follow_rewritten h hlink rest _ hw
      next hup =>
        rw [if_neg hup]
        simp only [decide_true, Bool.true_and, reduceCtorEq, decide_false, Bool.false_and,
          Bool.and_false, Bool.or_false, Bool.false_eq_true, if_false] at hw ⊢
        split at hw
        next => cases hw
        next hslash =>
          split at hw
          next => cases hw
          next hlong =>
            rw [if_neg hlong]
            split at hw
            next hnone =>
              split at hw
              next hlast =>
                -- a file is created by its name alone
                have hrest : rest.isEmpty = true := by simpa [hlast] using hslash
                cases hw
                rw [hfile]
                simp only [hrest, if_true]
              next => cases hw
            next entries he =>
              have hne : here ++ [name] ≠ place := fun heq => h.notDir ⟨entries, heq ▸ he⟩
              have hdir : t'.DirAt (here ++ [name]) := by
                rcases h.same _ hne with ⟨-, hd⟩ | hsame
                · exact hd
                · exact ⟨entries, hsame.trans he⟩
              obtain ⟨entries', he'⟩ := hdir
              rw [he']
              exact follow_rewritten h hlink rest _ hw
            next content' runnable' hf =>
              split at hw
              next hrest =>
                cases hw
                rw [hfile]
                simp only [hrest, if_true]
              next => cases hw
            next target hl =>
              have hne : here ++ [name] ≠ place := fun heq => h.notLink target (heq ▸ hl)
              have hsame : t'.find? (here ++ [name]) = some (.link target) := by
                rcases h.same _ hne with ⟨⟨entries, he⟩, -⟩ | hsame
                · cases hl.symm.trans he
                · exact hsame.trans hl
              rw [hsame]
              exact hlink _ _ hw

/-- A walk that was to write a file finds it there afterwards. -/
theorem locateWithin_rewritten {place : List FileName} (h : Rewritten place content t t') :
    ∀ (links : Nat) (here components : List FileName),
      t.locateWithin .create links here components = .ok place →
        t'.locateWithin .look links here components = .ok place
  | 0, here, components, hw => follow_rewritten h (fun _ _ h => by cases h) components here hw
  | links + 1, here, components, hw =>
    follow_rewritten h (locateWithin_rewritten h links) components here hw

/-- Putting a file where a walk ends, if that is no directory. -/
theorem rewritten_put {place : List FileName} (hends : t.Ends .create place)
    (hdir : ¬ t.DirAt place) (content : Bytes) (runnable : Runnable) :
    Rewritten place content t (t.put place (some (.file content runnable))) := by
  obtain ⟨above, name, rfl, hd, hlink⟩ := hends.resolve_left hdir
  have hcases := find?_put_cases hd hdir (hollow_file content runnable)
  refine ⟨hdir, hlink (by decide), ?_, fun q hq => ?_⟩
  · obtain ⟨entries, he⟩ := hd
    exact ⟨runnable, t.find?_put_self _ above name entries he⟩
  · rcases hcases q with ⟨heq, -⟩ | ⟨-, hd, hd'⟩ | ⟨-, hsame⟩
    · exact absurd heq hq
    · exact .inl ⟨hd, hd'⟩
    · exact .inr hsame

/-- A write, if it succeeds, leaves a file where its walk ends. -/
theorem write_rewritten {written : FileTree} (h : t.write p content = .ok written) :
    ∃ place, t.locate .create p = .ok place ∧ Rewritten place content t written := by
  unfold write at h
  cases hl : t.locate .create p with
  | error cause =>
    rw [hl] at h
    cases h
  | ok place =>
    rw [hl] at h
    simp only [bind, Except.bind] at h
    obtain ⟨-, -, hends⟩ := locate_eq_ok hl
    refine ⟨place, rfl, ?_⟩
    split at h
    next => cases h
    next content' runnable hf =>
      cases h
      refine rewritten_put hends ?_ content _
      rintro ⟨entries, he⟩
      cases hf.symm.trans he
    next hdir hfile =>
      cases h
      exact rewritten_put hends (fun ⟨entries, he⟩ => hdir _ he) content _

/-- Looking at the path then leads to that file. -/
theorem Rewritten.locate_look {place : List FileName} (h : Rewritten place content t t')
    (hl : t.locate .create p = .ok place) : t'.locate .look p = .ok place := by
  obtain ⟨hrefusal, hwalk, -⟩ := locate_eq_ok hl
  unfold locate
  rw [hrefusal]
  exact locateWithin_rewritten h maxLinks [] p.route hwalk

/-- A file that was written reads as it was written. -/
theorem read_of_write {written : FileTree} (h : t.write p content = .ok written) :
    written.read p = .ok content := by
  obtain ⟨place, hl, hrewritten⟩ := write_rewritten h
  obtain ⟨runnable, hfile⟩ := hrewritten.isFile
  simp only [read, entry, hrewritten.locate_look hl, bind, Except.bind, hfile]

/-- A file that was written after its directory was made reads as it was written. -/
theorem read_of_writeWithParents (h : (t.writeWithParents p content).2 = .ok ()) :
    (t.writeWithParents p content).1.read p = .ok content := by
  unfold writeWithParents at h ⊢
  split at h
  next => cases h
  next made _ =>
    split at h
    next written hw => exact read_of_write hw
    next => cases h

/-! ## Files that can be written -/

/-- Something can be written to the file, once the directory for it is made. -/
def Writable (t : FileTree) (p : Path) : Prop := (t.writeWithParents p []).2 = .ok ()

/-- Whether a write succeeds does not depend on what is written. -/
theorem write_outcome (t : FileTree) (p : Path) (content content' : Bytes) :
    (t.write p content).map (fun _ => ()) = (t.write p content').map fun _ => () := by
  unfold write
  cases t.locate .create p with
  | error cause => rfl
  | ok place =>
    simp only [bind, Except.bind]
    cases t.find? place with
    | none => rfl
    | some node => cases node <;> rfl

/-- Whether a file can be written does not depend on what is written to it. -/
theorem writeWithParents_outcome (t : FileTree) (p : Path) (content content' : Bytes) :
    (t.writeWithParents p content).2 = (t.writeWithParents p content').2 := by
  unfold writeWithParents
  rcases t.makeParent p with ⟨made, cause | ⟨⟩⟩
  · rfl
  · have hsame := made.write_outcome p content content'
    revert hsame
    simp only
    cases made.write p content <;> cases made.write p content' <;> simp [Except.map]

/-- So what can be written to at all takes any content. -/
theorem Writable.writeWithParents (h : t.Writable p) (content : Bytes) :
    (t.writeWithParents p content).2 = .ok () :=
  (t.writeWithParents_outcome p content []).trans h

/-! ## The way to a file that was removed -/

/-- A walk finds nothing in the tree. -/
def Misses (t : FileTree) (outcome : Except Fault (List FileName)) : Prop :=
  (∃ place, outcome = .ok place ∧ t.find? place = none) ∨ outcome = .error .notFound

/-- Nothing but missing entries is new in the second tree. -/
def Shrinks (t t' : FileTree) : Prop :=
  ∀ q, t'.find? q = none ∨ (t.DirAt q ∧ t'.DirAt q) ∨ t'.find? q = t.find? q

theorem Shrinks.refl (t : FileTree) : Shrinks t t := fun _ => .inr (.inr rfl)

/-- Where a walk for an entry finds nothing any more, no walk finds anything, unless it is to create
the file. -/
theorem follow_misses (h : Shrinks t t') (haim : aim ≠ .create) {atLink atLink' : AtLink}
    (hlink : ∀ start components, t'.Misses (atLink start components) →
      t'.Misses (atLink' start components)) :
    ∀ components here : List FileName, t'.Misses (t.follow atLink .entry here components) →
      t'.Misses (t'.follow atLink' aim here components)
  | [], here, hw => hw
  | name :: rest, here, hw => by
    simp only [follow] at hw ⊢
    split at hw
    next hidle =>
      rw [if_pos hidle]
      exact follow_misses h haim hlink rest here hw
    next hidle =>
      rw [if_neg hidle]
      split at hw
      next hup =>
        rw [if_pos hup]
        exact follow_misses h haim hlink rest _ hw
      next hup =>
        rw [if_neg hup]
        simp only [reduceCtorEq, haim, decide_false, decide_true, Bool.false_and, Bool.and_true,
          Bool.false_eq_true, if_false] at hw ⊢
        split at hw
        next =>
          rcases hw with ⟨_, hw, -⟩ | hw <;> cases hw
        next hlong =>
          rw [if_neg hlong]
          -- an entry that is gone is not found, whatever it was
          have hgone : t'.find? (here ++ [name]) = none →
              t'.Misses (if rest.all (· = "") = true then .ok (here ++ [name])
                else .error .notFound) := by
            intro hnone
            split
            · exact .inl ⟨_, rfl, hnone⟩
            · exact .inr rfl
          split at hw
          next hnone =>
            have hnone' : t'.find? (here ++ [name]) = none := by
              rcases h (here ++ [name]) with hn | ⟨⟨entries, he⟩, -⟩ | hsame
              · exact hn
              · cases hnone.symm.trans he
              · exact hsame.trans hnone
            rw [hnone']
            exact hgone hnone'
          next entries he =>
            rcases h (here ++ [name]) with hn | ⟨-, entries', he'⟩ | hsame
            · rw [hn]
              exact hgone hn
            · rw [he']
              exact follow_misses h haim hlink rest _ hw
            · rw [hsame, he]
              exact follow_misses h haim hlink rest _ hw
          next content runnable hf =>
            split at hw
            next =>
              rcases hw with ⟨place, hw, hnone⟩ | hw
              · cases hw
                rw [hnone]
                exact hgone hnone
              · cases hw
            next => rcases hw with ⟨_, hw, -⟩ | hw <;> cases hw
          next target hl =>
            rcases h (here ++ [name]) with hn | ⟨⟨entries, he⟩, -⟩ | hsame
            · rw [hn]
              exact hgone hn
            · cases hl.symm.trans he
            · rw [hsame, hl]
              split at hw
              next =>
                rcases hw with ⟨place, hw, hnone⟩ | hw
                · cases hw
                  rw [hsame, hl] at hnone
                  cases hnone
                · cases hw
              next hlast =>
                simp only [hlast, Bool.false_and, Bool.false_eq_true, if_false]
                exact hlink _ _ hw

/-- What the walk to an entry misses in the smaller tree, every walk in that tree misses, through
any links. -/
theorem locateWithin_misses (h : Shrinks t t') (haim : aim ≠ .create) :
    ∀ (links : Nat) (here components : List FileName),
      t'.Misses (t.locateWithin .entry links here components) →
        t'.Misses (t'.locateWithin aim links here components)
  | 0, here, components, hw => follow_misses h haim (fun _ _ h => h) components here hw
  | links + 1, here, components, hw =>
    follow_misses h haim (locateWithin_misses h haim links) components here hw

theorem locate_misses (h : Shrinks t t') (hw : t'.Misses (t.locate .entry p)) (haim : aim ≠ .create) :
    t'.Misses (t'.locate aim p) := by
  unfold locate at hw ⊢
  split at hw
  next cause hr =>
    -- a path that the machine does not take is refused for another cause
    exfalso
    rcases hw with ⟨_, hw, -⟩ | hw
    · cases hw
    · cases hw
      unfold Path.refusal? at hr
      split at hr
      next => cases hr
      next => split at hr <;> cases hr
  next => exact locateWithin_misses h haim maxLinks [] p.route hw

/-- What a walk for the entry misses cannot be read. -/
theorem read_of_misses (h : Shrinks t t') (hw : t'.Misses (t.locate .entry p)) :
    t'.read p = .error .notFound := by
  have hlook : t'.Misses (t'.locate .look p) := locate_misses h hw (by decide)
  unfold read entry
  rcases hlook with ⟨place, hplace, hnone⟩ | hnone
  · simp only [hplace, bind, Except.bind, hnone]
  · simp only [hnone, bind, Except.bind]

/-- What a walk for the entry misses cannot be removed, and need not be. -/
theorem removeIfPresent_of_misses (h : Shrinks t t') (hw : t'.Misses (t.locate .entry p)) :
    t'.removeIfPresent p = .ok (t', false) := by
  have hremove : t'.remove p = .error .notFound := by
    have hentry : t'.Misses (t'.locate .entry p) := locate_misses h hw (by decide)
    unfold remove
    rcases hentry with ⟨place, hplace, hnone⟩ | hnone
    · simp only [hplace, bind, Except.bind, hnone]
    · simp only [hnone, bind, Except.bind]
  unfold removeIfPresent
  rw [hremove]

/-- Removing an entry that is no directory leaves less. -/
theorem shrinks_put {place : List FileName} {node : Node} (hf : t.find? place = some node)
    (hdir : ¬ t.DirAt place) :
    Shrinks t (t.put place none) ∧ (t.put place none).find? place = none := by
  rcases List.eq_nil_or_concat place with rfl | ⟨above, name, rfl⟩
  · exact absurd t.dirAt_root hdir
  · rw [List.concat_eq_append] at hf hdir ⊢
    have hd := dirAt_of_find?_append hf (List.cons_ne_nil _ _)
    have hself : (t.put (above ++ [name]) none).find? (above ++ [name]) = none := by
      obtain ⟨entries, he⟩ := hd
      exact t.find?_put_self _ above name entries he
    refine ⟨fun q => ?_, hself⟩
    rcases find?_put_cases hd hdir hollow_none q with ⟨rfl, hnone⟩ | ⟨-, hq, hq'⟩ | ⟨-, hsame⟩
    · exact .inl hnone
    · exact .inr (.inl ⟨hq, hq'⟩)
    · exact .inr (.inr hsame)

/-- A file that was removed, or was not there, is missed on the way that was taken to it. -/
theorem misses_of_removeIfPresent {removed : FileTree} {wasThere : Bool}
    (h : t.removeIfPresent p = .ok (removed, wasThere)) :
    Shrinks t removed ∧ removed.Misses (t.locate .entry p) := by
  unfold removeIfPresent at h
  split at h
  next t' hr =>
    cases h
    unfold remove at hr
    cases hl : t.locate .entry p with
    | error cause =>
      rw [hl] at hr
      cases hr
    | ok place =>
      rw [hl] at hr
      simp only [bind, Except.bind] at hr
      split at hr
      next => cases hr
      next => cases hr
      next node hdir hf =>
        split at hr
        next => cases hr
        cases hr
        obtain ⟨hshrinks, hnone⟩ := shrinks_put hf fun ⟨entries, he⟩ =>
          hdir entries (Option.some.inj (hf.symm.trans he))
        exact ⟨hshrinks, .inl ⟨place, rfl, hnone⟩⟩
  next hr =>
    cases h
    refine ⟨.refl _, ?_⟩
    unfold remove at hr
    cases hl : t.locate .entry p with
    | error cause =>
      rw [hl] at hr
      cases hr
      exact .inr rfl
    | ok place =>
      rw [hl] at hr
      simp only [bind, Except.bind] at hr
      split at hr
      next hnone => exact .inl ⟨place, rfl, hnone⟩
      next => cases hr
      next => split at hr <;> cases hr
  next => cases h

/-- So it is not found. -/
theorem read_of_removeIfPresent {removed : FileTree} {wasThere : Bool}
    (h : t.removeIfPresent p = .ok (removed, wasThere)) : removed.read p = .error .notFound :=
  read_of_misses (misses_of_removeIfPresent h).1 (misses_of_removeIfPresent h).2

/-- And removing it again changes nothing. -/
theorem removeIfPresent_again {removed : FileTree} {wasThere : Bool}
    (h : t.removeIfPresent p = .ok (removed, wasThere)) :
    removed.removeIfPresent p = .ok (removed, false) :=
  removeIfPresent_of_misses (misses_of_removeIfPresent h).1 (misses_of_removeIfPresent h).2

/-! ## Files that can be removed -/

/-- The way leads to something that is no directory. -/
def EndsAtEntry (t : FileTree) (outcome : Except Fault (List FileName)) : Prop :=
  ∃ place node, outcome = .ok place ∧ t.find? place = some node ∧ node.isDir = false

/-- A walk that looks at a file passes its entry: the file itself, or a link that leads on to it. -/
theorem follow_endsAtEntry {atLink atLink' : AtLink}
    (hlink : ∀ start components, t.EndsAtEntry (atLink start components) →
      t.EndsAtEntry (atLink' start components)) :
    ∀ components here : List FileName, t.EndsAtEntry (t.follow atLink .look here components) →
      t.EndsAtEntry (t.follow atLink' .entry here components)
  | [], here, hw => hw
  | name :: rest, here, hw => by
    simp only [follow] at hw ⊢
    split at hw
    next hidle =>
      rw [if_pos hidle]
      exact follow_endsAtEntry hlink rest here hw
    next hidle =>
      rw [if_neg hidle]
      split at hw
      next hup =>
        rw [if_pos hup]
        exact follow_endsAtEntry hlink rest _ hw
      next hup =>
        rw [if_neg hup]
        simp only [reduceCtorEq, decide_false, decide_true, Bool.false_and, Bool.and_false,
          Bool.and_true, Bool.or_false, Bool.false_eq_true, if_false] at hw ⊢
        split at hw
        next => obtain ⟨_, _, hw, -⟩ := hw; cases hw
        next hlong =>
          rw [if_neg hlong]
          split at hw
          next hnone =>
            split at hw
            next =>
              obtain ⟨place, node, hw, hf, -⟩ := hw
              cases hw
              cases hnone.symm.trans hf
            next => obtain ⟨_, _, hw, -⟩ := hw; cases hw
          next entries he => exact follow_endsAtEntry hlink rest _ hw
          next content runnable hf =>
            split at hw
            next hrest =>
              obtain ⟨place, node, hw, hnode⟩ := hw
              cases hw
              simp only [hrest, Bool.true_or, if_true]
              exact ⟨_, node, rfl, hnode⟩
            next => obtain ⟨_, _, hw, -⟩ := hw; cases hw
          next target hl =>
            split
            next => exact ⟨_, .link target, rfl, hl, rfl⟩
            next => exact hlink _ _ hw

/-- A walk that looks at what is no directory ends at an entry that could be removed, through any
links. -/
theorem locateWithin_endsAtEntry :
    ∀ (links : Nat) (here components : List FileName),
      t.EndsAtEntry (t.locateWithin .look links here components) →
        t.EndsAtEntry (t.locateWithin .entry links here components)
  | 0, here, components, hw => follow_endsAtEntry (fun _ _ h => h) components here hw
  | links + 1, here, components, hw =>
    follow_endsAtEntry (locateWithin_endsAtEntry links) components here hw

/-- A file that can be read can be removed, if its path has no slash at the end. -/
theorem removeIfPresent_of_read (hslash : p.endsInSlash = false) (h : t.read p = .ok content) :
    ∃ removed, t.removeIfPresent p = .ok (removed, true) := by
  have hlook : t.EndsAtEntry (t.locate .look p) := by
    unfold read entry at h
    cases hl : t.locate .look p with
    | error cause =>
      rw [hl] at h
      cases h
    | ok place =>
      cases hf : t.find? place with
      | none =>
        simp only [hl, bind, Except.bind, hf] at h
        cases h
      | some node =>
        refine ⟨place, node, rfl, hf, ?_⟩
        cases node with
        | dir entries =>
          simp only [hl, bind, Except.bind, hf] at h
          cases h
        | file content runnable => rfl
        | link target => rfl
  have hentry : t.EndsAtEntry (t.locate .entry p) := by
    unfold locate at hlook ⊢
    split at hlook
    next => obtain ⟨_, _, hlook, -⟩ := hlook; cases hlook
    next => exact locateWithin_endsAtEntry maxLinks [] p.route hlook
  obtain ⟨place, node, hplace, hf, hdir⟩ := hentry
  have hremove : t.remove p = .ok (t.put place none) := by
    unfold remove
    simp only [hplace, bind, Except.bind, hf]
    cases node with
    | dir entries => cases hdir
    | file content runnable => simp [hslash]
    | link target => simp [hslash]
  unfold removeIfPresent
  rw [hremove]
  exact ⟨_, rfl⟩

end HybridGraphics.FileTree
