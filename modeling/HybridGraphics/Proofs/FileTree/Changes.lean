import HybridGraphics.Proofs.FileTree.Parts
import HybridGraphics.Proofs.FileTree.Touches

/-!
# What each change of the tree does

The changes of `HybridGraphics.FileTree.Change` in terms of `Touches`, for trees
without links. `writeWithParents_spec` and `removeIfPresent_spec` say what is at the
place afterwards, for every outcome: a write that succeeds leaves its bytes and one
that fails leaves the bytes there were; a removal that succeeds leaves no file. In the
other direction, `writeWithParents_of_file` and `removeIfPresent_of_file` say that a file
that can be read can be overwritten and removed.

They cover failure as well. A write that fails part of the way may leave new directories
behind, but no file differs.
-/

namespace HybridGraphics

namespace Path

/-- What the parent of a path is: the path cut before its last name, idle components aside. -/
theorem parent?_eq_some {p parent : Path} (h : p.parent? = some parent) :
    ∃ names idle name after, parent = { base := p.base, names } ∧
      p.names = names ++ (idle ++ name :: after) ∧ isIdle name = false ∧
        named idle = [] ∧ named after = [] := by
  have hnamed : ∀ names : List FileName, named (names.takeWhile isIdle).reverse = [] := by
    intro names
    refine List.filter_eq_nil_iff.mpr fun n hn => ?_
    have := List.all_eq_true.mp List.all_takeWhile n (List.mem_reverse.mp hn)
    simp [this]
  unfold parent? at h
  split at h
  next => cases h
  next name above hdrop =>
    cases h
    have hname : isIdle name = false := by
      have := List.head?_dropWhile_not isIdle p.names.reverse
      rw [hdrop] at this
      simpa using this
    have hnames := List.takeWhile_append_dropWhile (p := isIdle) (l := p.names.reverse)
    rw [hdrop, ← List.takeWhile_append_dropWhile (p := isIdle) (l := above)] at hnames
    have hnames := congrArg List.reverse hnames
    rw [List.reverse_reverse] at hnames
    refine ⟨_, (above.takeWhile isIdle).reverse, name, (p.names.reverse.takeWhile isIdle).reverse,
      rfl, ?_, hname, hnamed _, hnamed _⟩
    refine hnames.symm.trans ?_
    simp only [List.reverse_append, List.reverse_cons, List.append_assoc, List.singleton_append]

/-- The parent of a path lies just above it. -/
theorem place_eq_of_parent? {p parent : Path} (h : p.parent? = some parent) :
    ∃ name, p.place = parent.place ++ [name] := by
  obtain ⟨names, idle, name, after, rfl, hnames, hname, hidle, hafter⟩ := parent?_eq_some h
  have hslash : named (if p.endsInSlash then [""] else []) = [] := by
    split <;> decide
  refine ⟨name, ?_⟩
  simp only [place, route, tail, hnames, named_append, named_cons_name hname, hidle, hafter,
    hslash]
  simp [named]

/-- A path goes on from its parent. -/
theorem goesOn_parent? {p parent : Path} (h : p.parent? = some parent) :
    ∃ more, p.GoesOn parent more := by
  obtain ⟨names, idle, name, after, rfl, hnames, -⟩ := parent?_eq_some h
  refine ⟨idle ++ name :: after ++ if p.endsInSlash then [""] else [], rfl, ?_⟩
  simp [tail, hnames]

theorem Descends.parent? {p parent : Path} (down : p.Descends) (h : p.parent? = some parent) :
    parent.Descends := by
  obtain ⟨more, hmore⟩ := goesOn_parent? h
  exact down.of_goesOn hmore

/-- The machine takes the parent of every path it takes. -/
theorem Walkable.parent? {p parent : Path} (hw : p.Walkable) (h : p.parent? = some parent) :
    parent.Walkable := by
  obtain ⟨more, hmore⟩ := goesOn_parent? h
  exact hw.of_goesOn hmore

/-- One name in a path stands in its text as it is, and the rest of the text does not depend on
it. -/
theorem text_below_cons (p : Path) (more : List FileName) :
    ∃ before after, ∀ name, (p.below (name :: more)).text = before ++ name ++ after := by
  have hjoined : ∃ before after, ∀ name,
      "/".intercalate (p.names ++ name :: more) = before ++ name ++ after := by
    have hfrom : ∃ after, ∀ name, "/".intercalate (name :: more) = name ++ after := by
      by_cases hmore : more = []
      · refine ⟨"", fun name => ?_⟩
        rw [hmore, String.intercalate_singleton, String.append_empty]
      · refine ⟨"/" ++ "/".intercalate more, fun name => ?_⟩
        rw [String.intercalate_cons_of_ne_nil hmore, String.append_assoc]
    obtain ⟨after, hafter⟩ := hfrom
    by_cases hnames : p.names = []
    · refine ⟨"", after, fun name => ?_⟩
      rw [hnames, List.nil_append, hafter, String.empty_append]
    · refine ⟨"/".intercalate p.names ++ "/", after, fun name => ?_⟩
      rw [String.intercalate_append_of_ne_nil hnames (List.cons_ne_nil _ _), hafter]
      simp only [String.append_assoc]
  obtain ⟨before, after, hjoined⟩ := hjoined
  have htext : ∃ base, ∀ name, (p.below (name :: more)).text = base ++ (before ++ name ++ after) := by
    simp only [text, tail, below, Bool.false_eq_true, if_false, List.append_nil, hjoined,
      List.isEmpty_iff, List.append_eq_nil_iff, List.cons_ne_nil, and_false]
    split
    · exact ⟨_, fun name => rfl⟩
    · exact ⟨_, fun name => rfl⟩
  obtain ⟨base, htext⟩ := htext
  refine ⟨base ++ before, after, fun name => ?_⟩
  rw [htext]
  simp only [String.append_assoc]

/-- Paths that differ in one name differ in their texts. -/
theorem text_below_inj {p : Path} {more : List FileName} {name name' : FileName} :
    (p.below (name :: more)).text = (p.below (name' :: more)).text ↔ name = name' := by
  obtain ⟨before, after, htext⟩ := text_below_cons p more
  rw [htext, htext, String.append_left_inj, String.append_right_inj]

end Path

namespace FileTree

open HybridGraphics.Path (named Descends EndsInName Walkable isIdle)

/-! ## Creating directories -/

/-- Creating a directory above a place touches no more than the place does, since a directory has no
bytes. -/
theorem makeDir_touches {t made : FileTree} (free : t.LinkFree) {p : Path} (down : p.Descends)
    {place : List FileName} (hp : p.place <+: place) (hne : p.place ≠ place)
    (h : t.makeDir p = .ok made) : Touches [place] t made := by
  unfold makeDir at h
  cases hl : t.locate .entry p with
  | error cause => rw [hl] at h; cases h
  | ok found =>
    rw [hl] at h
    simp only [bind, Except.bind] at h
    split at h
    next => cases h
    next hnone =>
      cases h
      rcases locate_reaches free hl with ⟨node, hf⟩ | ⟨above, name, rfl, hd⟩
      · rw [hnone] at hf
        cases hf
      · have heq := locate_eq free down hl
        exact put_emptyDir_touches free hd hnone (heq ▸ hp) (heq ▸ hne)

theorem ensureDir_touches {t : FileTree} (free : t.LinkFree) {p : Path} (down : p.Descends)
    {place : List FileName} (hp : p.place <+: place) (hne : p.place ≠ place) :
    Touches [place] t (t.ensureDir p).1 := by
  unfold ensureDir
  split
  next made h => exact makeDir_touches free down hp hne h
  next => exact .refl free

/-- Creating the directories above a place touches no more than the place does. -/
theorem makeDirsUp_touches {base : String} {place : List FileName} :
    ∀ (names : List FileName) {t : FileTree}, t.LinkFree →
      Descends { base, names := names.reverse } →
      Path.place { base, names := names.reverse } <+: place →
      Path.place { base, names := names.reverse } ≠ place →
        Touches [place] t (t.makeDirsUp base names).1
  | [], t, free, down, hp, hne => ensureDir_touches free down hp hne
  | name :: above, t, free, down, hp, hne => by
    have hmore := Path.goesOn_reverse_cons base name above
    have hplace := hmore.place_eq
    have hp' := (List.prefix_append _ (named [name])).trans (hplace ▸ hp)
    unfold makeDirsUp
    split
    next hi =>
      rw [hplace, Path.named_cons_idle hi] at hne
      exact makeDirsUp_touches above free (down.of_goesOn hmore) hp' (by simpa [named] using hne)
    next hi =>
      have hi : isIdle name = false := Bool.eq_false_iff.mpr hi
      have hne' : Path.place { base, names := above.reverse } ≠ place := by
        intro he
        have hlen := hp.length_le
        rw [hplace, Path.named_cons_name hi, he] at hlen
        simp only [named, List.filter_nil, List.length_append, List.length_singleton] at hlen
        omega
      have ih := makeDirsUp_touches above free (down.of_goesOn hmore) hp' hne'
      simp only
      split
      next =>
        split
        next made hmade =>
          rw [hmade] at ih
          exact ih.trans (ensureDir_touches ih.linkFree down hp hne)
        next made cause hmade =>
          rw [hmade] at ih
          exact ih
      next => exact ensureDir_touches free down hp hne

/-- The same holds of a directory and the ones above it, wherever the base of its path ends. -/
theorem makeDirs_touches {t : FileTree} (free : t.LinkFree) {p : Path} (down : p.Descends)
    {place : List FileName} (hp : p.place <+: place) (hne : p.place ≠ place) :
    Touches [place] t (t.makeDirs p).1 := by
  have hplace := p.spelledOut.place_withoutSlash.trans p.place_spelledOut
  refine makeDirsUp_touches p.spelledOut.names.reverse free ?_ ?_ ?_
  · rw [List.reverse_reverse]
    exact down.spelledOut.of_goesOn p.spelledOut.goesOn_withoutSlash
  · rw [List.reverse_reverse, hplace]
    exact hp
  · rw [List.reverse_reverse, hplace]
    exact hne

/-- Creating the directory that is to hold an entry touches no more than any place at the
entry or below it does. -/
theorem makeParent_touches {t : FileTree} (free : t.LinkFree) {p : Path} (down : p.Descends)
    {place : List FileName} (hp : p.place <+: place) : Touches [place] t (t.makeParent p).1 := by
  unfold makeParent
  split
  next parent h =>
    obtain ⟨name, hplace⟩ := Path.place_eq_of_parent? h
    rw [Path.place_spelledOut] at hplace
    refine makeDirs_touches free (down.spelledOut.parent? h) ?_ ?_
    · exact (List.prefix_append _ _).trans (hplace ▸ hp)
    · intro he
      have hlen := hp.length_le
      rw [hplace, ← he, List.length_append, List.length_singleton] at hlen
      omega
  next => exact .refl free

/-- Nothing changes at the entry itself while its directory is created. -/
theorem makeParent_bytes? {t : FileTree} (free : t.LinkFree) {p : Path} (down : p.Descends) :
    (t.makeParent p).1.bytes? p.place = t.bytes? p.place := by
  -- the changes are all about places above it, so any name below will do
  have h := makeParent_touches free down (List.prefix_append p.place ["."])
  exact h.bytes?_eq p.place (by simp)

/-! ## Writing -/

/-- What a write does, if it succeeds: it leaves a file with these bytes at the place that
the path leads to, climbing or not. -/
theorem write_spec {t written : FileTree} (free : t.LinkFree) {p : Path} {content : Bytes}
    (h : t.write p content = .ok written) :
    ∃ place, t.locate .create p = .ok place ∧ Touches [place] t written ∧
      written.bytes? place = some content ∧ ∀ q, written.DirAt q → t.DirAt q := by
  unfold write at h
  cases hl : t.locate .create p with
  | error cause => rw [hl] at h; cases h
  | ok place =>
    rw [hl] at h
    simp only [bind, Except.bind] at h
    -- every case that succeeds puts a file where there is no directory
    suffices key : ∀ runnable, ¬ t.DirAt place →
        Touches [place] t (t.put place (some (.file content runnable))) ∧
          (t.put place (some (.file content runnable))).bytes? place = some content ∧
            ∀ q, (t.put place (some (.file content runnable))).DirAt q → t.DirAt q by
      refine ⟨place, rfl, ?_⟩
      split at h
      next => cases h
      next content' runnable hf =>
        cases h
        refine key _ ?_
        rintro ⟨entries, he⟩
        cases hf.symm.trans he
      next hdir hfile =>
        cases h
        exact key _ fun ⟨entries, he⟩ => hdir _ he
    intro runnable hn
    have habove : ∃ above name, place = above ++ [name] ∧ t.DirAt above := by
      rcases locate_reaches free hl with ⟨node, hf⟩ | habove
      · rcases List.eq_nil_or_concat place with rfl | ⟨above, name, rfl⟩
        · exact absurd t.dirAt_root hn
        · rw [List.concat_eq_append] at hf ⊢
          exact ⟨above, name, rfl, dirAt_of_find?_append hf (List.cons_ne_nil _ _)⟩
      · exact habove
    obtain ⟨above, name, rfl, hd⟩ := habove
    have hfile : ∀ entries, some (Node.file content runnable) ≠ some (.dir entries) :=
      fun _ he => by cases he
    refine ⟨put_touches free hd hn (hollow_file _ _) hfile, ?_,
      fun q => dirAt_of_put hd hn (hollow_file _ _) hfile⟩
    obtain ⟨entries, he⟩ := hd
    exact bytes?_eq_some_iff.mpr ⟨runnable, t.find?_put_self _ above name entries he⟩

/-- A write with the directories above it, whatever comes of it. -/
theorem writeWithParents_spec {t : FileTree} (free : t.LinkFree) {p : Path} (down : p.Descends)
    (content : Bytes) :
    Touches [p.place] t (t.writeWithParents p content).1 ∧
      ((t.writeWithParents p content).2 = .ok () →
        p.Walkable ∧ EndsInName p.route ∧
          (t.writeWithParents p content).1.bytes? p.place = some content) ∧
      (∀ cause, (t.writeWithParents p content).2 = .error cause →
        (t.writeWithParents p content).1.bytes? p.place = t.bytes? p.place) := by
  have hmade := makeParent_touches free down (List.prefix_refl p.place)
  have hbytes := makeParent_bytes? free down
  unfold writeWithParents
  split
  next made cause hm =>
    rw [hm] at hmade hbytes
    exact ⟨hmade, (fun h => by cases h), fun _ _ => hbytes⟩
  next made hm =>
    rw [hm] at hmade hbytes
    split
    next written hw =>
      obtain ⟨place, hl, htouch, hfile, -⟩ := write_spec hmade.linkFree hw
      have hwalk := walkable_of_locate_create hmade.linkFree down hl
      have hplace := locate_eq hmade.linkFree down hl
      subst hplace
      refine ⟨hmade.trans htouch, fun _ => ⟨hwalk.1, ?_, hfile⟩, fun _ h => by cases h⟩
      refine hwalk.2.resolve_left fun hd => ?_
      -- a directory at the place would have been refused
      unfold write at hw
      rw [hl] at hw
      obtain ⟨entries, he⟩ := hd
      simp only [bind, Except.bind, he] at hw
      cases hw
    next cause hw => exact ⟨hmade, (fun h => by cases h), fun _ _ => hbytes⟩

/-! ## Removing -/

/-- A removal that treats absence as success, whatever comes of it. -/
theorem removeIfPresent_spec {t : FileTree} (free : t.LinkFree) {p : Path} (down : p.Descends)
    {removed : FileTree} {wasThere : Bool}
    (h : t.removeIfPresent p = .ok (removed, wasThere)) :
    Touches [p.place] t removed ∧ removed.bytes? p.place = none := by
  unfold removeIfPresent at h
  split at h
  next t' hr =>
    cases h
    unfold remove at hr
    cases hl : t.locate .entry p with
    | error cause => rw [hl] at hr; cases hr
    | ok place =>
      rw [hl] at hr
      simp only [bind, Except.bind] at hr
      have hplace := locate_eq free down hl
      split at hr
      next => cases hr
      next => cases hr
      next node hdir hf =>
        split at hr
        next => cases hr
        cases hr
        have hn : ¬ t.DirAt place := fun ⟨entries, he⟩ => hdir entries (Option.some.inj (hf.symm.trans he))
        rcases List.eq_nil_or_concat place with rfl | ⟨above, name, rfl⟩
        · exact absurd t.dirAt_root hn
        · rw [List.concat_eq_append] at hf hn hplace ⊢
          have hd := dirAt_of_find?_append hf (List.cons_ne_nil _ _)
          rw [← hplace]
          refine ⟨put_touches free hd hn hollow_none (fun _ he => by cases he), ?_⟩
          obtain ⟨entries, he⟩ := hd
          exact bytes?_of_find?_none (t.find?_put_self _ above name entries he)
  next hr =>
    cases h
    refine ⟨.refl free, bytes?_of_find?_none ?_⟩
    unfold remove at hr
    cases hl : t.locate .entry p with
    | error cause =>
      rw [hl] at hr
      cases hr
      exact find?_of_locate_notFound free down hl
    | ok place =>
      rw [hl] at hr
      simp only [bind, Except.bind] at hr
      have hplace := locate_eq free down hl
      subst hplace
      split at hr
      next hnone => exact hnone
      next => cases hr
      next => split at hr <;> cases hr
  next => cases h

/-- A file that can be read can be removed. -/
theorem removeIfPresent_of_file {t : FileTree} {p : Path} (down : p.Descends)
    (walkable : p.Walkable) (ends : EndsInName p.route) {content : Bytes}
    (hf : t.bytes? p.place = some content) :
    ∃ removed, t.removeIfPresent p = .ok (removed, true) := by
  obtain ⟨runnable, hf⟩ := bytes?_eq_some_iff.mp hf
  refine ⟨t.put p.place none, ?_⟩
  unfold removeIfPresent remove
  rw [locate_of_file .entry down walkable ends hf]
  simp only [bind, Except.bind, hf, Path.endsInSlash_of_endsInName ends, Bool.false_eq_true,
    if_false]

/-! ## What can be done again -/

/-- A path that the machine takes finds the directory at its place. -/
theorem hasDir_of_dirAt {t : FileTree} (free : t.LinkFree) {p : Path} (down : p.Descends)
    (hw : p.Walkable) (hd : t.DirAt p.place) : t.hasDir p = true := by
  obtain ⟨entries, he⟩ := hd
  unfold hasDir
  rw [(entry_eq_ok_iff free down).mpr ⟨hw, he, .inl rfl⟩]
  rfl

theorem ensureDir_of_hasDir {t : FileTree} {p : Path} (h : t.hasDir p = true) :
    (t.ensureDir p).2 = .ok () := by
  unfold ensureDir
  split
  next => rfl
  next => simp only [h, if_true]

/-- On the way to a directory, none is missing. -/
theorem makeDir_ne_notFound {t : FileTree} (free : t.LinkFree) {p : Path} (down : p.Descends)
    (hd : t.DirAt p.place) : t.makeDir p ≠ .error .notFound := by
  intro he
  unfold makeDir at he
  cases hl : t.locate .entry p with
  | error cause =>
    rw [hl] at he
    cases he
    obtain ⟨entries, hd⟩ := hd
    rw [find?_of_locate_notFound free down hl] at hd
    cases hd
  | ok place =>
    rw [hl] at he
    simp only [bind, Except.bind] at he
    split at he <;> cases he

/-- Where a directory is, none has to be created. -/
theorem makeDirsUp_of_dirAt {t : FileTree} (free : t.LinkFree) {base : String} :
    ∀ names : List FileName, Descends { base, names := names.reverse } →
      Walkable { base, names := names.reverse } →
      t.DirAt (Path.place { base, names := names.reverse }) → (t.makeDirsUp base names).2 = .ok ()
  | [], down, hw, hd => ensureDir_of_hasDir (hasDir_of_dirAt free down hw hd)
  | name :: above, down, hw, hd => by
    have hmore := Path.goesOn_reverse_cons base name above
    unfold makeDirsUp
    split
    next hidle =>
      refine makeDirsUp_of_dirAt free above (down.of_goesOn hmore) (hw.of_goesOn hmore) ?_
      rw [hmore.place_eq, Path.named_cons_idle hidle] at hd
      simpa [named] using hd
    next =>
      have hmake := makeDir_ne_notFound free down hd
      -- by `hmake`, nothing is looked for further up
      simp only
      exact ensureDir_of_hasDir (hasDir_of_dirAt free down hw hd)

/-- Where a path leads to a directory, creating it succeeds, and so for the ones above it. -/
theorem makeDirs_of_dirAt {t : FileTree} (free : t.LinkFree) {p : Path} (down : p.Descends)
    (hw : p.Walkable) (hd : t.DirAt p.place) : (t.makeDirs p).2 = .ok () := by
  have hslash := p.spelledOut.goesOn_withoutSlash
  refine makeDirsUp_of_dirAt free p.spelledOut.names.reverse ?_ ?_ ?_
  · rw [List.reverse_reverse]
    exact down.spelledOut.of_goesOn hslash
  · rw [List.reverse_reverse]
    exact hw.spelledOut.of_goesOn hslash
  · rw [List.reverse_reverse, Path.place_withoutSlash, Path.place_spelledOut]
    exact hd

/-- The directory that holds an entry need not be created. -/
theorem makeParent_of_dirAt {t : FileTree} (free : t.LinkFree) {p : Path} (down : p.Descends)
    (hw : p.Walkable) {node : Node} (hf : t.find? p.place = some node) :
    (t.makeParent p).2 = .ok () := by
  unfold makeParent
  split
  next parent h =>
    obtain ⟨name, hplace⟩ := Path.place_eq_of_parent? h
    rw [Path.place_spelledOut] at hplace
    rw [hplace] at hf
    exact makeDirs_of_dirAt free (down.spelledOut.parent? h) (hw.spelledOut.parent? h)
      (dirAt_of_find?_append hf (List.cons_ne_nil _ _))
  next => rfl

/-- A file that can be read can be overwritten. -/
theorem writeWithParents_of_file {t : FileTree} (free : t.LinkFree) {p : Path}
    (down : p.Descends) (hw : p.Walkable) (ends : EndsInName p.route) {old : Bytes}
    (hf : t.bytes? p.place = some old) (content : Bytes) :
    (t.writeWithParents p content).2 = .ok () := by
  have hbytes := makeParent_bytes? free down
  have hok : (t.makeParent p).2 = .ok () := by
    obtain ⟨runnable, hfile⟩ := bytes?_eq_some_iff.mp hf
    exact makeParent_of_dirAt free down hw hfile
  rw [hf] at hbytes
  obtain ⟨runnable, hfile⟩ := bytes?_eq_some_iff.mp hbytes
  unfold writeWithParents
  split
  next made cause hm =>
    rw [hm] at hok
    cases hok
  next made hm =>
    rw [hm] at hfile
    have hwrite : made.write p content =
        .ok (made.put p.place (some (.file content runnable.overwritten))) := by
      unfold write
      rw [locate_of_file .create down hw ends hfile]
      simp only [bind, Except.bind, hfile]
    simp only [hwrite]

end FileTree

end HybridGraphics
