import HybridGraphics.FileTree.Change

/-!
# Where a path leads

Without links, and unless it climbs, a path leads to one place only, whatever the
tree holds: the names on its route (`Path.place`). What the tree decides is whether
the place can be reached. `entry_eq_ok_iff` says when it is: the machine takes the
path, there is an entry at the place, and a path that ends in a slash or a dot finds
a directory there. So what is read at a path is a function of the entry at its place,
which is how the lemmas on changed trees are put to use.

`locate_reaches` is about any path in a tree without links. What a walk yields is
there, or the directory that is to hold it is.
-/

namespace HybridGraphics

namespace Path

/-! ## The names on a route -/

/-- The components that name an entry. -/
def named (components : List FileName) : List FileName := components.filter (!isIdle ·)

/-- The place that a path leads to where there are no links. -/
def place (p : Path) : List FileName := named p.route

/-- True of a path that never climbs. -/
def Descends (p : Path) : Prop := ".." ∉ p.route

instance (p : Path) : Decidable p.Descends := inferInstanceAs (Decidable (".." ∉ p.route))

/-- True of components that end in a name, where a file may stand. -/
def EndsInName (components : List FileName) : Prop :=
  ∃ name, components.getLast? = some name ∧ isIdle name = false

/-- True of a path that the machine takes, whatever the tree holds. -/
def Walkable (p : Path) : Prop :=
  p.refusal? = none ∧ ∀ name ∈ p.place, name.utf8ByteSize ≤ maxNameBytes

instance (p : Path) : Decidable p.Walkable := instDecidableAnd

instance (components : List FileName) : Decidable (EndsInName components) :=
  decidable_of_iff (components.getLast?.any (fun name => !isIdle name) = true) (by
    simp [EndsInName, Option.any_eq_true])

theorem named_cons_idle {name : FileName} (h : isIdle name = true) (rest : List FileName) :
    named (name :: rest) = named rest := by
  simp [named, h]

theorem named_cons_name {name : FileName} (h : isIdle name = false) (rest : List FileName) :
    named (name :: rest) = name :: named rest := by
  simp [named, h]

theorem named_append (xs ys : List FileName) : named (xs ++ ys) = named xs ++ named ys :=
  List.filter_append ..

theorem not_endsInName_nil : ¬ EndsInName [] := by
  rintro ⟨name, h, -⟩
  cases h

theorem endsInName_singleton {name : FileName} : EndsInName [name] ↔ isIdle name = false := by
  simp [EndsInName]

theorem endsInName_cons_cons {name next : FileName} {rest : List FileName} :
    EndsInName (name :: next :: rest) ↔ EndsInName (next :: rest) := by
  simp [EndsInName, List.getLast?_cons_cons]

/-- Components that end in a name have a name. -/
theorem named_ne_nil {components : List FileName} (h : EndsInName components) :
    named components ≠ [] := by
  obtain ⟨name, hl, hn⟩ := h
  have hm : name ∈ named components :=
    List.mem_filter.mpr ⟨List.mem_of_getLast? hl, by simp [hn]⟩
  exact List.ne_nil_of_mem hm

theorem place_below (p : Path) (names : List FileName) :
    (p.below names).place = p.place ++ named names := by
  have hempty : named [""] = [] := by decide
  cases hs : p.endsInSlash <;>
    simp [place, route, tail, below, hs, named_append, hempty]

theorem Descends.below {p : Path} (h : p.Descends) {names : List FileName} (hn : ".." ∉ names) :
    (p.below names).Descends := by
  unfold Descends route tail Path.below at *
  simp only [List.mem_append, not_or] at h ⊢
  exact ⟨h.1, ⟨h.2.1, hn⟩, by simp⟩

/-- The path of an entry ends in the entry's name. -/
theorem endsInName_child (p : Path) {name : FileName} (h : isIdle name = false) :
    EndsInName (p.child name).route :=
  ⟨name, by simp [route, tail, Path.child], h⟩

/-- A slash at the end is no name. -/
theorem endsInSlash_of_endsInName {p : Path} (h : EndsInName p.route) : p.endsInSlash = false := by
  obtain ⟨name, hlast, hname⟩ := h
  cases hs : p.endsInSlash with
  | false => rfl
  | true =>
    have hempty : p.route.getLast? = some "" := by simp [route, tail, hs]
    cases hlast.symm.trans hempty
    cases hname

end Path

namespace FileTree

open HybridGraphics.Path (named Descends EndsInName Walkable isIdle)

/-- There is a directory at the place. -/
def DirAt (t : FileTree) (place : List FileName) : Prop :=
  ∃ entries, t.find? place = some (.dir entries)

theorem dirAt_root (t : FileTree) : t.DirAt [] := ⟨t.entries, rfl⟩

/-- What is found below a place is found in what is at the place. -/
theorem find?_append (t : FileTree) (names more : List FileName) :
    t.find? (names ++ more) = (t.find? names).bind (Node.find? more) :=
  Node.find?_append names more t.root

/-- What leads to an entry leads through directories. -/
theorem dirAt_of_find?_append {t : FileTree} {names more : List FileName} {node : Node}
    (h : t.find? (names ++ more) = some node) (hm : more ≠ []) : t.DirAt names := by
  rw [find?_append] at h
  obtain ⟨above, ha, hf⟩ := Option.bind_eq_some_iff.mp h
  cases more with
  | nil => exact absurd rfl hm
  | cons name rest =>
    cases above with
    | dir entries => exact ⟨entries, ha⟩
    | file content runnable => cases hf
    | link target => cases hf

/-- Nothing is found below what is no directory. -/
theorem find?_append_of_not_dirAt {t : FileTree} {names more : List FileName}
    (h : ¬ t.DirAt names) (hm : more ≠ []) : t.find? (names ++ more) = none := by
  cases hf : t.find? (names ++ more) with
  | none => rfl
  | some node => exact absurd (dirAt_of_find?_append hf hm) h

theorem DirAt.dropLast {t : FileTree} {names : List FileName} (h : t.DirAt names) :
    t.DirAt names.dropLast := by
  rcases List.eq_nil_or_concat names with rfl | ⟨above, name, rfl⟩
  · exact h
  · obtain ⟨entries, he⟩ := h
    rw [List.concat_eq_append] at he ⊢
    rw [List.dropLast_concat]
    exact dirAt_of_find?_append he (List.cons_ne_nil _ _)

/-! ## Walks without links -/

/-- The place can be filled: there is an entry, or the directory to hold one. -/
def Reached (t : FileTree) (place : List FileName) : Prop :=
  (∃ node, t.find? place = some node) ∨
    ∃ above name, place = above ++ [name] ∧ t.DirAt above

/-- A walk without links ends where an entry is or may be put, even if it climbs. -/
theorem follow_reaches {t : FileTree} (free : t.LinkFree)
    (atLink : List FileName → List FileName → Except Fault (List FileName)) (aim : Aim) :
    ∀ (components here : List FileName) {place : List FileName}, t.DirAt here →
      t.follow atLink aim here components = .ok place → t.Reached place
  | [], here, place, hd, h => by
    cases h
    obtain ⟨entries, he⟩ := hd
    exact .inl ⟨_, he⟩
  | name :: rest, here, place, hd, h => by
    simp only [follow] at h
    split at h
    next => exact follow_reaches free atLink aim rest here hd h
    split at h
    next => exact follow_reaches free atLink aim rest _ hd.dropLast h
    split at h
    next => cases h
    split at h
    next => cases h
    split at h
    next =>
      split at h
      next =>
        cases h
        exact .inr ⟨here, name, rfl, hd⟩
      next => cases h
    next entries he => exact follow_reaches free atLink aim rest _ ⟨entries, he⟩ h
    next content runnable he =>
      split at h
      next =>
        cases h
        exact .inl ⟨_, he⟩
      next => cases h
    next target hl => exact absurd hl (free _ target)

/-- Where components lead from a directory when no links are in the way. -/
theorem follow_eq {t : FileTree} (free : t.LinkFree)
    (atLink : List FileName → List FileName → Except Fault (List FileName)) (aim : Aim) :
    ∀ (components here : List FileName) {place : List FileName}, ".." ∉ components →
      t.follow atLink aim here components = .ok place → place = here ++ named components
  | [], here, place, _, h => by
    cases h
    simp [named]
  | name :: rest, here, place, down, h => by
    have hname : name ≠ ".." := fun he => down (he ▸ List.mem_cons_self)
    have more : ".." ∉ rest := fun hm => down (List.mem_cons_of_mem _ hm)
    simp only [follow, hname, if_false] at h
    split at h
    next hi =>
      rw [Path.named_cons_idle hi]
      exact follow_eq free atLink aim rest here more h
    next hi =>
      have hi : isIdle name = false := Bool.eq_false_iff.mpr hi
      -- nothing but slashes is left after the last name
      have last : rest.all (· = "") = true → named rest = [] := by
        intro ha
        refine List.filter_eq_nil_iff.mpr fun n hn => ?_
        have := List.all_eq_true.mp ha n hn
        simp_all [isIdle]
      rw [Path.named_cons_name hi]
      split at h
      next => cases h
      split at h
      next => cases h
      split at h
      next =>
        split at h
        next ha =>
          rw [last ha]
          exact (Except.ok.inj h).symm
        next => cases h
      next =>
        have ih := follow_eq free atLink aim rest _ more h
        simpa using ih
      next =>
        split at h
        next ha =>
          rw [Bool.or_eq_true, Bool.and_eq_true] at ha
          have hn : named rest = [] := by
            rcases ha with he | he
            · rw [List.isEmpty_iff.mp he]
              rfl
            · exact last he.1
          rw [hn]
          exact (Except.ok.inj h).symm
        next => cases h
      next target hl => exact absurd hl (free _ target)

/-- What a look finds along components, when no links are in the way. -/
theorem follow_look_iff {t : FileTree} (free : t.LinkFree)
    (atLink : List FileName → List FileName → Except Fault (List FileName)) (node : Node) :
    ∀ (components here : List FileName), ".." ∉ components → t.DirAt here →
      ((∃ place, t.follow atLink .look here components = .ok place ∧ t.find? place = some node) ↔
        (∀ n ∈ named components, n.utf8ByteSize ≤ Path.maxNameBytes) ∧
          t.find? (here ++ named components) = some node ∧
            (node.isDir = true ∨ EndsInName components))
  | [], here, _, ⟨entries, he⟩ => by
    simp only [follow, named, List.filter_nil, List.append_nil, Except.ok.injEq, exists_eq_left',
      List.not_mem_nil, false_implies, implies_true, true_and, Path.not_endsInName_nil, or_false]
    constructor
    · intro h
      rw [he, Option.some.injEq] at h
      exact ⟨h ▸ he, h ▸ rfl⟩
    · exact And.left
  | name :: rest, here, down, hd => by
    have hname : name ≠ ".." := fun he => down (he ▸ List.mem_cons_self)
    have more : ".." ∉ rest := fun hm => down (List.mem_cons_of_mem _ hm)
    cases hi : isIdle name with
    | true =>
      have ih := follow_look_iff free atLink node rest here more hd
      have hends : EndsInName (name :: rest) ↔ EndsInName rest := by
        cases rest with
        | nil => simp [Path.endsInName_singleton, hi, Path.not_endsInName_nil]
        | cons next rest => exact Path.endsInName_cons_cons
      simpa only [follow, hi, if_true, Path.named_cons_idle hi, hends] using ih
    | false =>
      rw [Path.named_cons_name hi]
      have hsplit : here ++ name :: named rest = (here ++ [name]) ++ named rest := by simp
      simp only [follow, hi, hname, Bool.false_eq_true, if_false, List.forall_mem_cons,
        reduceCtorEq, decide_false, Bool.false_and, Bool.and_false, Bool.or_false, hsplit]
      by_cases hl : Path.maxNameBytes < name.utf8ByteSize
      · simp only [hl, if_true, reduceCtorEq, false_and, exists_false, false_iff]
        rintro ⟨⟨hs, -⟩, -⟩
        omega
      simp only [hl, if_false, Nat.not_lt.mp hl, true_and]
      cases hf : t.find? (here ++ [name]) with
      | none =>
        have hnone : t.find? ((here ++ [name]) ++ named rest) = none := by
          rw [find?_append, hf]
          rfl
        simp only [hnone, reduceCtorEq, false_and, and_false, iff_false]
        rintro ⟨place, hp, hn⟩
        split at hp
        next =>
          cases hp
          rw [hf] at hn
          cases hn
        next => cases hp
      | some found =>
        cases found with
        | link target => exact absurd hf (free _ target)
        | dir entries =>
          have ih := follow_look_iff free atLink node rest (here ++ [name]) more ⟨entries, hf⟩
          have hends : node.isDir = true ∨ EndsInName (name :: rest) ↔
              node.isDir = true ∨ EndsInName rest ∨ rest = [] := by
            cases rest with
            | nil => simp [Path.endsInName_singleton, hi]
            | cons next rest => simp [Path.endsInName_cons_cons]
          simp only [hends]
          rw [ih]
          constructor
          · rintro ⟨h1, h2, h3⟩
            exact ⟨h1, h2, h3.elim .inl fun h => .inr (.inl h)⟩
          · rintro ⟨h1, h2, h3⟩
            refine ⟨h1, h2, ?_⟩
            rcases h3 with h | h | h
            · exact .inl h
            · exact .inr h
            · subst h
              rw [named, List.filter_nil, List.append_nil, hf, Option.some.injEq] at h2
              exact .inl (h2 ▸ rfl)
        | file content runnable =>
          cases rest with
          | nil =>
            simp only [List.isEmpty_nil, if_true, Except.ok.injEq, exists_eq_left', hf, named,
              List.filter_nil, List.append_nil, List.not_mem_nil, false_implies, implies_true,
              true_and, Path.endsInName_singleton, hi, or_true, and_true]
          | cons next rest =>
            simp only [List.isEmpty_cons, Bool.false_eq_true, if_false, reduceCtorEq, false_and,
              exists_false, false_iff]
            rintro ⟨-, h2, h3⟩
            have hnone : named (next :: rest) = [] := by
              refine Decidable.byContradiction fun hne => ?_
              have hfile : ¬ t.DirAt (here ++ [name]) := by
                rintro ⟨entries, he⟩
                rw [hf] at he
                cases he
              rw [find?_append_of_not_dirAt hfile hne] at h2
              cases h2
            rw [hnone, List.append_nil, hf, Option.some.injEq] at h2
            rcases h3 with h | h
            · rw [← h2] at h
              cases h
            · exact Path.named_ne_nil (Path.endsInName_cons_cons.mp h) hnone

/-- What a walk to a file it may create says of the components. -/
theorem follow_create {t : FileTree} (free : t.LinkFree)
    (atLink : List FileName → List FileName → Except Fault (List FileName)) :
    ∀ (components here : List FileName) {place : List FileName}, ".." ∉ components →
      t.DirAt here → t.follow atLink .create here components = .ok place →
        (∀ n ∈ named components, n.utf8ByteSize ≤ Path.maxNameBytes) ∧
          (t.DirAt place ∨ EndsInName components)
  | [], here, place, _, hd, h => by
    cases h
    exact ⟨by simp [named], .inl hd⟩
  | name :: rest, here, place, down, hd, h => by
    have hname : name ≠ ".." := fun he => down (he ▸ List.mem_cons_self)
    have more : ".." ∉ rest := fun hm => down (List.mem_cons_of_mem _ hm)
    have ends : EndsInName rest → EndsInName (name :: rest) := by
      cases rest with
      | nil => exact fun h => absurd h Path.not_endsInName_nil
      | cons next rest => exact Path.endsInName_cons_cons.mpr
    simp only [follow, hname, if_false] at h
    split at h
    next hi =>
      rw [Path.named_cons_idle hi]
      have ih := follow_create free atLink rest here more hd h
      exact ⟨ih.1, ih.2.imp_right ends⟩
    next hi =>
      have hi : isIdle name = false := Bool.eq_false_iff.mpr hi
      rw [Path.named_cons_name hi, List.forall_mem_cons]
      split at h
      next => cases h
      next hslash =>
        split at h
        next => cases h
        next hl =>
          have hl := Nat.not_lt.mp hl
          have single : rest = [] → (∀ n ∈ named rest, n.utf8ByteSize ≤ Path.maxNameBytes) ∧
              EndsInName (name :: rest) := by
            rintro rfl
            exact ⟨by simp [named], Path.endsInName_singleton.mpr hi⟩
          split at h
          next =>
            split at h
            next ha =>
              have hrest : rest = [] := by simpa [ha] using hslash
              exact ⟨⟨hl, (single hrest).1⟩, .inr (single hrest).2⟩
            next => cases h
          next entries he =>
            have ih := follow_create free atLink rest _ more ⟨entries, he⟩ h
            exact ⟨⟨hl, ih.1⟩, ih.2.imp_right ends⟩
          next =>
            split at h
            next ha =>
              have hrest : rest = [] := by simpa using ha
              exact ⟨⟨hl, (single hrest).1⟩, .inr (single hrest).2⟩
            next => cases h
          next target hf => exact absurd hf (free _ target)

/-- Whatever it is for, a walk reaches a file that is at the place. -/
theorem follow_of_file {t : FileTree} {content : Bytes} {runnable : Runnable}
    (atLink : List FileName → List FileName → Except Fault (List FileName)) (aim : Aim) :
    ∀ (components here : List FileName), ".." ∉ components →
      (∀ n ∈ named components, n.utf8ByteSize ≤ Path.maxNameBytes) → EndsInName components →
        t.find? (here ++ named components) = some (.file content runnable) →
          t.follow atLink aim here components = .ok (here ++ named components)
  | [], _, _, _, ends, _ => absurd ends Path.not_endsInName_nil
  | name :: rest, here, down, short, ends, hf => by
    have hname : name ≠ ".." := fun he => down (he ▸ List.mem_cons_self)
    have more : ".." ∉ rest := fun hm => down (List.mem_cons_of_mem _ hm)
    cases hi : isIdle name with
    | true =>
      have endsRest : EndsInName rest := by
        cases rest with
        | nil => exact absurd ends (by simp [Path.endsInName_singleton, hi])
        | cons next rest => exact Path.endsInName_cons_cons.mp ends
      rw [Path.named_cons_idle hi] at short hf ⊢
      have ih := follow_of_file atLink aim rest here more short endsRest hf
      simpa only [follow, hi, if_true] using ih
    | false =>
      rw [Path.named_cons_name hi] at short hf ⊢
      obtain ⟨hl, short⟩ := List.forall_mem_cons.mp short
      have hl : ¬ Path.maxNameBytes < name.utf8ByteSize := Nat.not_lt.mpr hl
      have hsplit : here ++ name :: named rest = (here ++ [name]) ++ named rest := by simp
      rw [hsplit] at hf ⊢
      cases rest with
      | nil =>
        have hfile : t.find? (here ++ [name]) = some (.file content runnable) := by
          simpa [named] using hf
        simp [follow, hi, hname, hl, hfile, named]
      | cons next rest =>
        have endsRest := Path.endsInName_cons_cons.mp ends
        have hnamed := Path.named_ne_nil endsRest
        obtain ⟨entries, he⟩ := dirAt_of_find?_append hf hnamed
        -- what is left has a name in it, so this is not the last one
        have hlast : (next :: rest).all (· = "") = false := by
          refine Bool.eq_false_iff.mpr fun hall => hnamed (List.filter_eq_nil_iff.mpr ?_)
          intro n hn
          rw [of_decide_eq_true (List.all_eq_true.mp hall n hn)]
          decide
        have ih := follow_of_file atLink aim (next :: rest) _ more short endsRest hf
        rw [← ih, follow]
        simp only [hi, hname, hl, hlast, he, Bool.false_eq_true, if_false, Bool.and_false,
          Bool.false_and]

/-- A walk that finds nothing on its way ends where nothing is. -/
theorem find?_of_follow_notFound {t : FileTree} (free : t.LinkFree)
    (atLink : List FileName → List FileName → Except Fault (List FileName)) (aim : Aim) :
    ∀ (components here : List FileName), ".." ∉ components →
      t.follow atLink aim here components = .error .notFound →
        t.find? (here ++ named components) = none
  | [], _, _, h => by cases h
  | name :: rest, here, down, h => by
    have hname : name ≠ ".." := fun he => down (he ▸ List.mem_cons_self)
    have more : ".." ∉ rest := fun hm => down (List.mem_cons_of_mem _ hm)
    simp only [follow, hname, if_false] at h
    split at h
    next hi =>
      rw [Path.named_cons_idle hi]
      exact find?_of_follow_notFound free atLink aim rest here more h
    next hi =>
      rw [Path.named_cons_name (Bool.eq_false_iff.mpr hi), ← List.singleton_append,
        ← List.append_assoc]
      split at h
      next => cases h
      split at h
      next => cases h
      split at h
      next hf =>
        rw [find?_append, hf]
        rfl
      next => exact find?_of_follow_notFound free atLink aim rest _ more h
      next =>
        split at h
        next => cases h
        next => cases h
      next target hl => exact absurd hl (free _ target)

/-! ## Walks of paths -/

/-- A located place has an entry, or a directory to hold one. -/
theorem locate_reaches {t : FileTree} (free : t.LinkFree) {aim : Aim} {p : Path}
    {place : List FileName} (h : t.locate aim p = .ok place) : t.Reached place := by
  unfold locate at h
  split at h
  next => cases h
  next => exact follow_reaches free _ aim p.route [] t.dirAt_root h

/-- Without links, a path that does not climb leads nowhere but to its place. -/
theorem locate_eq {t : FileTree} (free : t.LinkFree) {aim : Aim} {p : Path} (down : p.Descends)
    {place : List FileName} (h : t.locate aim p = .ok place) : place = p.place := by
  unfold locate at h
  split at h
  next => cases h
  next => exact follow_eq free _ aim p.route [] down h

/-- What is found at a path is what is at its place, if the path can be walked to there. -/
theorem entry_eq_ok_iff {t : FileTree} (free : t.LinkFree) {p : Path} (down : p.Descends)
    {node : Node} :
    t.entry p = .ok node ↔
      p.Walkable ∧ t.find? p.place = some node ∧ (node.isDir = true ∨ EndsInName p.route) := by
  have hfollow := follow_look_iff free (t.locateWithin .look 39) node p.route [] down t.dirAt_root
  have hentry : t.entry p = .ok node ↔
      p.refusal? = none ∧ ∃ place,
        t.follow (t.locateWithin .look 39) .look [] p.route = .ok place ∧
          t.find? place = some node := by
    unfold entry locate
    cases hr : p.refusal? with
    | some cause => simp [bind, Except.bind]
    | none =>
      show (t.follow (t.locateWithin .look 39) .look [] p.route >>= _) = _ ↔ _
      cases t.follow (t.locateWithin .look 39) .look [] p.route with
      | error cause => simp [bind, Except.bind]
      | ok place =>
        simp only [bind, Except.bind, Except.ok.injEq, exists_eq_left', true_and]
        cases t.find? place <;> simp
  rw [hentry, hfollow, List.nil_append]
  constructor
  · rintro ⟨h1, h2, h3, h4⟩
    exact ⟨⟨h1, h2⟩, h3, h4⟩
  · rintro ⟨⟨h1, h2⟩, h3, h4⟩
    exact ⟨h1, h2, h3, h4⟩

/-- A located entry that can be looked at is the one at the place. -/
theorem locate_of_entry {t : FileTree} (free : t.LinkFree) {p : Path} (down : p.Descends)
    {node : Node} (h : t.entry p = .ok node) : t.locate .look p = .ok p.place := by
  cases hl : t.locate .look p with
  | error cause =>
    unfold entry at h
    rw [hl] at h
    cases h
  | ok place => rw [locate_eq free down hl]

/-- A path that a file can be created at is one the file can be read at. -/
theorem walkable_of_locate_create {t : FileTree} (free : t.LinkFree) {p : Path}
    (down : p.Descends) {place : List FileName} (h : t.locate .create p = .ok place) :
    p.Walkable ∧ (t.DirAt place ∨ EndsInName p.route) := by
  unfold locate at h
  split at h
  next => cases h
  next hr =>
    have hc := follow_create free _ p.route [] down t.dirAt_root h
    exact ⟨⟨hr, hc.1⟩, hc.2⟩

/-- A file that can be read is located, whatever for. -/
theorem locate_of_file {t : FileTree} (aim : Aim) {p : Path} (down : p.Descends)
    (walkable : p.Walkable) (ends : EndsInName p.route) {content : Bytes} {runnable : Runnable}
    (hf : t.find? p.place = some (.file content runnable)) : t.locate aim p = .ok p.place := by
  unfold locate
  rw [walkable.1]
  exact follow_of_file _ aim p.route [] down walkable.2 ends hf

/-- A path that leads to nothing has nothing at its place. -/
theorem find?_of_locate_notFound {t : FileTree} (free : t.LinkFree) {aim : Aim} {p : Path}
    (down : p.Descends) (h : t.locate aim p = .error .notFound) : t.find? p.place = none := by
  unfold locate at h
  split at h
  next cause hr =>
    cases h
    unfold Path.refusal? at hr
    split at hr
    next => cases hr
    next => split at hr <;> cases hr
  next => exact find?_of_follow_notFound free _ aim p.route [] down h

instance (t : FileTree) (place : List FileName) : Decidable (t.DirAt place) :=
  decidable_of_iff ((t.find? place).any Node.isDir = true) (by
    unfold DirAt
    cases t.find? place with
    | none => simp
    | some node => cases node <;> simp [Node.isDir])

end FileTree

/-! ## Checking for links -/

namespace Node

mutual

/-- True if there is no link at or below an entry. -/
def isLinkFree : Node → Bool
  | .file _ _ => true
  | .link _ => false
  | .dir entries => areLinkFree entries

/-- True if there is no link at or below the entries of a directory. -/
def areLinkFree : List (FileName × Node) → Bool
  | [] => true
  | (_, node) :: rest => isLinkFree node && areLinkFree rest

end

/-- No entry of a directory without links holds one. -/
theorem isLinkFree_of_listed {name : FileName} {node : Node} :
    ∀ {entries : List (FileName × Node)}, areLinkFree entries = true →
      entry? name entries = some node → isLinkFree node = true
  | (other, first) :: rest, hall, he => by
    simp only [areLinkFree, Bool.and_eq_true] at hall
    unfold entry? at he
    split at he
    next =>
      cases he
      exact hall.1
    next => exact isLinkFree_of_listed hall.2 he

/-- Nothing that is found below an entry without links is a link. -/
theorem find?_ne_link {node : Node} (h : isLinkFree node = true) (names : List FileName)
    (target : String) : find? names node ≠ some (.link target) := by
  induction names generalizing node with
  | nil =>
    intro hf
    cases hf
    cases h
  | cons name rest ih =>
    intro hf
    cases node with
    | file content runnable => cases hf
    | link target => cases h
    | dir entries =>
      simp only [find?] at hf
      cases he : entry? name entries with
      | none => rw [he] at hf; cases hf
      | some below =>
        rw [he] at hf
        exact ih (isLinkFree_of_listed h he) hf

end Node

/-- The check is enough. -/
theorem FileTree.linkFree_of_check {t : FileTree} (h : Node.areLinkFree t.entries = true) :
    t.LinkFree := Node.find?_ne_link h

end HybridGraphics
