import HybridGraphics.Proofs.FileTree.Place

/-!
# What a change of the tree leaves alone

Each change a run makes to the tree is about one place: the place of the path it
is asked for. `Touches places t t'` says that `t'` came from `t` by changes about
these places. Files elsewhere keep their bytes, what lies apart from the places is
the same, no link appears, and a directory appears at most on the way to a place.
The relation is reflexive and transitive, so a run of many changes touches what its
steps touch.

All three changes put one entry into the tree, or take one out. What that comes to is
told place by place (`find?_put_cases`), and that it touches no more than its place is
`put_touches`.
-/

namespace HybridGraphics

namespace FileTree

open HybridGraphics.Path (named Descends EndsInName Walkable isIdle)

/-! ## Files by their place -/

/-- The bytes of the file at a place. -/
def bytes? (t : FileTree) (place : List FileName) : Option Bytes :=
  match t.find? place with
  | some (.file content _) => some content
  | _ => none

/-- The bytes at a place are those of a file there, whether it can be run or not. -/
theorem bytes?_eq_some_iff {t : FileTree} {place : List FileName} {content : Bytes} :
    t.bytes? place = some content ↔ ∃ runnable, t.find? place = some (.file content runnable) := by
  unfold bytes?
  split
  next content' runnable h => simp [h]
  next h =>
    simp only [reduceCtorEq, false_iff, not_exists]
    intro runnable hf
    exact h _ _ hf

theorem bytes?_congr {t t' : FileTree} {place : List FileName}
    (h : t'.find? place = t.find? place) : t'.bytes? place = t.bytes? place := by
  unfold bytes?
  rw [h]

theorem bytes?_of_find?_none {t : FileTree} {place : List FileName}
    (h : t.find? place = none) : t.bytes? place = none := by
  unfold bytes?
  rw [h]

theorem bytes?_of_dirAt {t : FileTree} {place : List FileName} (h : t.DirAt place) :
    t.bytes? place = none := by
  obtain ⟨entries, he⟩ := h
  unfold bytes?
  rw [he]

/-- Reading a path gives the bytes of the file that it leads to. -/
theorem read_eq_ok_iff_entry {t : FileTree} {p : Path} {content : Bytes} :
    t.read p = .ok content ↔ ∃ runnable, t.entry p = .ok (.file content runnable) := by
  unfold read
  cases t.entry p with
  | error cause => simp [bind, Except.bind]
  | ok node => cases node <;> simp [bind, Except.bind]

/-- The bytes that are read at a path are those of the file at its place. -/
theorem read_eq_ok_iff {t : FileTree} (free : t.LinkFree) {p : Path} (down : p.Descends)
    {content : Bytes} :
    t.read p = .ok content ↔
      p.Walkable ∧ EndsInName p.route ∧ t.bytes? p.place = some content := by
  simp only [read_eq_ok_iff_entry, entry_eq_ok_iff free down, bytes?_eq_some_iff, Node.isDir,
    Bool.false_eq_true, false_or]
  constructor
  · rintro ⟨runnable, h1, h2, h3⟩
    exact ⟨h1, h3, runnable, h2⟩
  · rintro ⟨h1, h3, runnable, h2⟩
    exact ⟨runnable, h1, h2, h3⟩

/-- Where no directory is, a path leads to an entry if that can be read. -/
theorem has_iff_read {t : FileTree} (free : t.LinkFree) {p : Path} (down : p.Descends)
    (hdir : ¬ t.DirAt p.place) : t.has p = true ↔ ∃ content, t.read p = .ok content := by
  unfold has
  constructor
  · intro h
    cases he : t.entry p with
    | error cause =>
      rw [he] at h
      cases h
    | ok node =>
      have hfind := ((entry_eq_ok_iff free down).mp he).2.1
      cases node with
      | link target => exact absurd hfind (free _ target)
      | dir entries => exact absurd ⟨entries, hfind⟩ hdir
      | file content runnable => exact ⟨content, read_eq_ok_iff_entry.mpr ⟨runnable, he⟩⟩
  · rintro ⟨content, h⟩
    obtain ⟨runnable, he⟩ := read_eq_ok_iff_entry.mp h
    rw [he]
    rfl

/-! ## The relation -/

/-- Neither place leads to the other, nor are they the same. -/
def Apart (a b : List FileName) : Prop := ¬ a <+: b ∧ ¬ b <+: a

theorem Apart.symm {a b : List FileName} (h : Apart a b) : Apart b a := ⟨h.2, h.1⟩

theorem Apart.ne {a b : List FileName} (h : Apart a b) : a ≠ b :=
  fun he => h.1 (he ▸ List.prefix_refl _)

/-- What lies below one of two places that are apart is apart from the other. -/
theorem Apart.below {a b : List FileName} (h : Apart a b) (more : List FileName) :
    Apart a (b ++ more) := by
  refine ⟨fun hp => ?_, fun hp => h.2 ((List.prefix_append b more).trans hp)⟩
  rcases List.prefix_or_prefix_of_prefix hp (List.prefix_append b more) with h' | h'
  · exact h.1 h'
  · exact h.2 h'

/-- The second tree came from the first by changes about these places. -/
structure Touches (places : List (List FileName)) (t t' : FileTree) : Prop where
  linkFree : t'.LinkFree
  find?_eq : ∀ q, (∀ s ∈ places, Apart s q) → t'.find? q = t.find? q
  bytes?_eq : ∀ q, q ∉ places → t'.bytes? q = t.bytes? q
  dirAt : ∀ q, (∀ s ∈ places, q <+: s → q = s) → t'.DirAt q → t.DirAt q

namespace Touches

variable {places more : List (List FileName)} {t t' t'' : FileTree}

theorem refl (free : t.LinkFree) : Touches places t t where
  linkFree := free
  find?_eq _ _ := rfl
  bytes?_eq _ _ := rfl
  dirAt _ _ h := h

theorem trans (h : Touches places t t') (h' : Touches places t' t'') : Touches places t t'' where
  linkFree := h'.linkFree
  find?_eq q hq := (h'.find?_eq q hq).trans (h.find?_eq q hq)
  bytes?_eq q hq := (h'.bytes?_eq q hq).trans (h.bytes?_eq q hq)
  dirAt q hq hd := h.dirAt q hq (h'.dirAt q hq hd)

theorem mono (h : Touches places t t') (hm : places ⊆ more) : Touches more t t' where
  linkFree := h.linkFree
  find?_eq q hq := h.find?_eq q fun s hs => hq s (hm hs)
  bytes?_eq q hq := h.bytes?_eq q fun hs => hq (hm hs)
  dirAt q hq hd := h.dirAt q (fun s hs => hq s (hm hs)) hd

end Touches

/-! ## Putting one entry -/

/-- All the way down to a directory there are directories. -/
theorem DirAt.above {t : FileTree} {names above : List FileName} (h : t.DirAt above)
    (hp : names <+: above) : t.DirAt names := by
  obtain ⟨more, rfl⟩ := hp
  by_cases hm : more = []
  · rwa [hm, List.append_nil] at h
  · obtain ⟨entries, he⟩ := h
    exact dirAt_of_find?_append he hm

/-- Directories on the way to what is put stay directories. -/
theorem dirAt_put_above {t : FileTree} (new : Option Node) {names more : List FileName}
    (hm : more ≠ []) (h : t.DirAt names) : (t.put (names ++ more) new).DirAt names := by
  suffices key : ∀ (names : List FileName) (node : Node) (entries : List (FileName × Node)),
      node.find? names = some (.dir entries) →
        ∃ es, (node.put new (names ++ more)).find? names = some (.dir es) by
    obtain ⟨entries, he⟩ := h
    obtain ⟨es, hs⟩ := key names t.root entries he
    exact ⟨es, by rw [find?, put_root]; exact hs⟩
  intro names
  induction names with
  | nil =>
    intro node entries h
    cases Option.some.inj h
    cases more with
    | nil => exact absurd rfl hm
    | cons name rest =>
      cases rest with
      | nil => exact ⟨_, rfl⟩
      | cons next rest =>
        simp only [List.nil_append, Node.put]
        cases Node.entry? name entries <;> exact ⟨_, rfl⟩
  | cons name rest ih =>
    intro node entries h
    cases node with
    | file content runnable => cases h
    | link target => cases h
    | dir es =>
      simp only [Node.find?] at h
      cases he : Node.entry? name es with
      | none => rw [he] at h; cases h
      | some below =>
        rw [he] at h
        obtain ⟨es', hs⟩ := ih below entries h
        cases hr : rest ++ more with
        | nil => exact absurd (List.append_eq_nil_iff.mp hr).2 hm
        | cons next rest' =>
          rw [hr] at hs
          refine ⟨es', ?_⟩
          simp only [List.cons_append, hr, Node.put, he, Node.find?, Node.entry?_setEntry_self, hs]

/-- True of what can be put without bringing entries of its own. -/
def Hollow (new : Option Node) : Prop :=
  (∀ more, more ≠ [] → new.bind (Node.find? more) = none) ∧ ∀ target, new ≠ some (.link target)

theorem hollow_none : Hollow none := ⟨fun _ _ => rfl, fun _ h => by cases h⟩

/-- A file brings no entries of its own. -/
theorem hollow_file (content : Bytes) (runnable : Runnable) :
    Hollow (some (.file content runnable)) := by
  refine ⟨fun more hm => ?_, fun _ h => by cases h⟩
  cases more with
  | nil => exact absurd rfl hm
  | cons name rest => rfl

theorem hollow_emptyDir : Hollow (some (.dir [])) := by
  refine ⟨fun more hm => ?_, fun _ h => by cases h⟩
  cases more with
  | nil => exact absurd rfl hm
  | cons name rest => rfl

/-- What is found at any names after an entry was put: the entry, a directory that leads to
it, or what was there before. -/
theorem find?_put_cases {t : FileTree} {new : Option Node} {above : List FileName}
    {name : FileName} (hd : t.DirAt above) (hn : ¬ t.DirAt (above ++ [name]))
    (hollow : Hollow new) (q : List FileName) :
    (q = above ++ [name] ∧ (t.put (above ++ [name]) new).find? q = new)
      ∨ (q <+: above ∧ t.DirAt q ∧ (t.put (above ++ [name]) new).DirAt q)
      ∨ (q ≠ above ++ [name] ∧ (t.put (above ++ [name]) new).find? q = t.find? q) := by
  obtain ⟨entries, he⟩ := id hd
  have hself := t.find?_put_self new above name entries he
  by_cases hdown : above ++ [name] <+: q
  · obtain ⟨more, rfl⟩ := hdown
    by_cases hm : more = []
    · subst hm
      exact .inl ⟨List.append_nil _, by rw [List.append_nil]; exact hself⟩
    · refine .inr (.inr ⟨by simpa using hm, ?_⟩)
      rw [find?_append, hself, hollow.1 more hm, find?_append_of_not_dirAt hn hm]
  · by_cases hup : q <+: above ++ [name]
    · have hq : q <+: above := by
        rcases List.prefix_concat_iff.mp hup with rfl | h
        · exact absurd (List.prefix_refl _) hdown
        · exact h
      obtain ⟨more, hmore⟩ := id hq
      refine .inr (.inl ⟨hq, DirAt.above hd hq, ?_⟩)
      have hput := dirAt_put_above new (List.append_ne_nil_of_right_ne_nil more
        (List.cons_ne_nil name [])) (DirAt.above hd hq)
      rwa [← List.append_assoc, hmore] at hput
    · refine .inr (.inr ⟨fun h => hdown (h ▸ List.prefix_refl _), ?_⟩)
      exact find?_put_of_disjoint t new _ _ hdown hup

/-- Putting a file, or nothing, makes no directory. -/
theorem dirAt_of_put {t : FileTree} {new : Option Node} {above : List FileName}
    {name : FileName} (hd : t.DirAt above) (hn : ¬ t.DirAt (above ++ [name]))
    (hollow : Hollow new) (hnew : ∀ entries, new ≠ some (.dir entries)) {q : List FileName}
    (h : (t.put (above ++ [name]) new).DirAt q) : t.DirAt q := by
  obtain ⟨entries, h⟩ := h
  rcases find?_put_cases hd hn hollow q with ⟨-, h'⟩ | ⟨-, h', -⟩ | ⟨-, h'⟩
  · exact absurd (h'.symm.trans h) (hnew entries)
  · exact h'
  · exact ⟨entries, h'.symm.trans h⟩

/-- Putting a file, or nothing, where no directory is touches that place. -/
theorem put_touches {t : FileTree} (free : t.LinkFree) {new : Option Node}
    {above : List FileName} {name : FileName} (hd : t.DirAt above)
    (hn : ¬ t.DirAt (above ++ [name])) (hollow : Hollow new)
    (hnew : ∀ entries, new ≠ some (.dir entries)) :
    Touches [above ++ [name]] t (t.put (above ++ [name]) new) where
  linkFree q target h := by
    rcases find?_put_cases hd hn hollow q with ⟨-, h'⟩ | ⟨-, -, entries, h'⟩ | ⟨-, h'⟩
    · exact hollow.2 target (h'.symm.trans h)
    · cases h'.symm.trans h
    · exact free q target (h'.symm.trans h)
  find?_eq q hq := by
    have hq := hq _ List.mem_cons_self
    rcases find?_put_cases hd hn hollow q with ⟨h', -⟩ | ⟨h', -, -⟩ | ⟨-, h'⟩
    · exact absurd h'.symm hq.ne
    · exact absurd (h'.trans (List.prefix_append _ _)) hq.2
    · exact h'
  bytes?_eq q hq := by
    rcases find?_put_cases hd hn hollow q with ⟨h', -⟩ | ⟨-, h, h'⟩ | ⟨-, h'⟩
    · exact absurd (h' ▸ List.mem_cons_self) hq
    · rw [bytes?_of_dirAt h, bytes?_of_dirAt h']
    · exact bytes?_congr h'
  dirAt _ _ h := dirAt_of_put hd hn hollow hnew h

/-- A new directory on the way to a place touches no more than the place does. -/
theorem put_emptyDir_touches {t : FileTree} (free : t.LinkFree) {above place : List FileName}
    {name : FileName} (hd : t.DirAt above) (hnone : t.find? (above ++ [name]) = none)
    (hp : above ++ [name] <+: place) (hne : above ++ [name] ≠ place) :
    Touches [place] t (t.put (above ++ [name]) (some (.dir []))) := by
  have hn : ¬ t.DirAt (above ++ [name]) := by
    rintro ⟨entries, he⟩
    rw [hnone] at he
    cases he
  have hself : ∀ q, q = above ++ [name] → (t.put (above ++ [name]) (some (.dir []))).DirAt q := by
    rintro q rfl
    obtain ⟨entries, he⟩ := hd
    exact ⟨[], t.find?_put_self _ above name entries he⟩
  have cases := find?_put_cases hd hn hollow_emptyDir
  constructor
  case linkFree =>
    intro q target h
    rcases cases q with ⟨-, h'⟩ | ⟨-, -, entries, h'⟩ | ⟨-, h'⟩
    · exact hollow_emptyDir.2 target (h'.symm.trans h)
    · cases h'.symm.trans h
    · exact free q target (h'.symm.trans h)
  case find?_eq =>
    intro q hq
    have hq := hq _ List.mem_cons_self
    rcases cases q with ⟨h', -⟩ | ⟨h', -, -⟩ | ⟨-, h'⟩
    · exact absurd (h' ▸ hp) hq.2
    · exact absurd ((h'.trans (List.prefix_append _ _)).trans hp) hq.2
    · exact h'
  case bytes?_eq =>
    intro q hq
    rcases cases q with ⟨h', -⟩ | ⟨-, h, h'⟩ | ⟨-, h'⟩
    · rw [bytes?_of_dirAt (hself q h'), bytes?_of_find?_none (h' ▸ hnone)]
    · rw [bytes?_of_dirAt h, bytes?_of_dirAt h']
    · exact bytes?_congr h'
  case dirAt =>
    rintro q hq ⟨entries, h⟩
    rcases cases q with ⟨h', -⟩ | ⟨-, h', -⟩ | ⟨-, h'⟩
    · subst h'
      exact absurd (hq _ List.mem_cons_self hp) hne
    · exact h'
    · exact ⟨entries, h'.symm.trans h⟩

end FileTree

end HybridGraphics
