import HybridGraphics.Proofs.FileTree.Written
import HybridGraphics.Proofs.Run.Rehearsed
import HybridGraphics.Proofs.Run.Survey
import Mathlib.Data.List.Infix

/-!
# A file of its own

What one run leaves in a file for the next one is safe only if nothing else touches the file.
`Owned` says so of a run and one of the files that it writes: the system's actions leave the file as
it is, and so do the package manager and everything that the run writes for another purpose. What is
asked for is that the file reads as before, and only in worlds of some kind, which is kept
throughout. So paths may lead through links, as long as they do not lead to the file.

From that it follows what each stage of a run does to the file. Finding the cards and asking about
the drivers spare it (`Owned.survey`, `Owned.driverStates`), and an effect that is about another
file does so too (`Owned.attempt`).

Paths that are apart are one way for a file to be owned: `owned_of_writesApart` says that every file
of a machine without links is, if the way to it is clear.
-/

namespace HybridGraphics

open Act (Frame Keeps Edits)

variable {σ : Type}

/-! ## Sparing a file -/

/-- From a world of the kind it leads to another one, and the file reads as before. -/
def Spares (Kind : World σ → Prop) (p : Path) (w w' : World σ) : Prop :=
  Kind w → Kind w' ∧ w'.tree.read p = w.tree.read p

/-- From a world of the kind it leads to another one. -/
def Remains (Kind : World σ → Prop) (w w' : World σ) : Prop := Kind w → Kind w'

section Frames

variable {Kind : World σ → Prop} (alike : ∀ {w w' : World σ}, w.Alike w' → Kind w → Kind w')

include alike

theorem Spares.of_alike {p : Path} {w w' : World σ} (h : w.Alike w') : Spares Kind p w w' :=
  fun hk => ⟨alike h hk, by rw [h.tree]⟩

/-- Steps that spare a file can be chained, and reporting spares it. -/
theorem Spares.frame (p : Path) : Frame (Spares Kind p) where
  refl _ hk := ⟨hk, rfl⟩
  trans h h' hk := by
    obtain ⟨hk', hread⟩ := h hk
    obtain ⟨hk'', hread'⟩ := h' hk'
    exact ⟨hk'', hread'.trans hread⟩
  report _ _ := .of_alike alike ⟨rfl, rfl, rfl⟩

theorem Remains.frame : Frame (Remains Kind) where
  refl _ hk := hk
  trans h h' hk := h' (h hk)
  report _ _ := alike ⟨rfl, rfl, rfl⟩

end Frames

/-! ## Owned files -/

/-- Whatever a run asks the system for keeps the relation. -/
structure Actions.KeepRequested (R : World σ → World σ → Prop) (config : Config)
    (actions : Actions σ) : Prop extends Run.DriverSteps R actions where
  load : ∀ name, Keeps R (actions.loadModule name none)
  unload : ∀ name, Keeps R (actions.unloadModule name)
  terminate : Keeps R (actions.terminateSession config.displayServers config.sessionUser)
  control : ∀ device value,
    Keeps R (actions.writeAttribute (RuntimePm.controlFile config device) value)
  px : ∀ setting, Keeps R (actions.runPxScript config.pxScript setting)

/-- What every action keeps is kept by those that a run asks for. -/
theorem Actions.Keep.requested {R : World σ → World σ → Prop} {actions : Actions σ}
    (h : actions.Keep R) (config : Config) : actions.KeepRequested R config where
  listing := h.listing
  available := h.available
  versioned := h.versioned
  load name := h.load name none
  unload := h.unload
  terminate := h.terminate _ _
  control _ := h.write _
  px := h.px _

namespace Run

/-- In worlds of this kind, nothing in a run touches the file but what is meant for it. -/
structure Owned (config : Config) (actions : Actions σ) (file : WrittenFile)
    (Kind : World σ → Prop) : Prop where
  alike : ∀ {w w' : World σ}, w.Alike w' → Kind w → Kind w'
  /-- What is meant for the file may change it, but keeps to the kind. -/
  own : Edits (Remains Kind) (config.pathOf file)
  others : ∀ other, other ≠ file → Edits (Spares Kind (config.pathOf file)) (config.pathOf other)
  /-- The snapshot of this boot is meant for the file only if that is a snapshot itself. -/
  newSnapshot : file ≠ .snapshot → Edits (Spares Kind (config.pathOf file)) config.newSnapshot
  requested : actions.KeepRequested (Spares Kind (config.pathOf file)) config
  packageManager : config.architecture = none →
    Keeps (Spares Kind (config.pathOf file)) (Act.call "dpkg" ["--print-architecture"])

namespace Owned

variable {config : Config} {actions : Actions σ} {file : WrittenFile} {Kind : World σ → Prop}
  {triplet : String}

theorem frame (h : Owned config actions file Kind) : Frame (Spares Kind (config.pathOf file)) :=
  Spares.frame h.alike _

/-- Finding the cards does not touch the file. -/
theorem survey (h : Owned config actions file Kind) :
    Keeps (Spares Kind (config.pathOf file)) (survey config : Act σ _) :=
  survey_keeps h.frame config h.packageManager

/-- Nor does asking about the drivers. -/
theorem driverStates (h : Owned config actions file Kind) (devices : List Pci.Device) :
    Keeps (Spares Kind (config.pathOf file)) (driverStates config actions devices) :=
  driverStates_keeps h.frame h.requested.toDriverSteps devices

/-- Gathering does not touch the file, if it is no snapshot. -/
theorem gatherSteps (h : Owned config actions file Kind) (hfile : file ≠ .snapshot) :
    GatherSteps (Spares Kind (config.pathOf file)) config actions where
  toDriverSteps := h.requested.toDriverSteps
  last := (h.others .snapshot hfile.symm).write
  new := (h.newSnapshot hfile).write

/-- The steps of an effect that is about another file do not touch the file. -/
theorem effectSteps (h : Owned config actions file Kind) {e : Effect} (he : e.file? ≠ some file) :
    EffectSteps (Spares Kind (config.pathOf file)) config actions e := by
  have hother : ∀ other, e.file? = some other →
      Edits (Spares Kind (config.pathOf file)) (config.pathOf other) := fun other ho =>
    h.others other fun heq => he (heq ▸ ho)
  cases e with
  | writeOutputClass device => exact hother (.fragment .outputClass) rfl
  | writeServerLayout => exact hother (.fragment .serverLayout) rfl
  | removeFragment f => exact hother (.fragment f) rfl
  | loadModule name => exact h.requested.load name
  | unloadNvidiaStack =>
    exact ⟨h.requested.listing, fun name _ => h.requested.unload name, h.requested.terminate⟩
  | setRuntimePm device enabled eligibility onBus =>
    exact ⟨h.requested.control device, hother .runtimePmSnippet rfl⟩
  | persistPolicy policy => exact hother .policy rfl
  | setOffloadingMarker required => exact hother .marker rfl
  | runPxScript setting => exact h.requested.px setting

/-- An effect that is about another file does not touch the file, done or not. -/
theorem attempt (h : Owned config actions file Kind) (triplet : String) {e : Effect}
    (he : e.file? ≠ some file) :
    Keeps (Spares Kind (config.pathOf file)) (attempt config actions triplet e) :=
  attempt_keeps h.frame triplet (h.effectSteps he)

/-- Nor does a list of such effects, with its fall back. -/
theorem carryOutFrom (h : Owned config actions file Kind) (hfile : ∀ f, file ≠ .fragment f)
    (triplet : String) (decided : Mode) {effects : List Effect}
    (he : ∀ e ∈ effects, e.file? ≠ some file) (mode : Mode) :
    Keeps (Spares Kind (config.pathOf file))
      (carryOutFrom (Run.attempt config actions triplet) (fallBack config) decided mode effects) :=
  carryOutFrom_keeps h.frame
    (fallBack_keeps h.frame fun f => h.others (.fragment f) (hfile f).symm) decided effects mode
    fun e hm => h.attempt triplet (he e hm)

end Owned

/-! ## Paths that are apart -/

/-- Nothing is in the way of a file: no links, no file where a directory is to be, and no directory
in its own place. The package manager overwrites no file. -/
structure ClearWay (config : Config) (p : Path) (w : World σ) : Prop where
  linkFree : w.tree.LinkFree
  above : ∀ q, q <+: p.place → q ≠ p.place → w.tree.bytes? q = none
  notDir : ¬ w.tree.DirAt p.place
  quiet : Quiet config w

/-- Whether the way is clear can be checked, where the package manager is not asked. -/
theorem ClearWay.of_check {config : Config} {p : Path} {w : World σ}
    (free : Node.areLinkFree w.tree.entries = true)
    (above : ∀ q ∈ p.place.inits, q ≠ p.place → w.tree.bytes? q = none)
    (notDir : ¬ w.tree.DirAt p.place) (architecture : config.architecture.isSome = true) :
    ClearWay config p w where
  linkFree := FileTree.linkFree_of_check free
  above q hq := above q ((List.mem_inits q p.place).mpr hq)
  notDir := notDir
  quiet hnone := by
    rw [hnone] at architecture
    cases architecture

end Run

namespace FileTree

/-- Where the way is clear, a walk fails only because something is missing. -/
theorem follow_clear {t : FileTree} (free : t.LinkFree)
    (atLink : List FileName → List FileName → Except Fault (List FileName)) :
    ∀ (components here : List FileName) {cause : Fault}, ".." ∉ components →
      (∀ n ∈ Path.named components, n.utf8ByteSize ≤ Path.maxNameBytes) →
      (∀ q, q <+: here ++ Path.named components → t.bytes? q = none) →
      t.follow atLink .look here components = .error cause → cause = .notFound
  | [], here, cause, _, _, _, h => by cases h
  | name :: rest, here, cause, down, hlen, hclear, h => by
    have hname : name ≠ ".." := fun he => down (he ▸ List.mem_cons_self)
    have more : ".." ∉ rest := fun hm => down (List.mem_cons_of_mem _ hm)
    simp only [follow, hname, reduceCtorEq, decide_false, Bool.false_and, Bool.and_false,
      Bool.or_false, Bool.false_eq_true, if_false] at h
    split at h
    next hidle =>
      rw [Path.named_cons_idle hidle] at hlen hclear
      exact follow_clear free atLink rest here more hlen hclear h
    next hidle =>
      rw [Path.named_cons_name (Bool.eq_false_iff.mpr hidle)] at hlen hclear
      have hsplit : here ++ name :: Path.named rest = (here ++ [name]) ++ Path.named rest := by simp
      rw [hsplit] at hclear
      rw [if_neg (Nat.not_lt.mpr (hlen name List.mem_cons_self))] at h
      split at h
      next =>
        split at h
        next => cases h
        next =>
          cases h
          rfl
      next =>
        exact follow_clear free atLink rest _ more
          (fun n hn => hlen n (List.mem_cons_of_mem _ hn)) hclear h
      next content runnable hf =>
        have hnone := hclear (here ++ [name]) (List.prefix_append _ _)
        rw [bytes?_eq_some_iff.mpr ⟨runnable, hf⟩] at hnone
        cases hnone
      next target hl => exact absurd hl (free _ target)

end FileTree

namespace Run

open HybridGraphics.Path (Walkable EndsInName)

variable {config : Config} {p : Path} {w w' : World σ}

/-- Where the way is clear, reading comes to the bytes of the file, or finds none. -/
theorem ClearWay.read_eq (h : ClearWay config p w) (down : p.Descends) (walkable : p.Walkable)
    (ends : EndsInName p.route) :
    w.tree.read p = match w.tree.bytes? p.place with
      | some content => .ok content
      | none => .error .notFound := by
  cases hb : w.tree.bytes? p.place with
  | some content =>
    exact (FileTree.read_eq_ok_iff h.linkFree down).mpr ⟨walkable, ends, hb⟩
  | none =>
    have hclear : ∀ q, q <+: [] ++ Path.named p.route → w.tree.bytes? q = none := by
      intro q hq
      by_cases hp : q = p.place
      · rw [hp]
        exact hb
      · exact h.above q hq hp
    have hlook : w.tree.locate .look p = w.tree.follow (w.tree.locateWithin .look 39) .look []
        p.route := by
      unfold FileTree.locate
      rw [walkable.1]
      rfl
    unfold FileTree.read FileTree.entry
    cases hl : w.tree.locate .look p with
    | error cause =>
      have hcause : cause = .notFound :=
        FileTree.follow_clear h.linkFree _ p.route [] down walkable.2 hclear (hlook ▸ hl)
      rw [hcause]
      rfl
    | ok place =>
      -- neither a file, nor a directory, nor a link is there
      have hplace := FileTree.locate_eq h.linkFree down hl
      simp only [bind, Except.bind]
      cases hf : w.tree.find? place with
      | none => rfl
      | some node =>
        rw [hplace] at hf
        cases node with
        | file content runnable =>
          rw [FileTree.bytes?_eq_some_iff.mpr ⟨runnable, hf⟩] at hb
          cases hb
        | link target => exact absurd hf (h.linkFree _ target)
        | dir entries => exact absurd ⟨entries, hf⟩ h.notDir

/-- Changes about one place, be it the file's own or apart from it, keep the way clear. -/
theorem ClearWay.touches (h : ClearWay config p w) {place : List FileName}
    (hp : place = p.place ∨ FileTree.Apart place p.place)
    (ht : w.tree.Touches [place] w'.tree) (hprograms : w'.programs = w.programs) :
    ClearWay config p w' where
  linkFree := ht.linkFree
  above q hq hne := by
    refine (ht.bytes?_eq q fun hm => ?_).trans (h.above q hq hne)
    rcases hp with hp | hp
    · exact hne ((List.mem_singleton.mp hm).trans hp)
    · exact hp.1 (List.mem_singleton.mp hm ▸ hq)
  notDir hd := by
    refine h.notDir (ht.dirAt _ (fun s hs hpre => ?_) hd)
    rw [List.mem_singleton.mp hs] at hpre ⊢
    rcases hp with hp | hp
    · exact hp.symm
    · exact absurd hpre hp.2
  quiet := h.quiet.congr hprograms

/-- Changes apart from the file spare it. -/
theorem spares_of_touches (down : p.Descends) (walkable : p.Walkable) (ends : EndsInName p.route)
    {place : List FileName} (hp : FileTree.Apart place p.place) {w w' : World σ}
    (h : Act.TouchesOnly [place] w w') : Spares (ClearWay config p) p w w' := by
  intro hk
  have ht := h.2 hk.linkFree
  have hk' := hk.touches (.inr hp) ht h.1
  refine ⟨hk', ?_⟩
  rw [hk.read_eq down walkable ends, hk'.read_eq down walkable ends, ht.bytes?_eq]
  exact fun hm => hp.ne (List.mem_singleton.mp hm).symm

/-- On a machine without links, on which what a run writes is apart, each file is owned as long as
the way to it is clear. -/
theorem owned_of_writesApart {actions : Actions σ} (hc : config.WritesApart)
    (ha : actions.KeepsFiles) {file : WrittenFile} (walkable : (config.pathOf file).Walkable)
    (ends : EndsInName (config.pathOf file).route) :
    Owned config actions file (ClearWay config (config.pathOf file)) := by
  have down := hc.descends file
  have hsame : ∀ {w w' : World σ}, w'.tree = w.tree → w'.programs = w.programs →
      Spares (ClearWay config (config.pathOf file)) (config.pathOf file) w w' := by
    intro w w' ht hprograms hk
    refine ⟨⟨?_, ?_, ?_, hk.quiet.congr hprograms⟩, by rw [ht]⟩
    · rw [ht]
      exact hk.linkFree
    · rw [ht]
      exact hk.above
    · rw [ht]
      exact hk.notDir
  have hedits : ∀ {q : Path}, q.Descends → q.Apart (config.pathOf file) →
      Edits (Spares (ClearWay config (config.pathOf file)) (config.pathOf file) :
        World σ → World σ → Prop) q := fun hq hp =>
    (Act.edits_touchesOnly hq).mono fun h => spares_of_touches down walkable ends hp h
  constructor
  case alike => exact fun h hk => (hsame h.tree h.programs hk).1
  case own =>
    exact (Act.edits_touchesOnly down).mono fun h hk =>
      hk.touches (.inl rfl) (h.2 hk.linkFree) h.1
  case others => exact fun other hne => hedits (hc.descends other) (hc.apart other file hne)
  case newSnapshot => exact fun hne => hedits hc.descendsNew (hc.apart_newSnapshot hne)
  case requested => exact (ha.mono fun h => hsame h.1 h.2).requested config
  case packageManager =>
    intro hnone w hk
    have hcall := call_alike hk.quiet hnone
    exact hsame hcall.tree hcall.programs hk

end Run

end HybridGraphics
