import HybridGraphics.KernelModule.Unload
import HybridGraphics.Proofs.System.Rehearsal
import HybridGraphics.Proofs.Text.Lines
import HybridGraphics.Proofs.World.History

/-!
# The modules of a rehearsed system

The table of a rehearsed system is faithful if it can be read, begins with its first
module and has a line for each. Then a name is in the table exactly if the module is
loaded (`shows_iff`).

A step that only asks is a function of the system and the tree: `Act.Answers`. A step that
drives modules changes the system, but not in everything: `Rehearsal.Drifts` says that at
most the NVIDIA driver and its companions come or go, and that what the system answers
besides is the same.
-/

namespace HybridGraphics

open KernelModule (nvidiaStack)

variable {α β : Type}

namespace Rehearsal

/-! ## Faithful tables -/

/-- The table of loaded modules can be read, and each of its lines is a module's. -/
structure Faithful (r : Rehearsal) : Prop where
  reads : r.listingFails = false
  plain : r.listingStart = ""
  named : ∀ name ∈ r.loaded, name.toList.any Text.isBlank = false

instance (r : Rehearsal) : Decidable r.Faithful :=
  decidable_of_iff (r.listingFails = false ∧ r.listingStart = "" ∧
      ∀ name ∈ r.loaded, name.toList.any Text.isBlank = false)
    ⟨fun ⟨h1, h2, h3⟩ => ⟨h1, h2, h3⟩, fun ⟨h1, h2, h3⟩ => ⟨h1, h2, h3⟩⟩

/-- No character of a loaded module's name is blank. -/
theorem Faithful.not_blank {r : Rehearsal} (h : r.Faithful) {name : String}
    (hn : name ∈ r.loaded) : ∀ c ∈ name.toList, Text.isBlank c = false := by
  intro c hc
  exact Bool.eq_false_iff.mpr (List.any_eq_false.mp (h.named name hn) c hc)

/-- True if the table can be read and lists the module. -/
def shows (r : Rehearsal) (name : String) : Bool :=
  !r.listingFails && KernelModule.listed r.listing name

/-- What stands in a line after the module's name. -/
def afterName : List Char := " 16384 0 - Live 0x0000000000000000".toList

/-- The first word of a module's line is its name. -/
theorem words_line {name : List Char} (hn : ∀ c ∈ name, Text.isBlank c = false) (hne : name ≠ []) :
    (Text.words (name ++ afterName)).head? = some name := by
  have hcut := Text.pieces_append_cons Text.isBlank ' ' (by decide)
    "16384 0 - Live 0x0000000000000000".toList name hn
  unfold Text.words
  rw [show name ++ afterName = name ++ ' ' :: "16384 0 - Live 0x0000000000000000".toList from rfl,
    hcut, List.filter_cons_of_pos (by simpa using hne)]
  rfl

/-- The table's lines, cut where they end. -/
theorem lines_table (names : List (List Char))
    (hn : ∀ name ∈ names, ∀ c ∈ name, Text.isBlank c = false) :
    Text.lines (names.flatMap fun name => name ++ afterName ++ ['\n']) =
      names.map fun name => name ++ afterName := by
  have hlines : (names.flatMap fun name => name ++ afterName ++ ['\n']) =
      (names.map (· ++ afterName)).flatMap (· ++ ['\n']) := by
    rw [List.flatMap_map]
  have hplain : ∀ line ∈ names.map (· ++ afterName), '\n' ∉ line := by
    intro line hline hmem
    obtain ⟨name, hname, rfl⟩ := List.mem_map.mp hline
    rcases List.mem_append.mp hmem with hmem | hmem
    · have hb := hn name hname '\n' hmem
      revert hb
      decide
    · revert hmem
      decide
  have hend : ∀ name, Text.dropLastIf '\r' (name ++ afterName) = name ++ afterName := by
    intro name
    have hlast : (name ++ afterName).getLast? = some '0' := by
      rw [List.getLast?_append]
      rfl
    refine Text.dropLastIf_of_getLast? ?_
    rw [hlast]
    decide
  rw [hlines, Text.lines_unlined hplain, List.map_map]
  exact List.map_congr_left fun name _ => hend name

theorem toList_listing {r : Rehearsal} (h : r.listingStart = "") :
    r.listing.toList =
      (r.loaded.map String.toList).flatMap fun name => name ++ afterName ++ ['\n'] := by
  have hline : ∀ name, (listingLine name).toList = name.toList ++ afterName ++ ['\n'] := by
    intro name
    rw [listingLine, String.toList_append, List.append_assoc]
    rfl
  unfold listing
  rw [h, String.empty_append, String.toList_join, List.flatMap_map, List.flatMap_map]
  simp only [hline]

/-- A name is in the table exactly if the module is loaded. What stands in the place of a
module without a name is the size that its line goes on with. -/
theorem shows_iff {r : Rehearsal} (h : r.Faithful) {name : String} (hn : name ≠ "")
    (hsize : name ≠ "16384") : r.shows name = true ↔ name ∈ r.loaded := by
  have hnames : ∀ m ∈ r.loaded.map String.toList, ∀ c ∈ m, Text.isBlank c = false := by
    intro m hm
    obtain ⟨module, hmod, rfl⟩ := List.mem_map.mp hm
    exact h.not_blank hmod
  rw [shows, h.reads, Bool.not_false, Bool.true_and, KernelModule.listed_iff,
    KernelModule.listedNames, toList_listing h.plain, lines_table _ hnames, List.map_map,
    List.filterMap_map, List.mem_filterMap]
  constructor
  · rintro ⟨m, hm, hw⟩
    simp only [Function.comp_apply] at hw
    by_cases hempty : m = ""
    · subst hempty
      have hw : some "16384".toList = some name.toList := hw
      exact absurd (String.toList_inj.mp (Option.some.inj hw)).symm hsize
    · have hne : m.toList ≠ [] := fun he => hempty (String.toList_eq_nil_iff.mp he)
      rw [words_line (h.not_blank hm) hne] at hw
      rwa [← String.toList_inj.mp (Option.some.inj hw)]
  · intro hm
    have hne : name.toList ≠ [] := fun he => hn (String.toList_eq_nil_iff.mp he)
    exact ⟨name, hm, words_line (h.not_blank hm) hne⟩

end Rehearsal

/-! ## Steps that only ask -/

/-- The files, the programs and the system are as they were. -/
structure World.Still (w w' : World (Recorded Rehearsal)) : Prop where
  tree : w'.tree = w.tree
  programs : w'.programs = w.programs
  system : w'.system.system = w.system.system

theorem World.Still.frame : Act.Frame World.Still where
  refl _ := ⟨rfl, rfl, rfl⟩
  trans h h' :=
    ⟨h'.tree.trans h.tree, h'.programs.trans h.programs, h'.system.trans h.system⟩
  report _ _ := ⟨rfl, rfl, rfl⟩

theorem Rehearsal.systemFrame :
    Act.Frame fun w w' : World (Recorded Rehearsal) => w'.system.system = w.system.system where
  refl _ := rfl
  trans h h' := h'.trans h
  report _ _ := rfl

/-- The step changes neither files nor system, and yields what they say. -/
def Act.Answers (x : Act (Recorded Rehearsal) α) (f : Rehearsal → FileTree → α) : Prop :=
  ∀ w, (x w).1 = f w.system.system w.tree ∧ w.Still (x w).2

namespace Act.Answers

theorem pure (a : α) : Answers (Pure.pure a) fun _ _ => a :=
  fun w => ⟨rfl, World.Still.frame.refl w⟩

/-- A step may go on from what another yields, and what both yield is told by the same files and
system. -/
theorem bind {x : Act (Recorded Rehearsal) α} {g : α → Act (Recorded Rehearsal) β}
    {f : Rehearsal → FileTree → α} {h : α → Rehearsal → FileTree → β} (hx : Answers x f)
    (hg : ∀ a, Answers (g a) (h a)) : Answers (x >>= g) fun r t => h (f r t) r t := by
  intro w
  obtain ⟨hv, hs⟩ := hx w
  obtain ⟨hv', hs'⟩ := hg (x w).1 (x w).2
  rw [hs.system, hs.tree, hv] at hv'
  refine ⟨?_, World.Still.frame.trans hs hs'⟩
  rw [bind_apply, hv]
  exact hv'

/-- A line of the report says nothing. -/
theorem note_bind {level : Level} {text : String} {g : Unit → Act (Recorded Rehearsal) β}
    {h : Rehearsal → FileTree → β} (hg : Answers (g ()) h) : Answers (Act.note level text >>= g) h := by
  intro w
  obtain ⟨hv, hs⟩ := hg (Act.note level text w).2
  exact ⟨hv, hs.tree, hs.programs, hs.system⟩

theorem look (reader : FileTree → Noted α) : Answers (Act.look reader) fun _ t => (reader t).value :=
  fun _ => ⟨rfl, rfl, rfl, rfl⟩

theorem congr {x : Act (Recorded Rehearsal) α} {f f' : Rehearsal → FileTree → α}
    (hx : Answers x f) (h : ∀ r t, f r t = f' r t) : Answers x f' := by
  intro w
  rw [← h]
  exact hx w

end Act.Answers

open Act (Answers)

namespace Rehearsal

theorem listing_answers : Answers actions.recorded.moduleListing fun r _ =>
    if r.listingFails then .error (.refused "listing failed") else .ok r.listing :=
  fun _ => ⟨rfl, rfl, rfl, rfl⟩

theorem available_answers (name : String) :
    Answers (actions.recorded.moduleAvailable name) fun r _ => r.available.contains name :=
  fun _ => ⟨rfl, rfl, rfl, rfl⟩

theorem versioned_answers (name : String) :
    Answers (actions.recorded.moduleVersioned name) fun r _ => r.versioned.contains name :=
  fun _ => ⟨rfl, rfl, rfl, rfl⟩

/-- A module is loaded if the table shows it. -/
theorem isLoaded_answers (name : String) :
    Answers (KernelModule.isLoaded actions.recorded name) fun r _ => r.shows name := by
  refine (listing_answers.bind
    (h := fun listing _ _ => listing.toOption.any (KernelModule.listed · name))
    fun listing => ?_).congr fun r _ => ?_
  · cases listing with
    | ok listing => exact .pure _
    | error cause => exact .note_bind (.pure _)
  · unfold shows
    cases r.listingFails <;> rfl

/-- The first module of a stack that is listed is the first that is shown. -/
theorem firstListed_answers :
    ∀ stack : List String, Answers (KernelModule.firstListed actions.recorded stack) fun r _ =>
      stack.find? r.shows
  | [] => .pure none
  | name :: rest => by
    refine ((isLoaded_answers name).bind
      (h := fun loaded r _ => if loaded then some name else rest.find? r.shows)
      fun loaded => ?_).congr fun r _ => ?_
    · cases loaded with
      | true => exact .pure _
      | false => exact firstListed_answers rest
    · rw [List.find?_cons]
      cases r.shows name <;> rfl

/-! ## Steps that drive modules -/

/-- At most the NVIDIA driver and its companions have come or gone. -/
structure Drifts (r r' : Rehearsal) : Prop where
  listingFails : r'.listingFails = r.listingFails
  listingStart : r'.listingStart = r.listingStart
  available : r'.available = r.available
  versioned : r'.versioned = r.versioned
  writeFails : r'.writeFails = r.writeFails
  others : ∀ name, name ∉ nvidiaStack → (name ∈ r'.loaded ↔ name ∈ r.loaded)
  within : ∀ name ∈ r'.loaded, name ∈ r.loaded ∨ name = KernelModule.nvidia

namespace Drifts

theorem refl (r : Rehearsal) : Drifts r r :=
  ⟨rfl, rfl, rfl, rfl, rfl, fun _ _ => Iff.rfl, fun _ h => .inl h⟩

theorem trans {a b c : Rehearsal} (h : Drifts a b) (h' : Drifts b c) : Drifts a c where
  listingFails := h'.listingFails.trans h.listingFails
  listingStart := h'.listingStart.trans h.listingStart
  available := h'.available.trans h.available
  versioned := h'.versioned.trans h.versioned
  writeFails := h'.writeFails.trans h.writeFails
  others name hn := (h'.others name hn).trans (h.others name hn)
  within name hn := (h'.within name hn).elim (h.within name) .inr

theorem frame : Act.Frame fun w w' : World (Recorded Rehearsal) =>
    Drifts w.system.system w'.system.system where
  refl w := .refl w.system.system
  trans := .trans
  report w _ := .refl w.system.system

/-- The table stays reliable, since the driver's name is a proper one. -/
theorem faithful {r r' : Rehearsal} (h : Drifts r r') (hr : r.Faithful) : r'.Faithful where
  reads := h.listingFails.trans hr.reads
  plain := h.listingStart.trans hr.plain
  named name hn := by
    rcases h.within name hn with hn | rfl
    · exact hr.named name hn
    · decide

/-- Modules beside the driver and its companions are listed as before. -/
theorem shows_eq {r r' : Rehearsal} (h : Drifts r r') (hr : r.Faithful) {name : String}
    (hn : name ≠ "") (hsize : name ≠ "16384") (ho : name ∉ nvidiaStack) :
    r'.shows name = r.shows name := by
  rw [Bool.eq_iff_iff, shows_iff (h.faithful hr) hn hsize, shows_iff hr hn hsize, h.others name ho]

end Drifts

/-- Loading the driver brings no other module. -/
theorem load_drifts (r : Rehearsal) : Drifts r (r.load KernelModule.nvidia).2 := by
  unfold load
  split
  next => exact .refl r
  split
  next => exact .refl r
  next =>
    refine ⟨rfl, rfl, rfl, rfl, rfl, fun name hn => ?_, fun name hn => ?_⟩
    · have hne : name ≠ KernelModule.nvidia := fun he => hn (he ▸ by decide)
      simp [hne]
    · simpa using hn

/-- Unloading a module of the stack makes no other go. -/
theorem unload_drifts (r : Rehearsal) {name : String} (hn : name ∈ nvidiaStack) :
    Drifts r (r.unload name).2 := by
  unfold unload
  split
  next => exact .refl r
  split
  next => exact ⟨rfl, rfl, rfl, rfl, rfl, fun _ _ => Iff.rfl, fun _ h => .inl h⟩
  next =>
    refine ⟨rfl, rfl, rfl, rfl, rfl, fun other ho => ?_, fun other ho => ?_⟩
    · have hne : other ≠ name := fun he => ho (he ▸ hn)
      simp [List.mem_filter, hne]
    · exact .inl (List.mem_filter.mp ho).1

/-- Ending the session moves no module. -/
theorem terminate_drifts (r : Rehearsal) : Drifts r r.terminate.2 := by
  unfold terminate
  cases r.session with
  | some ended => exact ⟨rfl, rfl, rfl, rfl, rfl, fun _ _ => Iff.rfl, fun _ h => .inl h⟩
  | none => exact .refl r

/-- A module that was loaded is. -/
theorem mem_loaded_of_load {r : Rehearsal} {name : String} (h : (r.load name).1 = .ok ()) :
    name ∈ (r.load name).2.loaded := by
  unfold load at h ⊢
  split
  next hf =>
    rw [if_pos hf] at h
    cases h
  split
  next hl => simpa using hl
  next => simp

/-- A stack that was unloaded is not listed any more. -/
theorem not_shows_of_unloadStack {config : Config} {stack : List String}
    {w : World (Recorded Rehearsal)}
    (h : (KernelModule.unloadStack config actions.recorded stack w).1 = .ok ()) :
    ∀ name ∈ stack,
      (KernelModule.unloadStack config actions.recorded stack w).2.system.system.shows name =
        false := by
  have hpass : ∀ w : World (Recorded Rehearsal),
      (KernelModule.unloadInOrder actions.recorded stack w).1 = none →
        ∀ name ∈ stack,
          (KernelModule.unloadInOrder actions.recorded stack w).2.system.system.shows name =
            false := by
    intro w hnone name hn
    obtain ⟨hv, hs⟩ := firstListed_answers stack (KernelModule.unloadListed actions.recorded stack w).2
    have hnone : stack.find?
        (KernelModule.unloadListed actions.recorded stack w).2.system.system.shows = none :=
      hv.symm.trans hnone
    have hall := List.find?_eq_none.mp hnone name hn
    refine (congrArg (Rehearsal.shows · name) hs.system).trans ?_
    exact Bool.eq_false_iff.mpr hall
  unfold KernelModule.unloadStack at h ⊢
  simp only [Act.bind_apply] at h ⊢
  cases hfirst : (KernelModule.unloadInOrder actions.recorded stack w).1 with
  | none =>
    simp only [Act.pure_apply]
    exact hpass w hfirst
  | some pinned =>
    rw [hfirst] at h
    simp only [Act.bind_apply] at h ⊢
    generalize (Act.warn _ (KernelModule.unloadInOrder actions.recorded stack w).2).2 = w1 at h ⊢
    match hanswer : (actions.recorded.terminateSession config.displayServers config.sessionUser w1).1
      with
    | .error cause =>
      rw [hanswer] at h
      cases h
    | .ok false =>
      rw [hanswer] at h
      cases h
    | .ok true =>
      rw [hanswer] at h
      simp only [Act.bind_apply] at h ⊢
      generalize (actions.recorded.terminateSession config.displayServers config.sessionUser w1).2 =
        w2 at h ⊢
      cases hagain : (KernelModule.unloadInOrder actions.recorded stack w2).1 with
      | some name =>
        rw [hagain] at h
        cases h
      | none => exact hpass w2 hagain

end Rehearsal

end HybridGraphics
