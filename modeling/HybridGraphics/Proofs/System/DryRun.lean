import HybridGraphics.Proofs.KernelModule.Protocol
import HybridGraphics.Proofs.System.Rehearsal
import HybridGraphics.Proofs.Text.Lines
import HybridGraphics.System.Host

/-!
# A dry run on the host

In a dry run the actions that would change the machine only pretend: they answer and report, and leave
the rest of the world as it is, whatever files and programs there are (`Host.Pretends`). Only ending
the display session may fail even so (`Host.terminateSession_eq_error_iff`).

What they pretend is consistent. A history of requests tells for each module whether it was left
unloaded, and the host has in mind just the modules that were (`Host.Reached.consistent`, by one
case for each action). So the table it shows consists of the lines of the table as it is, read again
each time, less those of the modules that were left unloaded (`Host.visibleListing_consistsOf`).

The unload protocol goes by that table. In a pass each module that is listed is hidden when it is
asked to be unloaded, and stays hidden, since a pass loads nothing (`Host.Fades`). So after the first
pass none is left, and the display session is never asked for.
-/

namespace HybridGraphics

open KernelModule (isLoaded listed listedNames unloadListed firstListed unloadInOrder unloadStack
  unloadWithRetry unloadNvidiaStack nvidiaStack)

/-! ## Histories -/

namespace Request

/-- True for the requests to load the module and those to unload it. -/
def drives (name : String) : Request → Bool
  | load other _ _ | unload other _ => other == name
  | _ => false

def isUnload : Request → Bool
  | unload _ _ => true
  | _ => false

/-- True if of the requests to load or unload the module the last is one to unload it. -/
def leftUnloaded (requests : List Request) (name : String) : Bool :=
  (requests.filter (drives name)).getLast?.any isUnload

/-- Only the last request for the module counts. -/
theorem leftUnloaded_append (requests : List Request) (q : Request) (name : String) :
    leftUnloaded (requests ++ [q]) name =
      if q.drives name then q.isUnload else leftUnloaded requests name := by
  unfold leftUnloaded
  rw [List.filter_append]
  split
  next h => rw [List.filter_cons_of_pos h, List.filter_nil, List.getLast?_concat, Option.any_some]
  next h => rw [List.filter_cons_of_neg h, List.filter_nil, List.append_nil]

end Request

/-- One of the actions leads from a world to another. -/
inductive Actions.Serves {σ : Type} (actions : Actions σ) (w : World σ) : World σ → Prop
  | load (name parameters) : Serves actions w (actions.loadModule name parameters w).2
  | unload (name) : Serves actions w (actions.unloadModule name w).2
  | listing : Serves actions w (actions.moduleListing w).2
  | available (name) : Serves actions w (actions.moduleAvailable name w).2
  | versioned (name) : Serves actions w (actions.moduleVersioned name w).2
  | terminate (servers user) : Serves actions w (actions.terminateSession servers user w).2
  | write (file value) : Serves actions w (actions.writeAttribute file value w).2
  | px (script mode) : Serves actions w (actions.runPxScript script mode w).2

/-- A relation that every action keeps holds between the worlds that one leads from and to. -/
theorem Actions.Keep.serves {σ : Type} {R : World σ → World σ → Prop} {actions : Actions σ}
    {w w' : World σ} (h : actions.Keep R) (hs : actions.Serves w w') : R w w' := by
  cases hs with
  | load name parameters => exact h.load name parameters w
  | unload name => exact h.unload name w
  | listing => exact h.listing w
  | available name => exact h.available name w
  | versioned name => exact h.versioned name w
  | terminate servers user => exact h.terminate servers user w
  | write file value => exact h.write file value w
  | px script mode => exact h.px script mode w

namespace Host

variable {α : Type} {config : Config}

/-- The worlds that a history of requests leads to on a host that starts out pretending nothing.
Between the requests anything may change but what the host pretends. -/
inductive Reached (config : Config) : World (Recorded Host) → Prop
  | start {w} (asked : w.system.requests = []) (plain : w.system.system.pretended = []) :
      Reached config w
  | served {w w'} (before : Reached config w) (serves : (actions config).recorded.Serves w w') :
      Reached config w'
  | elsewhere {w w'} (before : Reached config w) (asked : w'.system.requests = w.system.requests)
      (kept : w'.system.system.pretended = w.system.system.pretended) : Reached config w'

/-! ## Pretending -/

/-- The step yields this answer and changes nothing but the report and the modules that are pretended
to be gone. What it answers and reports is told by the host, whatever files and programs there are. -/
def Pretends (x : Act Host α) (answer : Host → α) (change : List String → List String) : Prop :=
  ∃ notes : Host → List Note, ∀ w, x w = (answer w.system,
    { w with
      report := w.report ++ notes w.system
      system := { w.system with pretended := change w.system.pretended } })

namespace Pretends

variable {answer : Host → α} {change : List String → List String}

theorem note_bind {level : Level} {text : String} {x : Act Host α} (h : Pretends x answer change) :
    Pretends (Act.note level text >>= fun _ => x) answer change := by
  obtain ⟨notes, hx⟩ := h
  refine ⟨fun host => ⟨level, text⟩ :: notes host, fun w => ?_⟩
  rw [Act.bind_apply, hx]
  simp only [Act.note_apply, List.append_assoc, List.singleton_append]

/-- What is done unless the run is dry is pretended in a dry run. -/
theorem unlessDry (hdry : config.dryRun = true) (what : String) {pretend : Host → Host}
    (hpretend : ∀ h, pretend h = { h with pretended := change h.pretended }) (pretended : α)
    (step : Act Host α) :
    Pretends (unlessDry config what pretend pretended step) (fun _ => pretended) change := by
  unfold Host.unlessDry
  rw [if_pos hdry]
  refine note_bind ⟨fun _ => [], fun w => ?_⟩
  rw [List.append_nil, ← hpretend]
  rfl

theorem pretended_eq {x : Act Host α} (h : Pretends x answer change) (w : World Host) :
    (x w).2.system.pretended = change w.system.pretended := by
  obtain ⟨notes, hx⟩ := h
  rw [hx]

end Pretends

/-- What a dry run has in mind once a module was unloaded. -/
def withGone (name : String) (gone : List String) : List String :=
  if gone.contains name then gone else gone ++ [name]

theorem mem_withGone {name other : String} {gone : List String} :
    other ∈ withGone name gone ↔ other = name ∨ other ∈ gone := by
  unfold withGone
  split
  next h =>
    have hmem : name ∈ gone := List.contains_iff_mem.mp h
    exact ⟨.inr, fun h => h.elim (fun he => he ▸ hmem) id⟩
  next => rw [List.mem_append, List.mem_singleton, or_comm]

section DryRun

variable (hdry : config.dryRun = true)
include hdry

theorem loadModule_pretends (name : String) (parameters : Option String) :
    Pretends (loadModule config name parameters) (fun _ => .ok ()) (·.filter (· != name)) :=
  .note_bind (.unlessDry hdry _ (fun _ => rfl) _ _)

/-- Unloading a module pretends that it is gone. -/
theorem unloadModule_pretends (name : String) :
    Pretends (unloadModule config name) (fun _ => .ok ()) (withGone name) := by
  refine .note_bind (.unlessDry hdry _ (fun h => ?_) _ _)
  unfold withGone
  split
  · rfl
  · rfl

/-- Whether there is a display session to end is told, and its process goes on. -/
theorem terminateSession_pretends (servers : List String) (user : String) :
    Pretends (terminateSession config servers user)
      (fun h => (h.session? servers user).map Option.isSome) id := by
  -- the report is the one that the host alone would give rise to
  refine ⟨fun host => (terminateSession config servers user { system := host }).2.report,
    fun w => ?_⟩
  simp only [terminateSession, Host.unlessDry, hdry, if_true, Act.bind_apply, Act.get_apply]
  cases w.system.session? servers user with
  | error cause =>
    simp only [Act.pure_apply, List.append_nil]
    rfl
  | ok found =>
    cases found with
    | none => rfl
    | some p =>
      simp only [Act.bind_apply, Act.info, Act.note_apply, List.append_assoc]
      rfl

theorem writeAttribute_pretends (file : Path) (value : String) :
    Pretends (writeAttribute config file value) (fun _ => .ok ()) id := by
  refine .note_bind (.unlessDry hdry _ (fun h => ?_) _ _)
  rfl

theorem runPxScript_pretends (script : Path) (mode : PxMode) :
    Pretends (runPxScript config script mode) (fun _ => .ok ()) id := by
  refine .note_bind (.unlessDry hdry _ (fun h => ?_) _ _)
  rfl

end DryRun

/-! ## What may fail -/

section Failures

variable {h : Host} {servers : List String} {user : String} {cause : Fault} {w : World Host}

theorem session?_eq_error_iff :
    h.session? servers user = .error cause ↔ h.processFault = some cause := by
  unfold session? running
  cases h.processFault with
  | none => exact iff_of_false (fun he => by cases he) fun he => by cases he
  | some fault => simp only [Except.map, Except.error.injEq, Option.some.injEq]

/-- A program that goes on when it is told to end is no failure. -/
theorem endProgram_eq_error_iff {p : RunningProgram} :
    (endProgram p w).1 = .error cause ↔ w.system.guarded.lookup p.id = some cause := by
  unfold endProgram
  rw [Act.bind_apply, Act.get_apply]
  cases w.system.guarded.lookup p.id with
  | some fault => simp only [Act.pure_apply, Except.error.injEq, Option.some.injEq]
  | none =>
    refine iff_of_false (fun he => ?_) fun he => by cases he
    simp only at he
    split at he
    · cases he
    · cases he

/-- Ending the display session fails where the running programs cannot be listed, and that even in a
dry run. Otherwise it fails where the display server may not be told to end. -/
theorem terminateSession_eq_error_iff :
    (terminateSession config servers user w).1 = .error cause ↔
      w.system.processFault = some cause ∨
        config.dryRun = false ∧ ∃ p, w.system.session? servers user = .ok (some p) ∧
          w.system.guarded.lookup p.id = some cause := by
  have hlisted : w.system.session? servers user = .error cause ↔ _ := session?_eq_error_iff
  rw [← hlisted]
  simp only [terminateSession, Act.bind_apply, Act.get_apply]
  cases w.system.session? servers user with
  | error fault =>
    simp only [Act.pure_apply, Except.error.injEq, reduceCtorEq, false_and, exists_false, and_false,
      or_false]
  | ok found =>
    cases found with
    | none =>
      refine iff_of_false (fun he => by cases he) fun he => ?_
      rcases he with he | ⟨-, p, he, -⟩ <;> cases he
    | some p =>
      simp only [Act.bind_apply, Act.info, Act.note_apply, unlessDry]
      cases config.dryRun with
      | true =>
        refine iff_of_false (fun he => by cases he) fun he => ?_
        rcases he with he | ⟨he, -⟩ <;> cases he
      | false =>
        simp only [Bool.false_eq_true, if_false, endProgram_eq_error_iff, reduceCtorEq, false_or,
          true_and, Except.ok.injEq, Option.some.injEq, exists_eq_left']

end Failures

/-! ## What is pretended is consistent -/

/-- The modules that are pretended to be gone are those that the history left unloaded. -/
def Consistent (w : World (Recorded Host)) : Prop :=
  ∀ name, name ∈ w.system.system.pretended ↔ Request.leftUnloaded w.system.requests name = true

/-- An action that changes what is pretended in the way that its request is counted. -/
theorem noting_consistent {request : α → Request} {serve : Act Host α}
    {change : List String → List String}
    (hserve : ∀ w, (serve w).2.system.pretended = change w.system.pretended)
    (hchange : ∀ answer gone name, name ∈ change gone ↔
      if (request answer).drives name then (request answer).isUnload = true else name ∈ gone) :
    Act.Keeps (fun w w' => Consistent w → Consistent w') (Actions.noting request serve) := by
  intro w h name
  let inner : World Host := { w with system := w.system.system }
  show name ∈ (serve inner).2.system.pretended ↔
    Request.leftUnloaded (w.system.requests ++ [request (serve inner).1]) name = true
  rw [hserve inner, hchange (serve inner).1, Request.leftUnloaded_append]
  split
  · rfl
  · exact h name

/-- An action that changes nothing that is pretended, where its request loads and unloads nothing. -/
theorem noting_consistent_of_eq {request : α → Request} {serve : Act Host α}
    (hserve : ∀ w, (serve w).2.system.pretended = w.system.pretended)
    (hrequest : ∀ answer name, (request answer).drives name = false) :
    Act.Keeps (fun w w' => Consistent w → Consistent w') (Actions.noting request serve) := by
  have hsame : ∀ w, (serve w).2.system.pretended = id w.system.pretended := hserve
  refine noting_consistent hsame fun answer gone name => ?_
  rw [hrequest answer name]
  exact Iff.rfl

/-- Whichever action a dry run takes, what it has in mind stays what the history left unloaded. -/
theorem actions_consistent (hdry : config.dryRun = true) :
    (actions config).recorded.Keep fun w w' => Consistent w → Consistent w' where
  load name parameters := by
    refine noting_consistent (loadModule_pretends hdry name parameters).pretended_eq ?_
    intro answer gone other
    by_cases hname : name = other
    · simp [Request.drives, Request.isUnload, hname]
    · simp [Request.drives, hname, Ne.symm hname]
  unload name := by
    refine noting_consistent (unloadModule_pretends hdry name).pretended_eq ?_
    intro answer gone other
    rw [mem_withGone]
    by_cases hname : name = other
    · simp [Request.drives, Request.isUnload, hname]
    · simp [Request.drives, hname, Ne.symm hname]
  listing := noting_consistent_of_eq (fun _ => rfl) fun _ _ => rfl
  available name := by
    refine noting_consistent_of_eq (fun w => ?_) fun _ _ => rfl
    show (moduleAvailable config name w).2.system.pretended = _
    unfold moduleAvailable
    cases config.moduleAvailable with
    | some available => rfl
    | none => exact congrArg Host.pretended (Act.call_system_eq "modinfo" [name] w)
  versioned name := by
    refine noting_consistent_of_eq (fun w => ?_) fun _ _ => rfl
    show (moduleVersioned config name w).2.system.pretended = _
    unfold moduleVersioned
    cases config.moduleVersioned with
    | true => rfl
    | false =>
      have hcall := Act.call_system_eq "modinfo" ["-F", "version", name] w
      simp only [Bool.false_eq_true, if_false, Act.bind_apply]
      cases (Act.call "modinfo" ["-F", "version", name] w).1 with
      | ok output => exact congrArg Host.pretended hcall
      | error cause => exact congrArg Host.pretended hcall
  terminate servers user :=
    noting_consistent_of_eq (terminateSession_pretends hdry servers user).pretended_eq
      fun _ _ => rfl
  write file value :=
    noting_consistent_of_eq (writeAttribute_pretends hdry file value).pretended_eq fun _ _ => rfl
  px script mode :=
    noting_consistent_of_eq (runPxScript_pretends hdry script mode).pretended_eq fun _ _ => rfl

/-- Whatever was asked, and whatever happened in between. -/
theorem Reached.consistent (hdry : config.dryRun = true) {w : World (Recorded Host)}
    (h : Reached config w) : Consistent w := by
  induction h with
  | start asked plain =>
    intro name
    rw [asked, plain]
    exact iff_of_false List.not_mem_nil Bool.false_ne_true
  | served before serves ih => exact (actions_consistent hdry).serves serves ih
  | elsewhere before asked kept ih =>
    intro name
    rw [asked, kept]
    exact ih name

/-! ## The table that is shown -/

/-- True for the lines that do not begin with the name of a module that is pretended to be gone. -/
def showsLine (h : Host) (line : List Char) : Bool :=
  (Text.words line).head?.all fun name => !h.pretended.contains (String.ofList name)

/-- Where something is pretended to be gone, the table is shown without its lines, and each of the
others ends in a newline. -/
theorem visibleListing_of_gone {h : Host} (hgone : h.pretended ≠ []) (text : List Char) :
    h.visibleListing text = ((Text.lines text).filter h.showsLine).flatMap (· ++ ['\n']) := by
  unfold visibleListing
  rw [if_neg (by rwa [List.isEmpty_iff])]
  refine congrArg (List.flatMap _) (List.filter_congr fun line _ => ?_)
  unfold showsLine
  dsimp only
  cases (Text.words line).head? with
  | none => rfl
  | some name => rfl

/-- Where nothing is pretended to be gone, the table is shown as it is. -/
theorem visibleListing_of_none {h : Host} (hnone : h.pretended = []) (text : List Char) :
    h.visibleListing text = text ∧ ∀ line, h.showsLine line = true := by
  refine ⟨?_, fun line => ?_⟩
  · unfold visibleListing
    rw [if_pos (by rw [hnone, List.isEmpty_nil])]
  · unfold showsLine
    rw [hnone]
    cases (Text.words line).head? with
    | none => rfl
    | some name => rfl

/-- Either way, the table that is shown consists of the lines of those modules that are not
pretended to be gone. -/
theorem visibleListing_consistsOf (h : Host) (text : List Char) :
    Text.ConsistsOf (h.visibleListing text) ((Text.lines text).filter h.showsLine) := by
  by_cases hgone : h.pretended = []
  · obtain ⟨htext, hall⟩ := visibleListing_of_none hgone text
    rw [htext, List.filter_eq_self.mpr fun line _ => hall line]
    exact Text.consistsOf_lines text
  · rw [visibleListing_of_gone hgone]
    exact Text.consistsOf_unlined _

/-- The lines that are shown are those left, less a carriage return at the end of each. -/
theorem lines_visibleListing_of_gone {h : Host} (hgone : h.pretended ≠ []) (text : List Char) :
    Text.lines (h.visibleListing text) =
      ((Text.lines text).filter h.showsLine).map (Text.dropLastIf '\r') := by
  rw [visibleListing_of_gone hgone]
  exact Text.lines_unlined fun line hline =>
    Text.newline_not_mem_lines (List.mem_of_mem_filter hline)

/-- What is shown is read as the lines that are left. A carriage return at the end of a line, besides
one of its line ending, would be taken for one of a line ending when lines are left out. -/
theorem lines_visibleListing (h : Host) {text : List Char}
    (hreturn : ∀ line ∈ Text.lines text, line.getLast? ≠ some '\r') :
    Text.lines (h.visibleListing text) = (Text.lines text).filter h.showsLine := by
  by_cases hgone : h.pretended = []
  · obtain ⟨htext, hall⟩ := visibleListing_of_none hgone text
    rw [htext, List.filter_eq_self.mpr fun line _ => hall line]
  · have hsame : ∀ line ∈ (Text.lines text).filter h.showsLine,
        Text.dropLastIf '\r' line = line := fun line hline =>
      Text.dropLastIf_of_getLast? (hreturn line (List.mem_of_mem_filter hline))
    rw [lines_visibleListing_of_gone hgone, List.map_congr_left hsame, List.map_id']

/-- A module is listed in what is shown just if the table lists it and it is not pretended to be
gone. -/
theorem listed_visibleListing_iff (h : Host) (text : List Char) (name : String) :
    listed (String.ofList (h.visibleListing text)) name = true ↔
      listed (String.ofList text) name = true ∧ name ∉ h.pretended := by
  rw [KernelModule.listed_iff, KernelModule.listed_iff, String.toList_ofList, String.toList_ofList]
  by_cases hgone : h.pretended = []
  · rw [(visibleListing_of_none hgone text).1, hgone]
    exact (and_iff_left List.not_mem_nil).symm
  · have hwords : ∀ line, ((fun line => (Text.words line).head?) ∘ Text.dropLastIf '\r') line =
        (Text.words line).head? := fun line =>
      congrArg List.head? (Text.dropLastIf_unseen (Text.words_append_blank (by decide)) line)
    unfold listedNames
    rw [lines_visibleListing_of_gone hgone, List.filterMap_map, List.mem_filterMap,
      List.mem_filterMap]
    simp only [hwords, List.mem_filter]
    have hshows : ∀ line, (Text.words line).head? = some name.toList →
        (h.showsLine line = true ↔ name ∉ h.pretended) := by
      intro line hname
      unfold showsLine
      rw [hname, Option.all_some, String.ofList_toList, Bool.not_eq_true', ← Bool.not_eq_true,
        List.contains_iff_mem]
    constructor
    · intro hshown
      obtain ⟨line, ⟨hline, hkept⟩, hname⟩ := hshown
      exact ⟨⟨line, hline, hname⟩, (hshows line hname).mp hkept⟩
    · intro hlisted
      obtain ⟨⟨line, hline, hname⟩, hpresent⟩ := hlisted
      exact ⟨line, ⟨hline, (hshows line hname).mpr hpresent⟩, hname⟩

/-- True for the lines that do not begin with the name of a module that the history left unloaded. -/
def keptAfter (requests : List Request) (line : List Char) : Bool :=
  (Text.words line).head?.all fun name => !Request.leftUnloaded requests (String.ofList name)

/-- Which lines a dry run shows is told by the history of requests alone. -/
theorem Consistent.showsLine_eq {w : World (Recorded Host)} (h : Consistent w) :
    w.system.system.showsLine = keptAfter w.system.requests := by
  funext line
  unfold showsLine keptAfter
  have hname : ∀ name, w.system.system.pretended.contains name =
      Request.leftUnloaded w.system.requests name := fun name => by
    rw [Bool.eq_iff_iff, List.contains_iff_mem]
    exact h name
  simp only [hname]

/-! ## The protocol on what is shown -/

/-- The table can be read and lists the module, and it is not pretended to be gone. -/
def Shown (config : Config) (w : World (Recorded Host)) (name : String) : Prop :=
  ∃ text, w.tree.readText config.moduleTable = .ok text ∧ listed (String.ofList text) name = true ∧
    name ∉ w.system.system.pretended

/-- The files are the same, and no module that was pretended to be gone is back. -/
structure Fades (w w' : World (Recorded Host)) : Prop where
  tree : w'.tree = w.tree
  gone : w.system.system.pretended ⊆ w'.system.system.pretended

theorem Fades.frame : Act.Frame Fades where
  refl _ := ⟨rfl, List.Subset.refl _⟩
  trans h h' := ⟨h'.tree.trans h.tree, List.Subset.trans h.gone h'.gone⟩
  report _ _ := ⟨rfl, List.Subset.refl _⟩

theorem Fades.not_shown {w w' : World (Recorded Host)} (h : Fades w w') {name : String}
    (hw : ¬ Shown config w name) : ¬ Shown config w' name := by
  intro hshown
  obtain ⟨text, hread, hlisted, hpresent⟩ := hshown
  rw [h.tree] at hread
  exact hw ⟨text, hread, hlisted, fun hmem => hpresent (h.gone hmem)⟩

theorem listing_answer (config : Config) (w : World (Recorded Host)) :
    ((actions config).recorded.moduleListing w).1 =
      (w.tree.readText config.moduleTable).map fun text =>
        String.ofList (w.system.system.visibleListing text) := rfl

theorem listing_fades : Act.Keeps Fades (actions config).recorded.moduleListing :=
  fun _ => ⟨rfl, List.Subset.refl _⟩

/-- Asking whether a module is loaded brings none back. -/
theorem isLoaded_fades (config : Config) (name : String) :
    Act.Keeps Fades (isLoaded (actions config).recorded name) := by
  refine listing_fades.bind Fades.frame fun answer => ?_
  cases answer with
  | ok listing => exact .pure Fades.frame _
  | error cause => exact (Act.Keeps.note Fades.frame _ _).bind Fades.frame fun _ => .pure Fades.frame _

/-- A module is taken to be loaded exactly if it is shown. -/
theorem isLoaded_iff (name : String) (w : World (Recorded Host)) :
    (isLoaded (actions config).recorded name w).1 = true ↔ Shown config w name := by
  unfold isLoaded Shown
  rw [Act.bind_apply, listing_answer]
  cases w.tree.readText config.moduleTable with
  | ok text =>
    have hvisible := listed_visibleListing_iff w.system.system text name
    constructor
    · intro h
      exact ⟨text, rfl, hvisible.mp h⟩
    · intro h
      obtain ⟨text', hsame, hshown⟩ := h
      cases hsame
      exact hvisible.mpr hshown
  | error cause =>
    constructor
    · intro h
      cases h
    · intro h
      obtain ⟨text, hread, -⟩ := h
      cases hread

theorem isLoaded_eq_false {name : String} {w : World (Recorded Host)} (h : ¬ Shown config w name) :
    (isLoaded (actions config).recorded name w).1 = false :=
  Bool.eq_false_iff.mpr (mt (isLoaded_iff name w).mp h)

/-- Unloading a module succeeds and hides it. -/
theorem unload_hides (hdry : config.dryRun = true) (name : String) (w : World (Recorded Host)) :
    ((actions config).recorded.unloadModule name w).1 = .ok () ∧
      Fades w ((actions config).recorded.unloadModule name w).2 ∧
      ¬ Shown config ((actions config).recorded.unloadModule name w).2 name := by
  obtain ⟨notes, hunload⟩ := unloadModule_pretends hdry name
  have hserved : (actions config).recorded.unloadModule name w =
      Actions.noting (.unload name) (unloadModule config name) w := rfl
  rw [hserved, Actions.noting, hunload]
  refine ⟨rfl, ⟨rfl, fun other hmem => mem_withGone.mpr (.inr hmem)⟩, fun hshown => ?_⟩
  obtain ⟨text, -, -, hpresent⟩ := hshown
  exact hpresent (mem_withGone.mpr (.inl rfl))

/-- A pass hides each module of the stack that is listed, and brings none back. -/
theorem unloadListed_hides (hdry : config.dryRun = true) :
    ∀ (stack : List String) (w : World (Recorded Host)),
      Fades w (unloadListed (actions config).recorded stack w).2 ∧
        ∀ name ∈ stack, ¬ Shown config (unloadListed (actions config).recorded stack w).2 name
  | [], w => ⟨Fades.frame.refl w, fun _ h => absurd h List.not_mem_nil⟩
  | name :: rest, w => by
    have hasked := isLoaded_fades config name w
    -- what is left to show, once the module's turn is over
    have hrest : ∀ w1, Fades w w1 → ¬ Shown config w1 name →
        Fades w (unloadListed (actions config).recorded rest w1).2 ∧ ∀ other ∈ name :: rest,
          ¬ Shown config (unloadListed (actions config).recorded rest w1).2 other := by
      intro w1 hfades hhidden
      obtain ⟨hmore, hothers⟩ := unloadListed_hides hdry rest w1
      exact ⟨Fades.frame.trans hfades hmore,
        List.forall_mem_cons.mpr ⟨hmore.not_shown hhidden, hothers⟩⟩
    unfold unloadListed
    rw [Act.bind_apply]
    cases hloaded : (isLoaded (actions config).recorded name w).1 with
    | false =>
      have hhidden : ¬ Shown config w name := fun hshown => by
        rw [(isLoaded_iff name w).mpr hshown] at hloaded
        cases hloaded
      exact hrest _ hasked (hasked.not_shown hhidden)
    | true =>
      obtain ⟨hanswer, hfades, hhidden⟩ :=
        unload_hides hdry name (isLoaded (actions config).recorded name w).2
      simp only [if_true, Act.bind_apply, hanswer]
      exact hrest _ (Fades.frame.trans hasked hfades) hhidden

/-- Where no module of the stack is shown, the look for one finds none. -/
theorem firstListed_of_hidden : ∀ (stack : List String) (w : World (Recorded Host)),
    (∀ name ∈ stack, ¬ Shown config w name) →
      (firstListed (actions config).recorded stack w).1 = none ∧
        Fades w (firstListed (actions config).recorded stack w).2
  | [], w, _ => ⟨rfl, Fades.frame.refl w⟩
  | name :: rest, w, h => by
    have hasked := isLoaded_fades config name w
    obtain ⟨hname, hothers⟩ := List.forall_mem_cons.mp h
    obtain ⟨hnone, hfades⟩ := firstListed_of_hidden rest _ fun other hother =>
      hasked.not_shown (hothers other hother)
    unfold firstListed
    rw [Act.bind_apply, isLoaded_eq_false hname]
    exact ⟨hnone, Fades.frame.trans hasked hfades⟩

/-- The step succeeds without asking for the display session to be ended, and then none of these
modules is loaded any more. -/
def Clears (config : Config) (stack : List String)
    (x : Act (Recorded Host) (Except KernelModule.Error Unit)) : Prop :=
  ∀ w, (x w).1 = .ok () ∧
    (∃ new, (x w).2.system.requests = w.system.requests ++ new ∧
      ∀ q ∈ new, q.isTerminate = false) ∧
    ∀ name ∈ stack, (isLoaded (actions config).recorded name (x w).2).1 = false

/-- In a dry run, unloading a stack leaves nothing of it to be seen, without a session having to be
ended. -/
theorem unloadStack_clears (hdry : config.dryRun = true) (stack : List String) :
    Clears config stack (unloadStack config (actions config).recorded stack) := by
  intro w
  obtain ⟨-, hhidden⟩ := unloadListed_hides hdry stack w
  obtain ⟨hnone, hfades⟩ := firstListed_of_hidden stack _ hhidden
  have hround : (unloadInOrder (actions config).recorded stack w).1 = none := hnone
  have hstack : unloadStack config (actions config).recorded stack w =
      (.ok (), (unloadInOrder (actions config).recorded stack w).2) := by
    unfold unloadStack
    rw [Act.bind_apply, hround]
    rfl
  obtain ⟨new, hnew, round⟩ := KernelModule.unloadInOrder_asks (actions config) stack w
  rw [hstack]
  exact ⟨rfl, ⟨new, hnew, round.not_terminate⟩, fun name hname =>
    isLoaded_eq_false (hfades.not_shown (hhidden name hname))⟩

/-- In a dry run the actions that would change the machine change nothing, whatever files and programs
there are: loading, unloading, writing and switching succeed, and of the display session it is only
told whether there is one. After every history the table that is shown consists of the lines of the
table as it is then, in order, less those that begin with the name of a module whose last request was
to be unloaded. So unloading the NVIDIA stack or any module succeeds without asking for the display
session, and they are not loaded then. -/
theorem dry_run_only_pretends (config : Config) (hdry : config.dryRun = true) :
    (∀ name parameters, Pretends (loadModule config name parameters) (fun _ => .ok ())
      (·.filter (· != name))) ∧
    (∀ name, Pretends (unloadModule config name) (fun _ => .ok ()) (withGone name)) ∧
    (∀ servers user, Pretends (terminateSession config servers user)
      (fun h => (h.session? servers user).map Option.isSome) id) ∧
    (∀ file value, Pretends (writeAttribute config file value) (fun _ => .ok ()) id) ∧
    (∀ script mode, Pretends (runPxScript config script mode) (fun _ => .ok ()) id) ∧
    (∀ w, Reached config w → ∀ text, w.tree.readText config.moduleTable = .ok text →
      ∃ listing, ((actions config).recorded.moduleListing w).1 = .ok (String.ofList listing) ∧
        Text.ConsistsOf listing ((Text.lines text).filter (keptAfter w.system.requests)) ∧
        ((∀ line ∈ Text.lines text, line.getLast? ≠ some '\r') →
          Text.lines listing = (Text.lines text).filter (keptAfter w.system.requests))) ∧
    Clears config nvidiaStack (unloadNvidiaStack config (actions config).recorded) ∧
    ∀ name, Clears config [name] (unloadWithRetry config (actions config).recorded name) := by
  refine ⟨loadModule_pretends hdry, unloadModule_pretends hdry, terminateSession_pretends hdry,
    writeAttribute_pretends hdry, runPxScript_pretends hdry, fun w hw text hread => ?_,
    unloadStack_clears hdry nvidiaStack, fun name => unloadStack_clears hdry [name]⟩
  rw [listing_answer, hread, ← (hw.consistent hdry).showsLine_eq]
  exact ⟨_, rfl, visibleListing_consistsOf _ text, lines_visibleListing _⟩

namespace Laptop

def dryConfig : Config := { HybridGraphics.Laptop.config with dryRun := true }

/-- The NVIDIA driver is listed after a blank, with a companion that its name begins. -/
def table : String := "nvidia_drm 69632 4 - Live\n\tnvidia 35282944 1 nvidia_drm\ni915 2334720 0"

/-- The driver was unloaded in a dry run. -/
def driverGone : World (Recorded Host) :=
  ((actions dryConfig).recorded.unloadModule "nvidia"
    { tree := ⟨[("m", .dir [("modules", HybridGraphics.Laptop.file table)])]⟩
      system := { system := {} } }).2

end Laptop

/-- The companion is still shown, and when the stack is unloaded it is no longer. -/
theorem dry_run_only_pretends_laptop :
    (∃ listing, ((actions Laptop.dryConfig).recorded.moduleListing Laptop.driverGone).1 =
        .ok (String.ofList listing) ∧
      Text.lines listing =
        ["nvidia_drm 69632 4 - Live".toList, "i915 2334720 0".toList]) ∧
    (unloadNvidiaStack Laptop.dryConfig (actions Laptop.dryConfig).recorded
      Laptop.driverGone).1 = .ok () ∧
    (isLoaded (actions Laptop.dryConfig).recorded "nvidia_drm"
      (unloadNvidiaStack Laptop.dryConfig (actions Laptop.dryConfig).recorded
        Laptop.driverGone).2).1 = false := by
  obtain ⟨-, -, -, -, -, hlisting, hstack, -⟩ := dry_run_only_pretends Laptop.dryConfig rfl
  have hread : Laptop.driverGone.tree.readText Laptop.dryConfig.moduleTable =
      .ok Laptop.table.toList := eq_ok_of_toOption (by decide +kernel)
  obtain ⟨listing, hanswer, -, hlines⟩ :=
    hlisting Laptop.driverGone (.served (.start rfl rfl) (.unload "nvidia")) _ hread
  obtain ⟨hok, -, hgone⟩ := hstack Laptop.driverGone
  exact ⟨⟨listing, hanswer, (hlines (by decide +kernel)).trans (by decide +kernel)⟩, hok,
    hgone "nvidia_drm" (by decide)⟩

end Host

end HybridGraphics
