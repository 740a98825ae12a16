import HybridGraphics.Proofs.Decision.Course
import HybridGraphics.Proofs.Run.Prepare
import HybridGraphics.Proofs.System.Rehearsal

/-!
# What a run writes

Every effect is about one file at most (`Effect.file?`), and gathering is about the
snapshot. These are the places a run can touch, in the sense of `FileTree.Touches`, as
long as the system's actions leave the files alone (`Actions.KeepsFiles`), as those of a
rehearsed system do. The lemmas here bound the changes of each stage of a run:
`gather_touches`, `attempt_touches` and `execute_touches`.
-/

namespace HybridGraphics

open Act (Keeps Edits TouchesOnly)

variable {σ : Type}

/-! ## Effects -/

/-- The place that an effect may change, if it has one. -/
def Effect.places (config : Config) (e : Effect) : List (List FileName) :=
  e.file?.toList.map fun file => (config.pathOf file).place

namespace Run

variable {config : Config} {actions : Actions σ}

/-- Writing or removing a file touches its own place alone. -/
theorem edits_pathOf (hc : config.WritesApart) (file : WrittenFile) :
    Edits (TouchesOnly [(config.pathOf file).place] : World σ → World σ → Prop)
      (config.pathOf file) :=
  Act.edits_touchesOnly (hc.descends file)

/-- The steps of an effect touch only the place of its file, if the system keeps off the files. -/
theorem effectSteps_touchesOnly (hc : config.WritesApart) (ha : actions.KeepsFiles)
    (e : Effect) : EffectSteps (TouchesOnly (e.places config)) config actions e := by
  cases e with
  | writeOutputClass device => exact edits_pathOf hc (.fragment .outputClass)
  | writeServerLayout => exact edits_pathOf hc (.fragment .serverLayout)
  | removeFragment f => exact edits_pathOf hc (.fragment f)
  | loadModule name => exact (ha.touchesOnly _).load name none
  | unloadNvidiaStack =>
    have ha := ha.touchesOnly (Effect.places config .unloadNvidiaStack)
    exact ⟨ha.listing, fun name _ => ha.unload name, ha.terminate _ _⟩
  | setRuntimePm device enabled eligibility onBus =>
    exact ⟨(ha.touchesOnly _).write _, edits_pathOf hc .runtimePmSnippet⟩
  | persistPolicy policy => exact edits_pathOf hc .policy
  | setOffloadingMarker required => exact edits_pathOf hc .marker
  | runPxScript setting => exact (ha.touchesOnly _).px _ _

theorem attempt_touches (hc : config.WritesApart) (ha : actions.KeepsFiles) (triplet : String)
    (e : Effect) : Keeps (TouchesOnly (e.places config)) (attempt config actions triplet e) :=
  attempt_keeps (TouchesOnly.frame _) triplet (effectSteps_touchesOnly hc ha e)

/-- Of the files that a run writes, the places of an effect are those that it is about. -/
theorem file?_of_mem_places (hc : config.WritesApart) {e : Effect} {file : WrittenFile}
    (h : (config.pathOf file).place ∈ e.places config) : e.file? = some file := by
  obtain ⟨other, hother, hplace⟩ := List.mem_map.mp h
  rw [Option.mem_toList] at hother
  by_cases hf : other = file
  · rw [← hf]
    exact hother
  · exact absurd hplace (hc.apart other file hf).ne

/-- An effect about another file leaves a file as it is. -/
theorem attempt_bytes?_of_ne (hc : config.WritesApart) (ha : actions.KeepsFiles)
    (triplet : String) {e : Effect} {w : World σ} (free : w.tree.LinkFree) {file : WrittenFile}
    (hf : e.file? ≠ some file) :
    (attempt config actions triplet e w).2.tree.bytes? (config.pathOf file).place =
      w.tree.bytes? (config.pathOf file).place :=
  ((attempt_touches hc ha triplet e w).2 free).bytes?_eq _ fun hm => hf (file?_of_mem_places hc hm)

/-- The places that carrying a decision out may change. -/
def writtenPlaces (config : Config) : List (List FileName) :=
  WrittenFile.all.map fun file => (config.pathOf file).place

theorem mem_writtenPlaces (config : Config) (file : WrittenFile) :
    (config.pathOf file).place ∈ writtenPlaces config :=
  List.mem_map_of_mem file.mem_all

/-- Carrying a decision out touches only the places that are written. -/
theorem execute_touches (hc : config.WritesApart) (ha : actions.KeepsFiles) (triplet : String)
    (d : Decision) : Keeps (TouchesOnly (writtenPlaces config)) (execute config actions triplet d) := by
  have hedits : ∀ file, Edits (TouchesOnly (writtenPlaces config) : World σ → World σ → Prop)
      (config.pathOf file) := fun file =>
    (edits_pathOf hc file).mono fun h =>
      h.mono fun place hp => List.mem_singleton.mp hp ▸ mem_writtenPlaces config file
  have hattempt : ∀ e, Keeps (TouchesOnly (writtenPlaces config))
      (attempt config actions triplet e) := by
    intro e
    refine (attempt_touches hc ha triplet e).mono fun h => h.mono ?_
    intro place hp
    obtain ⟨file, -, rfl⟩ := List.mem_map.mp hp
    exact mem_writtenPlaces config file
  exact carryOutFrom_keeps (TouchesOnly.frame _)
    (fallBack_keeps (TouchesOnly.frame _) fun f => hedits (.fragment f)) d.mode d.effects d.mode
    fun e _ => hattempt e

/-! ## Gathering -/

/-- Gathering touches only the snapshots. -/
theorem gatherSteps_touchesOnly (hc : config.WritesApart) (ha : actions.KeepsFiles) :
    GatherSteps (TouchesOnly [config.lastSnapshot.place, config.newSnapshot.place]) config
      actions where
  last text := (Act.edits_touchesOnly (hc.descends .snapshot)).write text |>.mono fun h =>
    h.mono (by simp [Config.pathOf])
  new text := (Act.edits_touchesOnly hc.descendsNew).write text |>.mono fun h => h.mono (by simp)
  listing := (ha.touchesOnly _).listing
  available := (ha.touchesOnly _).available
  versioned := (ha.touchesOnly _).versioned

/-- Gathering the situation changes no file but the snapshots. -/
theorem gather_touches (hc : config.WritesApart) (ha : actions.KeepsFiles) (triplet : String) :
    Keeps (TouchesOnly [config.lastSnapshot.place, config.newSnapshot.place])
      (gather config actions triplet) :=
  gather_keeps (TouchesOnly.frame _) (gatherSteps_touchesOnly hc ha) triplet

/-- Preparing a run makes no link, and directories at most on the way to the snapshots. -/
theorem Prepared.linkFree_and_dirAt (hc : config.WritesApart) (ha : actions.KeepsFiles)
    {w w' : World σ} {triplet : String} {s : Situation}
    (h : Prepared config actions w triplet s w') (free : w.tree.LinkFree) :
    w'.tree.LinkFree ∧ ∀ q, (∀ p ∈ [config.lastSnapshot.place, config.newSnapshot.place],
      q <+: p → q = p) → w'.tree.DirAt q → w.tree.DirAt q := by
  obtain ⟨w0, w3, hw0, -, hg, halike⟩ := h.gathered
  have hcall := triplet_keeps Act.AddsNoDir.frame config.architecture
    (fun _ => Act.call_addsNoDir _ _) w0 (hw0.tree ▸ free)
  have hgather := (gather_touches hc ha triplet (Architecture.triplet config.architecture w0).2).2
    hcall.1
  rw [hg] at hgather
  rw [halike.tree]
  refine ⟨hgather.linkFree, fun q hq hd => ?_⟩
  rw [← hw0.tree]
  exact hcall.2 q (hgather.dirAt q hq hd)

/-- A prepared run makes no link, and no directory in place of a file that it writes. -/
theorem Prepared.run_noDir (hc : config.WritesApart) (ha : actions.KeepsFiles) {w w' : World σ}
    {triplet : String} {s : Situation} (h : Prepared config actions w triplet s w')
    (free : w.tree.LinkFree) {file : WrittenFile} (hfile : file ≠ .snapshot)
    (hdir : ¬ w.tree.DirAt (config.pathOf file).place) :
    (run config actions w).2.tree.LinkFree ∧
      ¬ (run config actions w).2.tree.DirAt (config.pathOf file).place := by
  obtain ⟨free', hdirs⟩ := h.linkFree_and_dirAt hc ha free
  have htouch := (execute_touches hc ha triplet (Decision.decide s) w').2 free'
  rw [h.run_eq]
  refine ⟨htouch.linkFree, fun hd => hdir (hdirs _ ?_ (htouch.dirAt _ ?_ hd))⟩
  · intro place hmem hpre
    simp only [List.mem_cons, List.not_mem_nil, or_false] at hmem
    rcases hmem with rfl | rfl
    · exact absurd hpre (hc.apart .snapshot file hfile.symm).2
    · exact absurd hpre (hc.apart_newSnapshot hfile).2
  · intro place hmem hpre
    obtain ⟨other, -, rfl⟩ := List.mem_map.mp hmem
    by_cases hother : other = file
    · rw [hother]
    · exact absurd hpre (hc.apart other file hother).2

end Run

end HybridGraphics
