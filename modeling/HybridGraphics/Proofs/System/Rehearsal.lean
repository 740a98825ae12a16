import HybridGraphics.Config
import HybridGraphics.Proofs.World.Frame
import HybridGraphics.System.Rehearsal

/-!
# What a rehearsed system does

A rehearsed system leaves the files alone, so the general results on runs hold of it.

The laptop at the end has an Intel card and an NVIDIA one, laid out beneath one directory.
It is what the statements about runs are tried on.
-/

namespace HybridGraphics

variable {σ : Type}

/-! ## Files -/

/-- Whatever the system is asked to do, the files and the programs stay as they are. -/
def Actions.KeepsFiles (actions : Actions σ) : Prop :=
  actions.Keep fun w w' => w'.tree = w.tree ∧ w'.programs = w.programs

theorem Actions.Keep.mono {R R' : World σ → World σ → Prop} {actions : Actions σ}
    (h : actions.Keep R) (hR : ∀ {w w'}, R w w' → R' w w') : actions.Keep R' where
  load name parameters := (h.load name parameters).mono hR
  unload name := (h.unload name).mono hR
  listing := h.listing.mono hR
  available name := (h.available name).mono hR
  versioned name := (h.versioned name).mono hR
  terminate servers user := (h.terminate servers user).mono hR
  write file value := (h.write file value).mono hR
  px script mode := (h.px script mode).mono hR

/-- Actions that keep off the files touch no place at all. -/
theorem Actions.KeepsFiles.touchesOnly {actions : Actions σ} (h : actions.KeepsFiles)
    (places : List (List FileName)) : actions.Keep (Act.TouchesOnly places) :=
  h.mono fun hw => ⟨hw.2, fun free => by rw [hw.1]; exact .refl free⟩

/-- A rehearsed system keeps off the files. -/
theorem Rehearsal.actions_keepsFiles : Rehearsal.actions.KeepsFiles := by
  constructor <;> intros <;> intro w <;> exact ⟨rfl, rfl⟩

/-- Keeping a history changes nothing about the files. -/
theorem Actions.KeepsFiles.recorded {actions : Actions σ} (h : actions.KeepsFiles) :
    actions.recorded.KeepsFiles where
  load name parameters _ := h.load name parameters _
  unload name _ := h.unload name _
  listing _ := h.listing _
  available name _ := h.available name _
  versioned name _ := h.versioned name _
  terminate servers user _ := h.terminate servers user _
  write file value _ := h.write file value _
  px script mode _ := h.px script mode _

/-! ## A laptop -/

instance decidableEqExcept {ε α : Type} [DecidableEq ε] [DecidableEq α] :
    DecidableEq (Except ε α)
  | .ok a, .ok b => decidable_of_iff (a = b) (by rw [Except.ok.injEq])
  | .error a, .error b => decidable_of_iff (a = b) (by rw [Except.error.injEq])
  | .ok _, .error _ => isFalse (by simp)
  | .error _, .ok _ => isFalse (by simp)

theorem eq_ok_of_toOption {ε α : Type} {x : Except ε α} {a : α} (h : x.toOption = some a) :
    x = .ok a := by
  cases x with
  | ok b => rw [Option.some.inj h]
  | error cause => cases h

namespace Laptop

/-- Everything lies beneath one directory, and the cards are taken from a listing. -/
def config : Config :=
  { Config.rootedAt "/m" with
    deviceListing := some { base := "/m", names := ["lspci"] }
    requiresOffloading := some true }

def file (text : String) : Node := .file (Text.encode text.toList) .forbidden

/-- A laptop with an Intel card, which is the primary one, and an NVIDIA one. -/
def tree (policy : String) : FileTree :=
  ⟨[("m", .dir [("lspci", file "8086:3e9b;0000:00:02:0;1\n10de:1f91;0000:01:00:0;0\n"),
    ("prime-discrete", file policy)])]⟩

def world (policy : String) (loaded : List String) : World (Recorded Rehearsal) :=
  { tree := tree policy, system := { system := { loaded, available := ["nvidia"] } } }

end Laptop

end HybridGraphics
