import HybridGraphics.Actions

/-!
# The table of loaded modules

A module is loaded if its name is the first word of a line in the kernel's
table. The whole word counts: `nvidia_drm` does not make `nvidia` loaded.
-/

namespace HybridGraphics.KernelModule

/-- The first word of each line that has one. -/
def listedNames (listing : List Char) : List (List Char) :=
  (Text.lines listing).filterMap fun line => (Text.words line).head?

/-- True if the table lists the module. -/
def listed (listing : String) (name : String) : Bool :=
  (listedNames listing.toList).contains name.toList

theorem listed_iff (listing name : String) :
    listed listing name = true ↔ name.toList ∈ listedNames listing.toList := by
  unfold listed
  exact List.contains_iff_mem

variable {σ : Type}

/-- True if the module is loaded, as far as the table can be read. -/
def isLoaded (actions : Actions σ) (name : String) : Act σ Bool := do
  match ← actions.moduleListing with
  | .ok listing => return listed listing name
  | .error cause =>
    Act.warn s!"unable to read the module listing: {cause.message}"
    return false

end HybridGraphics.KernelModule
