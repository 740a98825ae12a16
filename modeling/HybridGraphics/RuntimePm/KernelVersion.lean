import HybridGraphics.Text.Numeral
import HybridGraphics.Text.Pieces

/-!
# Kernel versions

A kernel's release begins with its version: three numbers between dots, and more
that does not matter. Runtime D3 came with version 4.18.
-/

namespace HybridGraphics.RuntimePm

structure KernelVersion where
  major : Nat
  minor : Nat
  patch : Nat
  deriving DecidableEq, Repr

namespace KernelVersion

/-- Reads the version at the start of a release, up to the first character that is
neither digit nor dot. -/
def ofRelease? (release : List Char) : Option KernelVersion :=
  let version := release.takeWhile fun c => c.isDigit || c = '.'
  match Text.pieces (· == '.') version with
  | major :: minor :: patch :: _ => do
    let major ← Text.read? 10 0xff major
    let minor ← Text.read? 10 0xff minor
    let patch ← Text.read? 10 0xffff patch
    some { major, minor, patch }
  | _ => none

/-- The first version with runtime D3. -/
def firstWithRuntimeD3 : KernelVersion := ⟨4, 18, 0⟩

/-- True if the first version is not older than the second. -/
def atLeast (a b : KernelVersion) : Bool :=
  b.major < a.major
    || (a.major == b.major && (b.minor < a.minor || (a.minor == b.minor && b.patch ≤ a.patch)))

end KernelVersion

end HybridGraphics.RuntimePm
