import HybridGraphics.Fragment
import HybridGraphics.Proofs.Pci.Address
import HybridGraphics.Proofs.System.Rehearsal

/-!
# A fragment and what it was generated for

The fragment that makes a card primary is recognised by comparing whole texts, so that it is current
for just the cards and machines that it would be generated for again. The text tells these apart
(`outputClassText_inj`): the ids have a fixed width, the address can be told from its text, and the
architecture stands between constants, so that it may be any string.

That the file holds this text after it was written, and is missing after it was removed, is so in
every tree, whatever links lead to it (`HybridGraphics.Proofs.FileTree.Written`).
-/

namespace HybridGraphics.Fragment

open Pci (Address Device)

variable {σ : Type} {config : Config} {f : Fragment} {w : World σ}

/-! ## What the text tells -/

/-- What the fragment tells of a card: not whether it is the primary one, nor its connectors. -/
def SameCard (device other : Device) : Prop :=
  device.vendor = other.vendor ∧ device.model = other.model ∧ device.address = other.address

instance (device other : Device) : Decidable (SameCard device other) :=
  inferInstanceAs (Decidable (_ ∧ _))

/-- The fragments for two cards have the same text just if they are for the same card and the same
architecture. -/
theorem outputClassText_inj {triplet triplet' : String} {device device' : Device} :
    outputClassText triplet device = outputClassText triplet' device' ↔
      triplet = triplet' ∧ SameCard device device' := by
  constructor
  · intro h
    have hcolon : ∀ n, ':' ∉ Text.hexPadded 4 n := Text.not_mem_hexPadded (by decide) 4
    have hblank : ∀ n, ' ' ∉ Text.hexPadded 4 n := Text.not_mem_hexPadded (by decide) 4
    have hat : " at ".toList = ' ' :: "at ".toList := rfl
    simp only [outputClassText, List.append_assoc, List.cons_append, List.nil_append,
      List.append_right_inj, hat] at h
    -- cut after the vendor, after the model and after the address
    obtain ⟨hvendor, h⟩ := Text.append_cons_inj (hcolon _) (hcolon _) h
    obtain ⟨hmodel, h⟩ := Text.append_cons_inj (hblank _) (hblank _) h
    rw [List.append_right_inj] at h
    obtain ⟨haddress, h⟩ := Text.append_cons_inj (Address.newline_not_mem_xorgChars _)
      (Address.newline_not_mem_xorgChars _) h
    simp only [List.append_right_inj, List.append_left_inj] at h
    exact ⟨String.toList_inj.mp h, UInt16.toNat_inj.mp (Text.hexPadded_injective 4 hvendor),
      UInt16.toNat_inj.mp (Text.hexPadded_injective 4 hmodel),
      Address.xorgChars_injective haddress⟩
  · rintro ⟨rfl, hvendor, hmodel, haddress⟩
    unfold outputClassText
    rw [hvendor, hmodel, haddress]

/-! ## What is found on disk -/

/-- A fragment that was written reads as its text. -/
theorem readText_of_write {text : List Char} (h : (write config f text w).1 = .ok ()) :
    (write config f text w).2.tree.readText (f.file config) = .ok text := by
  simp only [write, Act.bind_apply] at h ⊢
  generalize (Act.info s!"Writing {(f.file config).text}" w).2 = w1 at h ⊢
  cases hr : (Act.writeText (f.file config) text w1).1 with
  | ok _ => exact FileTree.readText_eq_ok_iff.mpr (Act.read_of_writeText hr)
  | error cause =>
    rw [hr] at h
    cases h

/-- Removing a fragment is removing its file. -/
theorem remove_eq (config : Config) (f : Fragment) (w : World σ) :
    (remove config f w).1 = (Act.removeFile (f.file config) w).1.mapError (.remove (f.file config)) ∧
      (remove config f w).2.tree = (Act.removeFile (f.file config) w).2.tree := by
  simp only [remove, Act.bind_apply]
  match (Act.removeFile (f.file config) w).1 with
  | .ok true => exact ⟨rfl, rfl⟩
  | .ok false => exact ⟨rfl, rfl⟩
  | .error _ => exact ⟨rfl, rfl⟩

/-- Where a fragment is removed, so was its file, and with the same answer. -/
theorem removeFile_ok_of_remove {wasThere : Bool} (h : (remove config f w).1 = .ok wasThere) :
    (Act.removeFile (f.file config) w).1 = .ok wasThere := by
  rw [(remove_eq config f w).1] at h
  cases hr : (Act.removeFile (f.file config) w).1 with
  | ok found =>
    rw [hr] at h
    cases h
    rfl
  | error cause =>
    rw [hr] at h
    cases h

/-- A fragment that was removed is missing, whatever it is compared with. -/
theorem state_of_remove {wasThere : Bool} (h : (remove config f w).1 = .ok wasThere)
    (expected : Option (List Char)) :
    (state config f expected (remove config f w).2.tree).value = .missing := by
  rw [value_state, stateOf_eq_missing_iff, (remove_eq config f w).2]
  unfold FileTree.readText
  rw [Act.read_of_removeFile (removeFile_ok_of_remove h)]
  rfl

/-- A fragment that was removed is not there to be removed again. -/
theorem remove_again {wasThere : Bool} (h : (remove config f w).1 = .ok wasThere) :
    (remove config f (remove config f w).2).1 = .ok false := by
  have hagain := Act.removeFile_again (removeFile_ok_of_remove h) (remove_eq config f w).2
  rw [(remove_eq config f _).1, hagain]
  rfl

/-- A fragment that reads as text can be removed. -/
theorem remove_of_readText {text : List Char} (h : w.tree.readText (f.file config) = .ok text) :
    (remove config f w).1 = .ok true := by
  have hslash : (f.file config).endsInSlash = false := by cases f <;> rfl
  rw [(remove_eq config f w).1,
    Act.removeFile_of_read hslash (FileTree.readText_eq_ok_iff.mp h)]
  rfl

/-! ## Recognising a fragment -/

/-- A fragment that was written for a card is current for this card and this architecture, and stale
for any other, as it is if there is no card to generate it for. It is there to be removed, and where
a fragment was removed, or was not there, it is missing for every card, and removing it again
succeeds and says that it was not there. -/
theorem output_class_recognised {triplet : String} {device : Device}
    (h : (writeOutputClass config triplet device w).1 = .ok ()) :
    (∀ triplet' device',
      (outputClassState config triplet' (some device')
          (writeOutputClass config triplet device w).2.tree).value =
        if triplet = triplet' ∧ SameCard device device' then .current else .stale) ∧
    (∀ triplet', (outputClassState config triplet' none
        (writeOutputClass config triplet device w).2.tree).value = .stale) ∧
    (remove config outputClass (writeOutputClass config triplet device w).2).1 = .ok true ∧
    ∀ (w' : World σ) (wasThere : Bool), (remove config outputClass w').1 = .ok wasThere →
      (∀ triplet' discrete, (outputClassState config triplet' discrete
          (remove config outputClass w').2.tree).value = .missing) ∧
      (remove config outputClass (remove config outputClass w').2).1 = .ok false := by
  have hread := readText_of_write h
  refine ⟨fun triplet' device' => ?_, fun triplet' => ?_, remove_of_readText hread,
    fun w' wasThere hremoved => ⟨fun triplet' discrete => ?_, remove_again hremoved⟩⟩
  · unfold outputClassState
    rw [value_state, writeOutputClass, hread]
    simp only [stateOf, Option.map_some, Option.some.injEq, eq_comm (a := outputClassText triplet' _),
      outputClassText_inj]
  · unfold outputClassState
    rw [value_state, writeOutputClass, hread]
    rfl
  · exact state_of_remove hremoved _

namespace Laptop

/-- The fragment is a link to a file that was edited by hand. -/
def linked : World Unit :=
  { tree := ⟨[("m", .dir [("edited", HybridGraphics.Laptop.file "# edited\n"),
      ("xorg.conf.d", .dir [("11-nvidia-prime.conf", .link "../edited")])])]⟩
    system := () }

def nvidiaCard : Device := { vendor := 0x10de, model := 0x1f91, address := ⟨0, 1, 0, 0⟩ }

end Laptop

/-- The fragment is written through the link, recognised for the same card with a display attached, and
for no other machine or address. What is removed then is the link. -/
theorem output_class_recognised_linked :
    ∃ w : World Unit,
      writeOutputClass Laptop.config "x86_64-linux-gnu" Laptop.nvidiaCard Laptop.linked =
        (.ok (), w) ∧
      (outputClassState Laptop.config "x86_64-linux-gnu"
        (some { Laptop.nvidiaCard with outputs := .connected }) w.tree).value = .current ∧
      (outputClassState Laptop.config "i386-linux-gnu" (some Laptop.nvidiaCard) w.tree).value =
        .stale ∧
      (outputClassState Laptop.config "x86_64-linux-gnu"
        (some { Laptop.nvidiaCard with address := ⟨1, 0, 0, 0⟩ }) w.tree).value = .stale ∧
      (remove Laptop.config outputClass w).1 = .ok true ∧
      (outputClassState Laptop.config "x86_64-linux-gnu" (some Laptop.nvidiaCard)
        (remove Laptop.config outputClass w).2.tree).value = .missing ∧
      (remove Laptop.config outputClass (remove Laptop.config outputClass w).2).1 = .ok false := by
  have hwritten : (writeOutputClass Laptop.config "x86_64-linux-gnu" Laptop.nvidiaCard
      Laptop.linked).1 = .ok () := eq_ok_of_toOption (by decide +kernel)
  obtain ⟨hcards, -, hremoved, hgone⟩ := output_class_recognised hwritten
  obtain ⟨hmissing, hagain⟩ := hgone _ _ hremoved
  exact ⟨_, Prod.ext hwritten rfl, (hcards _ _).trans (if_pos (by decide)),
    (hcards _ _).trans (if_neg (by decide)), (hcards _ _).trans (if_neg (by decide)), hremoved,
    hmissing _ _, hagain⟩

end HybridGraphics.Fragment
