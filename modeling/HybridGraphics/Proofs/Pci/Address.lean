import HybridGraphics.Pci.Address
import HybridGraphics.Proofs.Text.Cuts
import HybridGraphics.Proofs.Text.Numeral

/-!
# Addresses and their texts

An address can be told from either of its forms. The form that names a device directory reads back
(`parse?_text`). There is no reader for the form of the X server's configuration, but its numbers
stand between separators that are no digits, so that equal texts are cut at the same places
(`xorgChars_injective`).
-/

namespace HybridGraphics.Pci.Address

/-- Blanks around a text make no difference to how it is read. -/
theorem parse?_surrounded {before after : List Char} (hbefore : ∀ c ∈ before, Text.isBlank c = true)
    (hafter : ∀ c ∈ after, Text.isBlank c = true) (text : List Char) :
    parse? (before ++ text ++ after) = parse? text := by
  unfold parse?
  rw [Text.trim_surrounded hbefore hafter]

/-- The text of an address reads back. -/
theorem parse?_text (a : Address) : parse? a.text.toList = some a := by
  have colon : ∀ width n, ':' ∉ Text.hexPadded width n := Text.not_mem_hexPadded (by decide)
  have dot : ∀ width n, '.' ∉ Text.hexPadded width n := Text.not_mem_hexPadded (by decide)
  have blank : ∀ width n, ∀ c ∈ Text.hexPadded width n, Text.isBlank c = false :=
    Text.forall_mem_hexPadded (by decide)
  have htext : a.text.toList = Text.hexPadded 4 a.domain.toNat ++ ':' :: (Text.hexPadded 2 a.bus.toNat
      ++ ':' :: (Text.hexPadded 2 a.slot.toNat ++ '.' :: Text.hexPadded 0 a.func.toNat)) := by
    simp [text, chars, Text.hex_eq_hexPadded]
  have hblank : ∀ c ∈ a.text.toList, Text.isBlank c = false := by
    intro c hc
    rw [htext] at hc
    simp only [List.mem_append, List.mem_cons] at hc
    rcases hc with hc | rfl | hc | rfl | hc | rfl | hc
    all_goals first | exact blank _ _ _ hc | decide
  have htrim : Text.trim a.text.toList = a.text.toList :=
    Text.trim_eq_self (fun c hc => hblank c (List.mem_of_mem_head? hc))
      (fun c hc => hblank c (List.mem_of_getLast? hc))
  unfold parse?
  rw [htrim, htext]
  simp only [Text.splitAtFirst_append_cons _ _ (colon _ _),
    Text.splitAtFirst_append_cons _ _ (dot _ _), Option.bind_eq_bind, Option.bind_some,
    ofFields?, Text.readHex16?_hexPadded, Text.readHex8?_hexPadded]

/-- Addresses of one text are one address. -/
theorem text_injective : Function.Injective text := by
  intro a b h
  have hread := parse?_text a
  rw [h, parse?_text] at hread
  exact (Option.some.inj hread).symm

/-- The form of the X server's configuration fits on one line. -/
theorem newline_not_mem_xorgChars (a : Address) : '\n' ∉ a.xorgChars := by
  have hnumber : ∀ n, '\n' ∉ Text.decimal n := Text.not_mem_decimal (by decide)
  simp [xorgChars, hnumber]

/-- Addresses of one text in the X server's configuration are one address. -/
theorem xorgChars_injective : Function.Injective xorgChars := by
  intro a b h
  have hat : ∀ n, '@' ∉ Text.decimal n := Text.not_mem_decimal (by decide)
  have hcolon : ∀ n, ':' ∉ Text.decimal n := Text.not_mem_decimal (by decide)
  have hcut : ∀ a : Address, a.xorgChars = "PCI:".toList ++ (Text.decimal a.bus.toNat
      ++ '@' :: (Text.decimal a.domain.toNat ++ ':' :: (Text.decimal a.slot.toNat
        ++ ':' :: Text.decimal a.func.toNat))) := by
    intro a
    simp [xorgChars]
  rw [hcut a, hcut b] at h
  obtain ⟨hbus, h⟩ := Text.append_cons_inj (hat _) (hat _) (List.append_cancel_left h)
  obtain ⟨hdomain, h⟩ := Text.append_cons_inj (hcolon _) (hcolon _) h
  obtain ⟨hslot, hfunc⟩ := Text.append_cons_inj (hcolon _) (hcolon _) h
  have hdomain := UInt16.toNat_inj.mp (Text.decimal_injective hdomain)
  have hbus := UInt8.toNat_inj.mp (Text.decimal_injective hbus)
  have hslot := UInt8.toNat_inj.mp (Text.decimal_injective hslot)
  have hfunc := UInt8.toNat_inj.mp (Text.decimal_injective hfunc)
  cases a
  cases b
  cases hdomain
  cases hbus
  cases hslot
  cases hfunc
  rfl

end HybridGraphics.Pci.Address
