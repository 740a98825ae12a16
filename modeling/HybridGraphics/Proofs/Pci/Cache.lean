import HybridGraphics.Pci.ConfigSpace

/-!
# Configuration space through the cache

Bytes of configuration space are read ahead and kept, so what a query costs depends on the
queries before it. What it answers does not, if the source gives all the bytes it is asked
for: a byte can be had exactly if the content holds it (`byte?_yields`).

`Mirrors` is the invariant behind that. The cache is how the content begins, and it lacks
nothing of the header that the content has. Growing the cache keeps it (`growTo_mirrors`).
`Yields content x a` says of a reading that from every such cache it comes to `a` and to such
a cache again; readings are put together by `Yields.bind`, so what a whole walk yields follows
from what single bytes yield.
-/

namespace HybridGraphics.Pci.ConfigSpace

variable {α β : Type} {content : Bytes} {s : ConfigSpace}

/-- What was read so far of a source that gives every byte of this content that it is asked for. -/
structure Mirrors (content : Bytes) (s : ConfigSpace) : Prop where
  source : s.source = { content }
  cached : s.cache <+: content
  /-- A cache shorter than the header holds all there is. -/
  header : s.cache.length < headerSize → s.cache = content

/-! ## Growing the cache -/

/-- Doubling reaches every size up to that of configuration space. -/
theorem le_sizeFor_of_le {held need : Nat} (h : need ≤ configSize) : need ≤ sizeFor held need := by
  have hstart : headerSize ≤ max held headerSize := Nat.le_max_right _ _
  have hfour : configSize = 4 * headerSize := rfl
  unfold sizeFor
  refine Nat.le_min.mpr ⟨?_, h⟩
  split
  · assumption
  · split <;> omega

/-- Whatever the source, growing that succeeds leaves as many bytes as were asked for. -/
theorem le_length_growTo {need : Nat} (h : (growTo need s).value.1 = true) :
    need ≤ (growTo need s).value.2.cache.length := by
  unfold growTo at h ⊢
  by_cases hheld : need ≤ s.cache.length
  · rw [if_pos hheld]
    exact hheld
  · rw [if_neg hheld] at h ⊢
    by_cases hsize : sizeFor s.cache.length need < need
    · rw [if_pos hsize] at h
      cases h
    · rw [if_neg hsize] at h ⊢
      cases hread : s.source.readAt s.cache.length (sizeFor s.cache.length need - s.cache.length) with
      | ok more =>
        rw [hread] at h
        exact of_decide_eq_true h
      | error why =>
        rw [hread] at h
        cases h

/-- A source without limits gives what there is. -/
theorem readAt_complete (content : Bytes) (offset count : Nat) :
    ConfigSource.readAt { content } offset count = .ok ((content.drop offset).take count) := rfl

/-- A cache that mirrors the content, after one more read. -/
theorem Mirrors.append (h : Mirrors content s) (count : Nat) :
    Mirrors content { s with cache := s.cache ++ (content.drop s.cache.length).take count } := by
  obtain ⟨rest, hrest⟩ := h.cached
  have hdrop : content.drop s.cache.length = rest := by
    rw [← hrest, List.drop_left]
  rw [hdrop]
  refine ⟨h.source, ?_, fun hshort => ?_⟩
  · rw [← hrest]
    exact (List.prefix_append_right_inj _).mpr (List.take_prefix _ _)
  · have hheld : s.cache.length < headerSize := by
      rw [List.length_append] at hshort
      omega
    have hall := h.header hheld
    have hnone : rest = [] := List.self_eq_append_right.mp (hall.trans hrest.symm)
    rw [hnone, List.take_nil, List.append_nil]
    exact hall

/-- Growing succeeds exactly if the content has that many bytes, and what is read is kept. -/
theorem growTo_mirrors (h : Mirrors content s) (need : Nat) (hneed : need ≤ configSize) :
    (growTo need s).value.1 = decide (need ≤ content.length) ∧
      Mirrors content (growTo need s).value.2 := by
  have hlen : s.cache.length ≤ content.length := h.cached.length_le
  unfold growTo
  by_cases hheld : need ≤ s.cache.length
  · rw [if_pos hheld]
    exact ⟨(decide_eq_true (Nat.le_trans hheld hlen)).symm, h⟩
  · have hsize : need ≤ sizeFor s.cache.length need := le_sizeFor_of_le hneed
    rw [if_neg hheld, if_neg (Nat.not_lt.mpr hsize), h.source, readAt_complete]
    refine ⟨?_, h.source ▸ h.append _⟩
    show decide (need ≤ (s.cache ++ _).length) = _
    rw [List.length_append, List.length_take, List.length_drop, decide_eq_decide]
    omega

/-- Where the cache reaches, it holds what the content does. -/
theorem Mirrors.getElem?_eq (h : Mirrors content s) {offset : Nat} (hlt : offset < s.cache.length) :
    s.cache[offset]? = content[offset]? := by
  obtain ⟨rest, rfl⟩ := h.cached
  rw [List.getElem?_append_left hlt]

/-- What is missing of the header is missing from the content. -/
theorem Mirrors.getElem?_header (h : Mirrors content s) {offset : Nat} (hlt : offset < headerSize) :
    s.cache[offset]? = content[offset]? := by
  by_cases hshort : s.cache.length < headerSize
  · rw [h.header hshort]
  · exact h.getElem?_eq (by omega)

/-! ## Readings whatever the cache -/

theorem bind_apply (x : Reading α) (f : α → Reading β) (s : ConfigSpace) :
    ((x >>= f) s).value = (f (x s).value.1 (x s).value.2).value := rfl

/-- Whatever of the content is cached, the reading comes to this value, and leaves a cache of the
content. -/
def Yields (content : Bytes) (x : Reading α) (a : α) : Prop :=
  ∀ s, Mirrors content s → (x s).value.1 = a ∧ Mirrors content (x s).value.2

namespace Yields

theorem pure (a : α) : Yields content (Pure.pure a) a := fun _ h => ⟨rfl, h⟩

/-- A reading goes on from the value of the one before, whatever that has cached. -/
theorem bind {x : Reading α} {f : α → Reading β} {a : α} {b : β} (hx : Yields content x a)
    (hf : Yields content (f a) b) : Yields content (x >>= f) b := by
  intro s hs
  obtain ⟨hvalue, hmirrors⟩ := hx s hs
  rw [bind_apply, hvalue]
  exact hf _ hmirrors

/-- What a reading does with the cache may depend on it, if what it comes to does not. -/
theorem get_bind {f : ConfigSpace → Reading β} {b : β}
    (hf : ∀ s, Mirrors content s → Yields content (f s) b) : Yields content (get >>= f) b :=
  fun s hs => hf s hs s hs

/-- A line of the report reads nothing. -/
theorem warn_bind {text : String} {f : Unit → Reading β} {b : β} (hf : Yields content (f ()) b) :
    Yields content (((Noted.warn text : Noted Unit) : Reading Unit) >>= f) b := fun s hs => hf s hs

end Yields

/-- A byte can be had exactly if the content holds it. -/
theorem byte?_yields (content : Bytes) (offset : Nat) (hlt : offset < configSize) :
    Yields content (byte? offset) content[offset]? := by
  intro s hs
  obtain ⟨hvalue, hmirrors⟩ := growTo_mirrors hs (offset + 1) hlt
  unfold byte?
  rw [bind_apply, hvalue]
  by_cases hin : offset + 1 ≤ content.length
  · have hgrown : offset < (growTo (offset + 1) s).value.2.cache.length :=
      le_length_growTo (hvalue.trans (decide_eq_true hin))
    rw [decide_eq_true hin]
    exact ⟨hmirrors.getElem?_eq hgrown, hmirrors⟩
  · rw [decide_eq_false hin]
    refine ⟨(List.getElem?_eq_none ?_).symm, hmirrors⟩
    omega

end HybridGraphics.Pci.ConfigSpace
