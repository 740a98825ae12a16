import HybridGraphics.Proofs.Pci.Cache
import Mathlib.Data.List.Perm.Subperm

/-!
# The capability list and its walk

`Listed content id o` is the layout's own account of a capability: the status has the list
bit, and following the next pointers from the list pointer leads to `o`, over entries with
other ids. It speaks of the bytes alone. The walk reads them through a cache that grows on
demand and is kept between queries, gives up after a number of steps, and stops where it has
been before.

`capability_list_exact` says that none of this shows: whatever was asked before, the walk finds
an entry exactly if it is listed, and what is said of power management is what the entry's
word says. Over the bytes the walk is a plain recursion (`walkBytes`). It finds only what the
pointers lead to, by induction on the steps. It finds all of that because a way to an entry
is never longer than the walk: a way that came to one offset twice would never leave the
circle, since what follows an entry depends on its bytes alone (`Finds.nodup`), and there are
63 places for an entry (`Finds.length_lt`).
-/

namespace HybridGraphics.Pci.ConfigSpace

variable {content : Bytes} {id : UInt8} {start stop o : Nat} {passed visited : List Nat}

/-! ## The layout -/

/-- Where a pointer leads: its two low bits do not count. -/
def target (pointer : UInt8) : Nat := 4 * (pointer.toNat / 4)

/-- Following the next pointers from one offset passes these entries, in order, and leads to
another. -/
def Leads (content : Bytes) : Nat → List Nat → Nat → Prop
  | start, [], stop => start = stop
  | start, entry :: rest, stop =>
    start = entry ∧ entry ≠ 0 ∧
      ∃ next, content[entry + 1]? = some next ∧ Leads content (target next) rest stop

/-- The first entry with the id is at `stop`, and these entries come before it. An entry whose id
is `0xff` is none. -/
structure Finds (content : Bytes) (id : UInt8) (start : Nat) (passed : List Nat) (stop : Nat) :
    Prop where
  leads : Leads content start passed stop
  others : ∀ entry ∈ passed, ∃ other, content[entry]? = some other ∧ other ≠ id ∧ other ≠ 0xff
  nonzero : stop ≠ 0
  found : content[stop]? = some id
  valid : id ≠ 0xff

/-- Where the pointer to the list is: a CardBus bridge keeps it elsewhere. -/
def listPointerPlace (content : Bytes) : Nat :=
  match content[0x0e]? with
  | some header => if header &&& 0x7f = 2 then 0x14 else 0x34
  | none => 0x34

/-- The layout lists the capability at this offset. -/
def Listed (content : Bytes) (id : UInt8) (o : Nat) : Prop :=
  ∃ status pointer passed, content[0x06]? = some status ∧ status &&& 0x10 ≠ 0 ∧
    content[listPointerPlace content]? = some pointer ∧
      Finds content id (target pointer) passed o

/-! ## Ways through the list -/

/-- A search that passes an entry goes on where its next pointer leads. -/
theorem Finds.tail {entry : Nat} (h : Finds content id start (entry :: passed) stop) :
    start = entry ∧ ∃ next, content[entry + 1]? = some next ∧
      Finds content id (target next) passed stop := by
  obtain ⟨hstart, -, next, hnext, hleads⟩ := h.leads
  exact ⟨hstart, next, hnext, hleads, fun e he => h.others e (List.mem_cons_of_mem _ he),
    h.nonzero, h.found, h.valid⟩

/-- What is passed is not what is looked for. -/
theorem Finds.stop_not_mem (h : Finds content id start passed stop) : stop ∉ passed := by
  intro hmem
  obtain ⟨other, hother, hne, -⟩ := h.others stop hmem
  rw [h.found] at hother
  exact hne (Option.some.inj hother).symm

/-- Every way from an offset to the first entry with the id is as long as any other. -/
theorem Finds.length_eq :
    ∀ {passed passed' : List Nat} {start stop stop' : Nat}, Finds content id start passed stop →
      Finds content id start passed' stop' → passed.length = passed'.length
  | [], [], _, _, _, _, _ => rfl
  | [], entry :: rest, _, _, _, h, h' => by
    have hhere : _ = entry := h.leads.symm.trans h'.tail.1
    obtain ⟨other, hother, hne, -⟩ := h'.others entry List.mem_cons_self
    rw [← hhere, h.found] at hother
    exact absurd (Option.some.inj hother).symm hne
  | entry :: rest, [], _, _, _, h, h' => by
    have hhere : _ = entry := h'.leads.symm.trans h.tail.1
    obtain ⟨other, hother, hne, -⟩ := h.others entry List.mem_cons_self
    rw [← hhere, h'.found] at hother
    exact absurd (Option.some.inj hother).symm hne
  | entry :: rest, entry' :: rest', _, _, _, h, h' => by
    obtain ⟨hstart, next, hnext, hrest⟩ := h.tail
    obtain ⟨hstart', next', hnext', hrest'⟩ := h'.tail
    have hsame : entry = entry' := hstart.symm.trans hstart'
    rw [hsame, hnext'] at hnext
    obtain rfl := Option.some.inj hnext
    rw [List.length_cons, List.length_cons, Finds.length_eq hrest hrest']

/-- From an entry that is passed, a part of the way is left. -/
theorem Finds.from_mem {entry : Nat} :
    ∀ {passed : List Nat} {start : Nat}, Finds content id start passed stop → entry ∈ passed →
      ∃ rest, Finds content id entry rest stop ∧ rest.length ≤ passed.length
  | first :: rest, start, h, hmem => by
    obtain ⟨hstart, next, hnext, hrest⟩ := h.tail
    rcases List.mem_cons.mp hmem with rfl | hmem
    · exact ⟨entry :: rest, hstart ▸ h, Nat.le_refl _⟩
    · obtain ⟨more, hfinds, hle⟩ := Finds.from_mem hrest hmem
      exact ⟨more, hfinds, Nat.le_succ_of_le hle⟩

/-- A way to an entry does not come to one offset twice. -/
theorem Finds.nodup :
    ∀ {passed : List Nat} {start : Nat}, Finds content id start passed stop →
      (passed ++ [stop]).Nodup
  | [], _, _ => List.nodup_cons.mpr ⟨List.not_mem_nil, List.nodup_nil⟩
  | entry :: rest, start, h => by
    obtain ⟨hstart, next, hnext, hrest⟩ := h.tail
    have hnotin : entry ∉ rest ++ [stop] := by
      intro hmem
      rcases List.mem_append.mp hmem with hmem | hmem
      · -- the way from the second visit is shorter than the way from the first
        obtain ⟨more, hmore, hle⟩ := hrest.from_mem hmem
        have hlen := Finds.length_eq h (hstart.symm ▸ hmore)
        rw [List.length_cons] at hlen
        omega
      · rw [List.mem_singleton] at hmem
        exact h.stop_not_mem (hmem ▸ List.mem_cons_self)
    exact List.nodup_cons.mpr ⟨hnotin, Finds.nodup hrest⟩

/-- The offsets that an entry can have. -/
def entryOffsets : List Nat := (List.range 63).map fun k => 4 * (k + 1)

/-- Pointers lead to places for entries, unless they end the list. -/
theorem target_mem_entryOffsets {pointer : UInt8} (h : target pointer ≠ 0) :
    target pointer ∈ entryOffsets := by
  have hlt := pointer.toNat_lt
  unfold target at h ⊢
  refine List.mem_map.mpr ⟨pointer.toNat / 4 - 1, List.mem_range.mpr ?_, ?_⟩ <;> omega

/-- Pointers lead to places for entries only. -/
theorem Finds.subset_entryOffsets :
    ∀ {passed : List Nat} {pointer : UInt8}, Finds content id (target pointer) passed stop →
      passed ++ [stop] ⊆ entryOffsets
  | [], pointer, h => by
    have hstop : target pointer = stop := h.leads
    have hmem := target_mem_entryOffsets (hstop.symm ▸ h.nonzero : target pointer ≠ 0)
    exact List.cons_subset.mpr ⟨hstop ▸ hmem, List.nil_subset _⟩
  | entry :: rest, pointer, h => by
    obtain ⟨hstart, next, hnext, hrest⟩ := h.tail
    have hentry : entry ≠ 0 := h.leads.2.1
    rw [List.cons_append, List.cons_subset]
    exact ⟨hstart ▸ target_mem_entryOffsets (hstart.symm ▸ hentry), Finds.subset_entryOffsets hrest⟩

/-- A way from a pointer to an entry passes fewer entries than a walk may. -/
theorem Finds.length_lt {pointer : UInt8} (h : Finds content id (target pointer) passed stop) :
    passed.length < maxSteps := by
  have hle := (List.subperm_of_subset h.nodup h.subset_entryOffsets).length_le
  rw [List.length_append, List.length_singleton, entryOffsets, List.length_map,
    List.length_range] at hle
  unfold maxSteps
  omega

/-! ## The walk over the bytes -/

/-- The walk with every byte at hand. -/
def walkBytes (content : Bytes) (id : UInt8) : Nat → List Nat → Nat → Option Nat
  | 0, _, _ => none
  | steps + 1, visited, offset =>
    if offset = 0 then none
    else if visited.contains offset then none
    else
      match content[offset]? with
      | none => none
      | some found =>
        if found = 0xff then none
        else if found = id then some offset
        else
          match content[offset + 1]? with
          | none => none
          | some next => walkBytes content id steps (offset :: visited) (target next)

/-- The offset that a walk goes on at is where the pointer leads. -/
theorem offsetOf_eq_target (pointer : UInt8) : offsetOf pointer = target pointer := by
  have hbits : ∀ n : Fin 256, n.val &&& 252 = 4 * (n.val / 4) := by decide +kernel
  exact hbits ⟨pointer.toNat, pointer.toNat_lt⟩

/-- From a place for an entry on, the walk through the cache is the walk over the bytes. -/
theorem walk_yields (content : Bytes) (id : UInt8) :
    ∀ (steps : Nat) (visited : List Nat) (pointer : UInt8),
      Yields content (walk id steps visited (target pointer))
        (walkBytes content id steps visited (target pointer))
  | 0, _, _ => .pure none
  | steps + 1, visited, pointer => by
    have hlt : target pointer + 1 < configSize := by
      have := pointer.toNat_lt
      unfold target configSize
      omega
    rw [walk, walkBytes]
    by_cases hzero : target pointer = 0
    · rw [if_pos hzero, if_pos hzero]
      exact .pure none
    rw [if_neg hzero, if_neg hzero]
    by_cases hseen : visited.contains (target pointer) = true
    · rw [if_pos hseen, if_pos hseen]
      exact .warn_bind (.pure none)
    rw [if_neg hseen, if_neg hseen]
    refine (byte?_yields content _ (Nat.lt_of_succ_lt hlt)).bind ?_
    cases content[target pointer]? with
    | none => exact .pure none
    | some found =>
      simp only
      by_cases hvoid : found = 0xff
      · rw [if_pos hvoid, if_pos hvoid]
        exact .pure none
      rw [if_neg hvoid, if_neg hvoid]
      by_cases hid : found = id
      · rw [if_pos hid, if_pos hid]
        exact .pure _
      rw [if_neg hid, if_neg hid]
      refine (byte?_yields content _ hlt).bind ?_
      cases content[target pointer + 1]? with
      | none => exact .pure none
      | some next =>
        show Yields content (walk id steps _ (offsetOf next)) _
        rw [offsetOf_eq_target]
        exact walk_yields content id steps _ next

/-- The walk finds only what the pointers lead to. -/
theorem finds_of_walkBytes :
    ∀ {steps : Nat} {visited : List Nat} {start : Nat},
      walkBytes content id steps visited start = some o → ∃ passed, Finds content id start passed o
  | steps + 1, visited, start, h => by
    rw [walkBytes] at h
    split at h
    next => cases h
    next hzero =>
      split at h
      next => cases h
      next =>
        split at h
        next => cases h
        next found hfound =>
          split at h
          next => cases h
          next hvoid =>
            split at h
            next hid =>
              cases h
              subst hid
              exact ⟨[], rfl, fun _ he => absurd he List.not_mem_nil, hzero, hfound, hvoid⟩
            next hid =>
              split at h
              next => cases h
              next next hnext =>
                obtain ⟨passed, hfinds⟩ := finds_of_walkBytes h
                refine ⟨start :: passed, ⟨rfl, hzero, next, hnext, hfinds.leads⟩, ?_,
                  hfinds.nonzero, hfinds.found, hfinds.valid⟩
                intro entry he
                rcases List.mem_cons.mp he with rfl | he
                · exact ⟨found, hfound, hid, hvoid⟩
                · exact hfinds.others entry he

/-- The walk finds what the pointers lead to, if it may take as many steps and has not been on the
way before. -/
theorem walkBytes_of_finds :
    ∀ {passed visited : List Nat} {steps start : Nat}, Finds content id start passed o →
      passed.length < steps → (∀ entry ∈ passed ++ [o], entry ∉ visited) →
        walkBytes content id steps visited start = some o
  | [], visited, steps + 1, start, h, _, hfresh => by
    have hstart : start = o := h.leads
    have hunseen : ¬ visited.contains o = true := by
      rw [List.contains_iff_mem]
      exact hfresh o (List.mem_append_right _ (List.mem_singleton_self o))
    rw [walkBytes, hstart, if_neg h.nonzero, if_neg hunseen, h.found]
    simp only
    rw [if_neg h.valid, if_pos trivial]
  | entry :: rest, visited, steps + 1, start, h, hlen, hfresh => by
    obtain ⟨hstart, next, hnext, hrest⟩ := h.tail
    obtain ⟨other, hother, hid, hvoid⟩ := h.others entry List.mem_cons_self
    have hzero : entry ≠ 0 := h.leads.2.1
    have hunseen : ¬ visited.contains entry = true := by
      rw [List.contains_iff_mem]
      exact hfresh entry (List.mem_append_left _ List.mem_cons_self)
    have hnotin : entry ∉ rest ++ [o] := (List.nodup_cons.mp h.nodup).1
    have hfresh' : ∀ e ∈ rest ++ [o], e ∉ entry :: visited := by
      intro e he hmem
      rcases List.mem_cons.mp hmem with rfl | hmem
      · exact hnotin he
      · exact hfresh e (List.mem_cons_of_mem _ he) hmem
    rw [walkBytes, hstart, if_neg hzero, if_neg hunseen, hother]
    simp only
    rw [if_neg hvoid, if_neg hid, hnext]
    exact walkBytes_of_finds hrest (Nat.lt_of_succ_lt_succ hlen) hfresh'

/-- A walk from a pointer finds an entry exactly if the pointers lead to it. -/
theorem walkBytes_eq_some_iff {pointer : UInt8} :
    walkBytes content id maxSteps [] (target pointer) = some o ↔
      ∃ passed, Finds content id (target pointer) passed o := by
  constructor
  · exact finds_of_walkBytes
  · rintro ⟨passed, h⟩
    exact walkBytes_of_finds h h.length_lt fun _ _ => List.not_mem_nil

/-! ## Queries -/

/-- The capability with every byte at hand. -/
def findBytes (content : Bytes) (id : UInt8) : Option Nat :=
  match content[0x06]? with
  | none => none
  | some status =>
    if status &&& 0x10 = 0 then none
    else
      match content[listPointerPlace content]? with
      | none => none
      | some pointer => walkBytes content id maxSteps [] (target pointer)

/-- The walk over the bytes finds a capability exactly where the layout lists it. -/
theorem findBytes_eq_some_iff : findBytes content id = some o ↔ Listed content id o := by
  unfold findBytes
  constructor
  · intro h
    split at h
    next => cases h
    next status hstatus =>
      split at h
      next => cases h
      next hbit =>
        split at h
        next => cases h
        next pointer hpointer =>
          obtain ⟨passed, hfinds⟩ := walkBytes_eq_some_iff.mp h
          exact ⟨status, pointer, passed, hstatus, hbit, hpointer, hfinds⟩
  · rintro ⟨status, pointer, passed, hstatus, hbit, hpointer, hfinds⟩
    rw [hstatus]
    simp only
    rw [if_neg hbit, hpointer]
    exact walkBytes_eq_some_iff.mpr ⟨passed, hfinds⟩

/-- The cache says as well as the content where the pointer to the list is. -/
theorem Mirrors.listPointerPlace_eq {s : ConfigSpace} (h : Mirrors content s) :
    (if s.isCardBus then cardBusListPointerOffset else listPointerOffset) =
      listPointerPlace content := by
  unfold isCardBus headerType listPointerPlace
  rw [h.getElem?_header (show headerTypeOffset < headerSize by decide)]
  show (if _ then _ else _) = match content[headerTypeOffset]? with
    | some header => _
    | none => _
  cases content[headerTypeOffset]? with
  | none => rfl
  | some header =>
    simp only [beq_iff_eq]
    rfl

/-- Whatever is cached, a capability is found where the whole content has it. -/
theorem findCapability_yields (content : Bytes) (id : UInt8) :
    Yields content (findCapability id) (findBytes content id) := by
  have hplace : listPointerPlace content < configSize := by
    unfold listPointerPlace configSize
    split
    · split <;> decide
    · decide
  refine (byte?_yields content statusOffset (by decide)).bind ?_
  show Yields content _ (match content[statusOffset]? with
    | none => none
    | some status => _)
  cases content[statusOffset]? with
  | none => exact .pure none
  | some status =>
    simp only
    by_cases hbit : status &&& 0x10 = 0
    · rw [if_pos hbit, if_pos hbit]
      exact .pure none
    rw [if_neg hbit, if_neg hbit]
    refine .get_bind fun s hs => ?_
    rw [hs.listPointerPlace_eq]
    refine (byte?_yields content _ hplace).bind ?_
    cases content[listPointerPlace content]? with
    | none => exact .pure none
    | some pointer =>
      show Yields content (walk id maxSteps [] (offsetOf pointer)) _
      rw [offsetOf_eq_target]
      exact walk_yields content id maxSteps [] pointer

/-- What the power management capability says, with every byte at hand. -/
def powerBytes (content : Bytes) : Capability :=
  match findBytes content powerManagementId with
  | none => {}
  | some o =>
    match content[o + 2]?, content[o + 3]? with
    | some _, some high => { d3hot := high &&& 0x40 ≠ 0, d3cold := high &&& 0x80 ≠ 0 }
    | _, _ => {}

theorem powerManagement_yields (content : Bytes) :
    Yields content powerManagement (powerBytes content) := by
  refine (findCapability_yields content powerManagementId).bind ?_
  unfold powerBytes
  cases hfind : findBytes content powerManagementId with
  | none => exact .pure _
  | some o =>
    obtain ⟨-, pointer, passed, -, -, -, hfinds⟩ := findBytes_eq_some_iff.mp hfind
    have hentry : o ∈ entryOffsets :=
      hfinds.subset_entryOffsets (List.mem_append_right _ (List.mem_singleton_self o))
    have hlt : o + 3 < configSize := by
      obtain ⟨k, hk, rfl⟩ := List.mem_map.mp hentry
      have := List.mem_range.mp hk
      unfold configSize
      omega
    refine (byte?_yields content (o + 2) (Nat.lt_of_succ_lt hlt)).bind ?_
    dsimp only
    cases content[o + 2]? with
    | none => exact .pure _
    | some low =>
      refine (byte?_yields content (o + 3) hlt).bind ?_
      cases content[o + 3]? with
      | none => exact .pure _
      | some high => exact .pure _

/-- The two flags are the highest bits of the little-endian word. -/
theorem wakeFlags_eq (low high : UInt8) :
    decide (high &&& 0x40 ≠ 0) = (low.toNat + 256 * high.toNat).testBit 14 ∧
      decide (high &&& 0x80 ≠ 0) = (low.toNat + 256 * high.toNat).testBit 15 := by
  have hbits : ∀ n : Fin 256, decide (UInt8.ofNat n &&& 0x40 ≠ 0) = n.val.testBit 6 ∧
      decide (UInt8.ofNat n &&& 0x80 ≠ 0) = n.val.testBit 7 := by decide +kernel
  have hhigh := hbits ⟨high.toNat, high.toNat_lt⟩
  have hword : ∀ k, 8 ≤ k →
      (low.toNat + 256 * high.toNat).testBit k = high.toNat.testBit (k - 8) := by
    intro k hk
    rw [Nat.add_comm, show 256 = 2 ^ 8 from rfl, Nat.testBit_two_pow_mul_add _ low.toNat_lt,
      if_neg (Nat.not_lt.mpr hk)]
  rw [UInt8.ofNat_toNat] at hhigh
  rw [hword 14 (by omega), hword 15 (by omega)]
  exact hhigh

/-- A query, of those that are made of configuration space. -/
inductive Query where
  | capability (id : UInt8)
  | power

def Query.ask : Query → Reading Unit
  | capability id => do
    let _ ← findCapability id
  | power => do
    let _ ← powerManagement

/-- Configuration space as a sequence of queries leaves it. -/
def afterQueries : List Query → ConfigSpace → ConfigSpace
  | [], s => s
  | query :: rest, s => afterQueries rest (query.ask s).value.2

/-- What is first read of a source is a cache of it. -/
theorem ofSource_mirrors (content : Bytes) : Mirrors content (ofSource { content }).value := by
  have hheader : Mirrors content ⟨{ content }, content.take headerSize⟩ := by
    refine ⟨rfl, List.take_prefix _ _, fun hshort => ?_⟩
    rw [List.length_take] at hshort
    exact List.take_of_length_le (by omega)
  show Mirrors content (withCardBusHeader ⟨{ content }, content.take headerSize⟩).value
  unfold withCardBusHeader
  split
  · exact (growTo_mirrors hheader 128 (by decide)).2
  · exact hheader

/-- Queries leave a cache of the content. -/
theorem afterQueries_mirrors :
    ∀ (queries : List Query) {s : ConfigSpace}, Mirrors content s →
      Mirrors content (afterQueries queries s)
  | [], _, h => h
  | .capability id :: rest, s, h =>
    afterQueries_mirrors rest (findCapability_yields content id s h).2
  | .power :: rest, s, h => afterQueries_mirrors rest (powerManagement_yields content s h).2

/-- Over a source that gives every byte it is asked for, a query finds a capability exactly where
the layout lists it, whatever the queries before it: the first entry with its id that following
the pointers leads to. What is said of power management are the two highest bits of the word in
its entry, and that there are none if there is no such entry or it is cut off. -/
theorem capability_list_exact (content : Bytes) (queries : List Query) :
    let s := afterQueries queries (ofSource { content }).value
    (∀ id o, (findCapability id s).value.1 = some o ↔ Listed content id o) ∧
      (∀ o low high, Listed content 0x01 o → content[o + 2]? = some low →
        content[o + 3]? = some high →
          (powerManagement s).value.1 =
            { d3hot := (low.toNat + 256 * high.toNat).testBit 14
              d3cold := (low.toNat + 256 * high.toNat).testBit 15 }) ∧
      ((∀ o, Listed content 0x01 o → content[o + 2]? = none ∨ content[o + 3]? = none) →
        (powerManagement s).value.1 = { d3hot := false, d3cold := false }) := by
  intro s
  have hs : Mirrors content s := afterQueries_mirrors queries (ofSource_mirrors content)
  have hpower : (powerManagement s).value.1 = powerBytes content :=
    (powerManagement_yields content s hs).1
  refine ⟨fun id o => ?_, fun o low high hlisted hlow hhigh => ?_, fun hcut => ?_⟩
  · rw [(findCapability_yields content id s hs).1]
    exact findBytes_eq_some_iff
  · obtain ⟨hhot, hcold⟩ := wakeFlags_eq low high
    have hfind : findBytes content powerManagementId = some o := findBytes_eq_some_iff.mpr hlisted
    rw [hpower, powerBytes, hfind]
    simp only [hlow, hhigh]
    rw [hhot, hcold]
  · rw [hpower, powerBytes]
    cases hfind : findBytes content powerManagementId with
    | none => rfl
    | some o =>
      rcases hcut o (findBytes_eq_some_iff.mp hfind) with hnone | hnone
      · simp only [hnone]
      · simp only [hnone]
        cases content[o + 2]? <;> rfl

end HybridGraphics.Pci.ConfigSpace
