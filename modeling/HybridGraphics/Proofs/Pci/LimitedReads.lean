import HybridGraphics.Proofs.Pci.CapabilityList

/-!
# Capabilities through short and failing reads

A source may give fewer bytes than it is asked for, and fail from some offset on. Then the
cache falls short of the content, and a query may miss what the content lists. It never finds
what the content does not list, and what it found once it finds again:
`limited_reads_invent_nothing`.

The cache is how the content begins, so whatever can be told from it holds of the content
(`findBytes_mono`), and whatever can be told from it needs no more reads (`findCapability_told`).
What is left is that a query that finds something leaves a cache from which that can be told
(`findCapability_tells`). There is one place where this could fail. A query takes a device whose
header type was not read for one that is no CardBus bridge, and looks for the pointer to the list
in the wrong place. But then the first read gave 14 bytes at most, so no read gives more, and one
read does not get from there to where the pointer is looked for (`Backed.short`).
-/

namespace HybridGraphics.Pci.ConfigSpace

variable {α β : Type} {source : ConfigSource} {s : ConfigSpace} {cache content : Bytes}
  {id : UInt8} {o : Nat}

/-! ## Longer caches tell more -/

/-- A cache has no byte that the content has not. -/
theorem getElem?_of_isPrefix (h : cache <+: content) {offset : Nat} {byte : UInt8}
    (hb : cache[offset]? = some byte) : content[offset]? = some byte := by
  obtain ⟨rest, rfl⟩ := h
  obtain ⟨hlt, -⟩ := List.getElem?_eq_some_iff.mp hb
  rw [List.getElem?_append_left hlt]
  exact hb

/-- Where the pointer to the list can be had, so can the header type, and it stays what it is. -/
theorem listPointer_mono (h : cache <+: content) {pointer : UInt8}
    (hp : cache[listPointerPlace cache]? = some pointer) :
    content[listPointerPlace content]? = some pointer := by
  have hsame : listPointerPlace content = listPointerPlace cache := by
    cases hheader : cache[0x0e]? with
    | some header =>
      unfold listPointerPlace
      rw [hheader, getElem?_of_isPrefix h hheader]
    | none =>
      -- a cache that ends before the header type ends before the pointer
      have hplace : listPointerPlace cache = 0x34 := by
        unfold listPointerPlace
        rw [hheader]
      rw [hplace] at hp
      obtain ⟨hlt, -⟩ := List.getElem?_eq_some_iff.mp hp
      have hshort := List.getElem?_eq_none_iff.mp hheader
      omega
  rw [hsame]
  exact getElem?_of_isPrefix h hp

/-- What a walk finds with the bytes of a cache it finds with all bytes. -/
theorem walkBytes_mono (h : cache <+: content) :
    ∀ {steps : Nat} {visited : List Nat} {start : Nat},
      walkBytes cache id steps visited start = some o →
        walkBytes content id steps visited start = some o
  | steps + 1, visited, start, hw => by
    rw [walkBytes] at hw ⊢
    split at hw
    next => cases hw
    next hzero =>
      rw [if_neg hzero]
      split at hw
      next => cases hw
      next hseen =>
        rw [if_neg hseen]
        split at hw
        next => cases hw
        next found hfound =>
          rw [getElem?_of_isPrefix h hfound]
          simp only
          split at hw
          next => cases hw
          next hvoid =>
            rw [if_neg hvoid]
            split at hw
            next hid =>
              rw [if_pos hid]
              exact hw
            next hid =>
              rw [if_neg hid]
              split at hw
              next => cases hw
              next next hnext =>
                rw [getElem?_of_isPrefix h hnext]
                exact walkBytes_mono h hw

theorem findBytes_mono (h : cache <+: content) (hf : findBytes cache id = some o) :
    findBytes content id = some o := by
  unfold findBytes at hf ⊢
  split at hf
  next => cases hf
  next status hstatus =>
    rw [getElem?_of_isPrefix h hstatus]
    simp only
    split at hf
    next => cases hf
    next hbit =>
      rw [if_neg hbit]
      split at hf
      next => cases hf
      next pointer hpointer =>
        rw [listPointer_mono h hpointer]
        exact walkBytes_mono h hf

/-- One account of the power states claims no more than another. -/
def Within (a b : Capability) : Prop :=
  (a.d3hot = true → b.d3hot = true) ∧ (a.d3cold = true → b.d3cold = true)

theorem Within.none (b : Capability) : Within {} b :=
  ⟨fun h => (Bool.false_ne_true h).elim, fun h => (Bool.false_ne_true h).elim⟩

/-- What a cache tells of the power states, the content bears out. -/
theorem powerBytes_mono (h : cache <+: content) :
    Within (powerBytes cache) (powerBytes content) := by
  cases hfind : findBytes cache powerManagementId with
  | none =>
    rw [powerBytes, hfind]
    exact .none _
  | some o =>
    cases hlow : cache[o + 2]? with
    | none =>
      rw [powerBytes, hfind]
      simp only [hlow]
      exact .none _
    | some low =>
      cases hhigh : cache[o + 3]? with
      | none =>
        rw [powerBytes, hfind]
        simp only [hlow, hhigh]
        exact .none _
      | some high =>
        -- all that it was told by stands in the content as well
        unfold powerBytes
        rw [hfind, findBytes_mono h hfind]
        simp only [hlow, hhigh, getElem?_of_isPrefix h hlow, getElem?_of_isPrefix h hhigh]
        exact ⟨fun h => h, fun h => h⟩

/-! ## What a source has given -/

/-- What was read so far of a source, however it gives its bytes. -/
structure Backed (source : ConfigSource) (s : ConfigSpace) : Prop where
  origin : s.source = source
  cached : s.cache <+: source.content
  /-- A cache that ends before the header type comes of reads that are no longer than that. -/
  short : s.cache.length ≤ headerTypeOffset → ∀ offset count more,
    source.readAt offset count = .ok more → more.length ≤ headerTypeOffset

/-- What a source gives once, at its start, bounds what it gives at any time. -/
theorem length_readAt_le_of_short {offset count : Nat} {first more : Bytes}
    (hfirst : source.readAt 0 headerSize = .ok first) (hshort : first.length ≤ headerTypeOffset)
    (h : source.readAt offset count = .ok more) : more.length ≤ headerTypeOffset := by
  unfold ConfigSource.readAt at hfirst h
  split at hfirst
  next => cases hfirst
  next =>
    split at h
    next => cases h
    next =>
      cases hfirst
      cases h
      unfold headerSize headerTypeOffset at *
      cases hchunk : source.chunk with
      | none =>
        simp only [hchunk, List.length_take, List.length_drop] at hshort ⊢
        omega
      | some chunk =>
        simp only [hchunk, List.length_take, List.length_drop] at hshort ⊢
        omega

/-- What is read from where a cache ends comes next in the content. -/
theorem append_isPrefix {count : Nat} {more : Bytes} (h : cache <+: source.content)
    (hread : source.readAt cache.length count = .ok more) : cache ++ more <+: source.content := by
  obtain ⟨rest, hrest⟩ := h
  have hmore := ConfigSource.readAt_isPrefix hread
  rw [← hrest, List.drop_left] at hmore
  rw [← hrest]
  exact (List.prefix_append_right_inj _).mpr hmore

/-- Growing the cache keeps it what was read of the source. Where the header type was not read,
it grows by less than is left to the plain list pointer. -/
theorem growTo_backed (h : Backed source s) (need : Nat) :
    Backed source (growTo need s).value.2 ∧ s.cache <+: (growTo need s).value.2.cache ∧
      (s.cache.length ≤ headerTypeOffset →
        (growTo need s).value.2.cache.length ≤ s.cache.length + headerTypeOffset) := by
  have hsame : Backed source s ∧ s.cache <+: s.cache ∧ (s.cache.length ≤ headerTypeOffset →
      s.cache.length ≤ s.cache.length + headerTypeOffset) :=
    ⟨h, List.prefix_rfl, fun _ => Nat.le_add_right _ _⟩
  unfold growTo
  by_cases hheld : need ≤ s.cache.length
  · rw [if_pos hheld]
    exact hsame
  rw [if_neg hheld]
  by_cases hsize : sizeFor s.cache.length need < need
  · rw [if_pos hsize]
    exact hsame
  rw [if_neg hsize]
  cases hread : s.source.readAt s.cache.length (sizeFor s.cache.length need - s.cache.length) with
  | error why => exact hsame
  | ok more =>
    have hgrown : s.cache <+: s.cache ++ more := List.prefix_append _ _
    refine ⟨⟨h.origin, ?_, fun hshort => h.short (Nat.le_trans hgrown.length_le hshort)⟩, hgrown,
      fun hshort => ?_⟩
    · exact append_isPrefix h.cached (h.origin ▸ hread)
    · have hmore := h.short hshort _ _ _ (h.origin ▸ hread)
      show (s.cache ++ more).length ≤ _
      rw [List.length_append]
      omega

/-- What is first read of a source is a cache of it. -/
theorem ofSource_backed (source : ConfigSource) : Backed source (ofSource source).value := by
  have hopened : ∀ header : Bytes, Backed source ⟨source, header⟩ →
      Backed source (withCardBusHeader ⟨source, header⟩).value := by
    intro header hheader
    unfold withCardBusHeader
    split
    · exact (growTo_backed hheader 128).1
    · exact hheader
  unfold ofSource
  cases hread : source.readAt 0 headerSize with
  | ok header =>
    refine hopened header ⟨rfl, ?_, fun hshort offset count more hmore => ?_⟩
    · have hprefix := ConfigSource.readAt_isPrefix hread
      rwa [List.drop_zero] at hprefix
    · exact length_readAt_le_of_short hread hshort hmore
  | error why =>
    refine hopened [] ⟨rfl, List.nil_prefix, fun _ offset count more hmore => ?_⟩
    -- a source that fails at its start fails everywhere
    unfold ConfigSource.readAt at hread hmore
    split at hread
    next hfails =>
      have hfails' : source.failFrom.any (· ≤ offset) = true := by
        cases hfrom : source.failFrom with
        | none =>
          rw [hfrom] at hfails
          cases hfails
        | some limit =>
          rw [hfrom] at hfails
          simp only [Option.any_some, decide_eq_true_eq] at hfails ⊢
          omega
      rw [if_pos hfails'] at hmore
      cases hmore
    next => cases hread

/-! ## What a reading can tell -/

/-- The reading leaves what was read of the source, and no less of it than before; and what it
comes to and the bytes then held satisfy the condition. -/
def Tells (source : ConfigSource) (P : Bytes → α → Prop) (x : Reading α) : Prop :=
  ∀ s, Backed source s → Backed source (x s).value.2 ∧ s.cache <+: (x s).value.2.cache ∧
    P (x s).value.2.cache (x s).value.1

namespace Tells

variable {P : Bytes → α → Prop} {Q : Bytes → β → Prop}

theorem pure {a : α} (h : ∀ cache, P cache a) : Tells source P (Pure.pure a) :=
  fun s hs => ⟨hs, List.prefix_rfl, h s.cache⟩

/-- What can be told after the first reading can still be told after the second. -/
theorem bind {x : Reading α} {f : α → Reading β} (hx : Tells source P x)
    (hmono : ∀ {cache content a}, cache <+: content → P cache a → P content a)
    (hf : ∀ a, Tells source (fun cache b => P cache a → Q cache b) (f a)) :
    Tells source Q (x >>= f) := by
  intro s hs
  obtain ⟨hs', hgrown, ha⟩ := hx s hs
  obtain ⟨hs'', hgrown', hb⟩ := hf (x s).value.1 (x s).value.2 hs'
  exact ⟨hs'', hgrown.trans hgrown', hb (hmono hgrown' ha)⟩

/-- A line of the report reads nothing. -/
theorem warn_bind {text : String} {f : Unit → Reading β} (hf : Tells source Q (f ())) :
    Tells source Q (((Noted.warn text : Noted Unit) : Reading Unit) >>= f) := fun s hs => hf s hs

end Tells

/-- The bytes have this one at the offset, if there is any. -/
def HasByte (offset : Nat) (cache : Bytes) (byte : Option UInt8) : Prop :=
  ∀ b, byte = some b → cache[offset]? = some b

theorem HasByte.mono {offset : Nat} {byte : Option UInt8} (h : cache <+: content)
    (hb : HasByte offset cache byte) : HasByte offset content byte :=
  fun b hbyte => getElem?_of_isPrefix h (hb b hbyte)

/-- A byte that was read is held. -/
theorem byte?_tells (source : ConfigSource) (offset : Nat) :
    Tells source (HasByte offset) (byte? offset) := by
  intro s hs
  obtain ⟨hbacked, hgrown, -⟩ := growTo_backed hs (offset + 1)
  unfold byte?
  rw [bind_apply]
  cases (growTo (offset + 1) s).value.1 with
  | true => exact ⟨hbacked, hgrown, fun _ h => h⟩
  | false => exact ⟨hbacked, hgrown, fun _ h => by cases h⟩

/-- What a walk finds can be told from the bytes then held. -/
theorem walk_tells (source : ConfigSource) (id : UInt8) :
    ∀ (steps : Nat) (visited : List Nat) (start : Nat),
      Tells source (fun cache found => ∀ o, found = some o →
        walkBytes cache id steps visited start = some o) (walk id steps visited start)
  | 0, _, _ => .pure fun _ _ h => by cases h
  | steps + 1, visited, start => by
    rw [walk]
    simp only [walkBytes]
    by_cases hzero : start = 0
    · rw [if_pos hzero]
      exact .pure fun _ _ h => by cases h
    rw [if_neg hzero]
    by_cases hseen : visited.contains start = true
    · rw [if_pos hseen]
      exact .warn_bind (.pure fun _ _ h => by cases h)
    rw [if_neg hseen]
    refine (byte?_tells source start).bind HasByte.mono fun byte => ?_
    cases byte with
    | none => exact .pure fun _ _ _ h => by cases h
    | some found =>
      simp only
      by_cases hvoid : found = 0xff
      · rw [if_pos hvoid]
        exact .pure fun _ _ _ h => by cases h
      rw [if_neg hvoid]
      by_cases hid : found = id
      · rw [if_pos hid]
        refine .pure fun cache hheld o ho => ?_
        rw [if_neg hzero, if_neg hseen, hheld found rfl]
        simp only
        rw [if_neg hvoid, if_pos hid]
        exact ho
      rw [if_neg hid]
      refine (byte?_tells source (start + 1)).bind HasByte.mono fun byte => ?_
      cases byte with
      | none => exact .pure fun _ _ _ _ h => by cases h
      | some next =>
        intro s hs
        obtain ⟨hbacked, hgrown, hrest⟩ :=
          walk_tells source id steps (start :: visited) (offsetOf next) s hs
        refine ⟨hbacked, hgrown, fun hnext hheld o ho => ?_⟩
        rw [if_neg hzero, if_neg hseen, hheld found rfl]
        simp only
        rw [if_neg hvoid, if_neg hid, hnext next rfl]
        simp only [← offsetOf_eq_target]
        exact hrest o ho

/-- Where a query looks for the pointer to the list. -/
def pointerPlace (s : ConfigSpace) : Nat :=
  if s.isCardBus then cardBusListPointerOffset else listPointerOffset

/-- A query reads where the pointer is, reads it there, and walks the list that it points to. -/
theorem findCapability_eq (id : UInt8) :
    findCapability id = byte? statusOffset >>= fun status =>
      status.elim (pure none) fun status =>
        if status &&& 0x10 = 0 then pure none
        else (get >>= fun s => byte? (pointerPlace s)) >>= fun pointer =>
          pointer.elim (pure none) fun pointer => walk id maxSteps [] (offsetOf pointer) := by
  unfold findCapability
  refine bind_congr fun status => ?_
  cases status with
  | none => rfl
  | some status =>
    simp only [Option.elim_some]
    split
    · rfl
    · show _ = get >>= fun s => byte? (pointerPlace s) >>= fun pointer =>
        pointer.elim (pure none) fun pointer => walk id maxSteps [] (offsetOf pointer)
      refine bind_congr fun s => bind_congr fun pointer => ?_
      cases pointer <;> rfl

/-- A cache with the header type says as well as the bytes where the pointer is. -/
theorem pointerPlace_eq {header : UInt8} (h : s.cache[0x0e]? = some header) :
    pointerPlace s = listPointerPlace s.cache := by
  unfold pointerPlace isCardBus headerType listPointerPlace
  have hheld : s.cache[headerTypeOffset]? = some header := h
  rw [hheld, h]
  simp only [beq_iff_eq]
  rfl

/-- A pointer that was read is that to the list, even if the header type was not known. -/
theorem pointer_tells (source : ConfigSource) :
    Tells source (fun cache pointer => HasByte (listPointerPlace cache) cache pointer)
      (get >>= fun s => byte? (pointerPlace s)) := by
  intro s hs
  obtain ⟨hbacked, hgrown, hbyte⟩ := byte?_tells source (pointerPlace s) s hs
  refine ⟨hbacked, hgrown, fun pointer hp => ?_⟩
  have hheld := hbyte pointer hp
  cases hheader : s.cache[0x0e]? with
  | some header =>
    have hplace : listPointerPlace (byte? (pointerPlace s) s).value.2.cache =
        listPointerPlace s.cache := by
      unfold listPointerPlace
      rw [hheader, getElem?_of_isPrefix hgrown hheader]
    show (byte? (pointerPlace s) s).value.2.cache[listPointerPlace
      (byte? (pointerPlace s) s).value.2.cache]? = _
    rw [hplace, ← pointerPlace_eq hheader]
    exact hheld
  | none =>
    -- the reads are too short for the pointer to have come with the one read made for it
    have hshort : s.cache.length ≤ headerTypeOffset := List.getElem?_eq_none_iff.mp hheader
    have hplace : pointerPlace s = 0x34 := by
      unfold pointerPlace isCardBus headerType
      have hnone : s.cache[headerTypeOffset]? = none := hheader
      rw [hnone]
      rfl
    have hlen := (growTo_backed hs (pointerPlace s + 1)).2.2 hshort
    have hread : (byte? (pointerPlace s) s).value.2 = (growTo (pointerPlace s + 1) s).value.2 := by
      unfold byte?
      rw [bind_apply]
      cases (growTo (pointerPlace s + 1) s).value.1 <;> rfl
    rw [hread] at hheld
    obtain ⟨hlt, -⟩ := List.getElem?_eq_some_iff.mp hheld
    have hbound : headerTypeOffset = 14 := rfl
    omega

/-- What a query finds can be told from the bytes then held. -/
theorem findCapability_tells (source : ConfigSource) (id : UInt8) :
    Tells source (fun cache found => ∀ o, found = some o → findBytes cache id = some o)
      (findCapability id) := by
  rw [findCapability_eq]
  refine (byte?_tells source statusOffset).bind HasByte.mono fun byte => ?_
  cases byte with
  | none => exact .pure fun _ _ _ h => by cases h
  | some status =>
    simp only [Option.elim_some]
    by_cases hbit : status &&& 0x10 = 0
    · rw [if_pos hbit]
      exact .pure fun _ _ _ h => by cases h
    rw [if_neg hbit]
    refine (pointer_tells source).bind (fun h hp b hb => listPointer_mono h (hp b hb))
      fun byte => ?_
    cases byte with
    | none => exact .pure fun _ _ _ _ h => by cases h
    | some pointer =>
      intro s hs
      obtain ⟨hbacked, hgrown, hwalk⟩ := walk_tells source id maxSteps [] (offsetOf pointer) s hs
      refine ⟨hbacked, hgrown, fun hpointer hstatus o ho => ?_⟩
      unfold findBytes
      have hheld : _ = some status := hstatus status rfl
      rw [show (6 : Nat) = statusOffset from rfl, hheld]
      simp only
      rw [if_neg hbit, hpointer pointer rfl]
      simp only [← offsetOf_eq_target]
      exact hwalk o ho

/-- What is said of power management claims no more than the bytes then held do. -/
theorem powerManagement_tells (source : ConfigSource) :
    Tells source (fun cache capability => Within capability (powerBytes cache))
      powerManagement := by
  refine (findCapability_tells source powerManagementId).bind
    (fun h hfound o ho => findBytes_mono h (hfound o ho)) fun found => ?_
  cases found with
  | none => exact .pure fun _ _ => .none _
  | some o =>
    simp only
    refine (byte?_tells source (o + 2)).bind HasByte.mono fun byte => ?_
    cases byte with
    | none => exact .pure fun _ _ _ => .none _
    | some low =>
      simp only
      refine (byte?_tells source (o + 3)).bind HasByte.mono fun byte => ?_
      cases byte with
      | none => exact .pure fun _ _ _ _ => .none _
      | some high =>
        refine .pure fun cache hhigh hlow hfound => ?_
        unfold powerBytes
        rw [hfound o rfl]
        simp only [hlow low rfl, hhigh high rfl]
        exact ⟨fun h => h, fun h => h⟩

/-! ## What is held needs no reading -/

/-- A byte that is held can be had without another read. -/
theorem byte?_held {offset : Nat} {byte : UInt8} (h : s.cache[offset]? = some byte) :
    (byte? offset s).value = (some byte, s) := by
  obtain ⟨hlt, -⟩ := List.getElem?_eq_some_iff.mp h
  have hgrow : (growTo (offset + 1) s).value = (true, s) := by
    unfold growTo
    rw [if_pos (Nat.succ_le_of_lt hlt)]
    rfl
  unfold byte?
  rw [bind_apply, hgrow]
  exact congrArg (·, s) h

/-- A walk that the bytes held allow finds what they say, and so finds it again. -/
theorem walk_told :
    ∀ {steps : Nat} {visited : List Nat} {start : Nat},
      walkBytes s.cache id steps visited start = some o →
        (walk id steps visited start s).value.1 = some o
  | steps + 1, visited, start, h => by
    rw [walkBytes] at h
    rw [walk]
    split at h
    next => cases h
    next hzero =>
      rw [if_neg hzero]
      split at h
      next => cases h
      next hseen =>
        rw [if_neg hseen]
        split at h
        next => cases h
        next found hfound =>
          rw [bind_apply, byte?_held hfound]
          simp only
          split at h
          next => cases h
          next hvoid =>
            rw [if_neg hvoid]
            split at h
            next hid =>
              rw [if_pos hid]
              exact h
            next hid =>
              rw [if_neg hid]
              split at h
              next => cases h
              next next hnext =>
                rw [bind_apply, byte?_held hnext]
                simp only
                rw [offsetOf_eq_target]
                exact walk_told h

/-- A query finds what can be told from the bytes that are held. -/
theorem findCapability_told (h : findBytes s.cache id = some o) :
    (findCapability id s).value.1 = some o := by
  unfold findBytes at h
  split at h
  next => cases h
  next status hstatus =>
    split at h
    next => cases h
    next hbit =>
      split at h
      next => cases h
      next pointer hpointer =>
        have hstatus' : s.cache[statusOffset]? = some status := hstatus
        -- a pointer that is held comes with the header type
        have hplace : pointerPlace s = listPointerPlace s.cache := by
          cases hheader : s.cache[0x0e]? with
          | some header => exact pointerPlace_eq hheader
          | none =>
            unfold listPointerPlace pointerPlace isCardBus headerType
            have hnone : s.cache[headerTypeOffset]? = none := hheader
            rw [hheader, hnone]
            rfl
        have hget : ((get >>= fun s => byte? (pointerPlace s) : Reading _) s).value =
            (some pointer, s) := by
          show (byte? (pointerPlace s) s).value = _
          rw [hplace]
          exact byte?_held hpointer
        rw [findCapability_eq, bind_apply, byte?_held hstatus']
        simp only [Option.elim_some]
        rw [if_neg hbit, bind_apply, hget]
        simp only [Option.elim_some]
        rw [offsetOf_eq_target]
        exact walk_told h

/-! ## Queries over a limited source -/

/-- Queries leave what was read of the source, and no less of it than before. -/
theorem afterQueries_backed :
    ∀ (queries : List Query) {s : ConfigSpace}, Backed source s →
      Backed source (afterQueries queries s) ∧ s.cache <+: (afterQueries queries s).cache
  | [], _, h => ⟨h, List.prefix_rfl⟩
  | .capability id :: rest, s, h => by
    obtain ⟨hs, hgrown, -⟩ := findCapability_tells source id s h
    obtain ⟨hs', hgrown'⟩ := afterQueries_backed rest hs
    exact ⟨hs', hgrown.trans hgrown'⟩
  | .power :: rest, s, h => by
    obtain ⟨hs, hgrown, -⟩ := powerManagement_tells source s h
    obtain ⟨hs', hgrown'⟩ := afterQueries_backed rest hs
    exact ⟨hs', hgrown.trans hgrown'⟩

/-- Over a source that gives its bytes in short reads and may fail from some offset on, a query
finds a capability only where it is found with all bytes at hand, whatever the queries before it,
and every later query finds it there again. What is said of power management is said with all
bytes at hand as well. -/
theorem limited_reads_invent_nothing (source : ConfigSource) (queries : List Query) :
    let s := afterQueries queries (ofSource source).value
    let whole := (ofSource { content := source.content }).value
    (∀ id o, (findCapability id s).value.1 = some o →
      (findCapability id whole).value.1 = some o ∧
        ∀ later, (findCapability id
          (afterQueries later (findCapability id s).value.2)).value.1 = some o) ∧
      ((powerManagement s).value.1.d3hot = true →
        (powerManagement whole).value.1.d3hot = true) ∧
      ((powerManagement s).value.1.d3cold = true →
        (powerManagement whole).value.1.d3cold = true) := by
  intro s whole
  have hs : Backed source s := (afterQueries_backed queries (ofSource_backed source)).1
  have hwhole : Mirrors source.content whole := ofSource_mirrors source.content
  refine ⟨fun id o hfound => ?_, ?_⟩
  · obtain ⟨hbacked, -, htold⟩ := findCapability_tells source id s hs
    have hcache := htold o hfound
    constructor
    · rw [(findCapability_yields source.content id whole hwhole).1]
      exact findBytes_mono hbacked.cached hcache
    · intro later
      have hgrown := (afterQueries_backed later hbacked).2
      exact findCapability_told (findBytes_mono hgrown hcache)
  · obtain ⟨hbacked, -, hpower⟩ := powerManagement_tells source s hs
    have hmono := powerBytes_mono hbacked.cached
    rw [(powerManagement_yields source.content whole hwhole).1]
    exact ⟨fun h => hmono.1 (hpower.1 h), fun h => hmono.2 (hpower.2 h)⟩

end HybridGraphics.Pci.ConfigSpace
