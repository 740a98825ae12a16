import HybridGraphics.Proofs.Pci.LimitedReads

/-!
# The walk within its ranges

A boot must not hang or fail over what a device shows, so the walk has to end, and every operation on
the way that has a range has to keep to it, whatever the bytes are and however the source gives them.
The readings of `HybridGraphics.Pci.ConfigSpace` do not show either: a difference of sizes stops at
zero, a list of visited offsets takes any offset, and a number of steps ends the walk in any case.

`Checked` readings are these readings with nothing taken for granted. The cache grows by a loop that
doubles its size, for the room that is left of it, into a buffer of that room. The walk goes on for as
long as the list does, over a table with one flag for each byte of configuration space. An operation
outside its range ends the reading (`OutOfRange`), and what is read and looked at on the way is told
(`Event`). That the walk ends at all is seen from the flags: each round sets one
(`count_set_lt_count`).

`Follows` says that a checked reading comes to what the plain one comes to, so no operation was out of
its range, and tells what it went through. It is put together along the binds, and what carries it for
the walk is that the flags are those of the offsets visited (`Flagged`), of which there are 63 at most
(`Fresh.length_le`). Queries one after the other lead from what is held to what is held (`Reaches`), and
`walk_keeps_in_range` is what comes of it for whatever is asked of a source.
-/

namespace HybridGraphics.Pci.ConfigSpace

/-! ## Readings with checked operations -/

/-- An operation that was asked for what is outside its range. -/
inductive OutOfRange where
  /-- There is no flag for this offset. -/
  | flag (offset : Nat)
  /-- There is less of the size than was to be taken from it. -/
  | difference (size held : Nat)
  /-- Configuration space does not have as many bytes as a buffer was to have. -/
  | buffer (room : Nat)

/-- What a reading goes through. -/
inductive Event where
  /-- The source was asked for as many bytes as there is room for, and these are held since. -/
  | read (start room : Nat) (held : Bytes)
  /-- The list entry at this offset was looked at. -/
  | examined (offset : Nat)

/-- A reading that ends at an operation outside its range, and tells what it goes through. -/
def Checked (α : Type) : Type :=
  ConfigSpace → Except OutOfRange ((α × ConfigSpace) × List Event)

namespace Checked

variable {α : Type}

instance : Monad Checked where
  pure a := fun s => .ok ((a, s), [])
  bind x f := fun s =>
    match x s with
    | .error cause => .error cause
    | .ok ((a, s'), events) =>
      match f a s' with
      | .error cause => .error cause
      | .ok (result, more) => .ok (result, events ++ more)

theorem pure_bind {β : Type} (a : α) (f : α → Checked β) : pure a >>= f = f a := by
  funext s
  simp only [bind, pure, List.nil_append]
  cases f a s <;> rfl

/-- Readings that keep to their ranges can be chained, and tell what both go through. -/
theorem bind_of_ok {β : Type} {x : Checked α} {f : α → Checked β} {s s' : ConfigSpace} {a : α}
    {events more : List Event} {result : β × ConfigSpace} (h : x s = .ok ((a, s'), events))
    (h' : f a s' = .ok (result, more)) : (x >>= f) s = .ok (result, events ++ more) := by
  simp only [bind, h, h']

def outOfRange (cause : OutOfRange) : Checked α := fun _ => .error cause

def tell (event : Event) : Checked Unit := fun s => .ok (((), s), [event])

def space : Checked ConfigSpace := fun s => .ok ((s, s), [])

/-- What is held can be asked for at any time, and asking tells nothing. -/
theorem space_bind (f : ConfigSpace → Checked α) (s : ConfigSpace) :
    (space >>= f) s = f s s := by
  simp only [bind, space, List.nil_append]
  cases f s s <;> rfl

def hold (bytes : Bytes) : Checked Unit := fun s => .ok (((), { s with cache := bytes }), [])

/-- What is left of a size. -/
def difference (size held : Nat) : Checked Nat :=
  if held ≤ size then pure (size - held) else outOfRange (.difference size held)

/-- A buffer with this much room. -/
def buffer (room : Nat) : Checked Nat :=
  if room ≤ configSize then pure room else outOfRange (.buffer room)

/-! ### Growing the cache -/

/-- A size, doubled as long as it falls short of what is needed and of configuration space. -/
def doubled (need size : Nat) (hpos : 0 < size) : Nat :=
  if size < need ∧ size < configSize then doubled need (2 * size) (by omega) else size
  termination_by configSize - size

/-- There is something to double, even if nothing is held. -/
theorem headerSize_pos (held : Nat) : 0 < max held headerSize :=
  Nat.lt_of_lt_of_le (by decide) (Nat.le_max_right held headerSize)

/-- Reads on from where the cache ends, up to a size. False if the source fails. -/
def readTo (size : Nat) : Checked Bool := do
  let s ← space
  let held := s.cache.length
  let room ← buffer (← difference size held)
  match s.source.readAt held room with
  | .ok more =>
    hold (s.cache ++ more)
    tell (.read held room (s.cache ++ more))
    return true
  | .error _ =>
    tell (.read held room s.cache)
    return false

/-- Extends the cache to `need` bytes, if the source has them. -/
def growTo (need : Nat) : Checked Bool := do
  let held := (← space).cache.length
  let size := min (doubled need (max held headerSize) (headerSize_pos held)) configSize
  if need ≤ held then return true
  else if size < need then return false
  else if ← readTo size then return decide (need ≤ (← space).cache.length)
  else return false

/-- The byte at an offset, if it can be had. -/
def byte? (offset : Nat) : Checked (Option UInt8) := do
  if ← growTo (offset + 1) then return (← space).cache[offset]?
  else return none

/-! ### The walk -/

/-- Setting a flag that is not set leaves fewer of these. -/
theorem count_set_lt_count {flags : List Bool} {offset : Nat} (hlt : offset < flags.length)
    (hflag : ¬ flags[offset] = true) : (flags.set offset true).count false < flags.count false := by
  have hunset : flags[offset] = false := Bool.eq_false_iff.mpr hflag
  have hpos : 0 < flags.count false :=
    List.count_pos_iff.mpr (hunset ▸ List.getElem_mem hlt)
  rw [List.count_set hlt, hunset]
  simp only [beq_self_eq_true, if_true, Bool.true_beq, Bool.false_eq_true, if_false]
  omega

/-- Walks the list from `offset` to the entry with this id, for as long as the list goes on. A flag
that is set stands for an entry that was looked at. -/
def walk (id : UInt8) (flags : List Bool) (offset : Nat) : Checked (Option Nat) :=
  if offset = 0 then pure none
  else if hlt : offset < flags.length then
    if hflag : flags[offset] = true then pure none
    else do
      tell (.examined offset)
      match ← byte? offset with
      | none => return none
      | some found =>
        if found = 0xff then return none
        else if found = id then return some offset
        else
          match ← byte? (offset + 1) with
          | none => return none
          | some next => walk id (flags.set offset true) (offsetOf next)
  else outOfRange (.flag offset)
  termination_by flags.count false
  decreasing_by exact count_set_lt_count hlt hflag

/-- The offset of the first list entry with this id. -/
def findCapability (id : UInt8) : Checked (Option Nat) := do
  match ← byte? statusOffset with
  | none => return none
  | some status =>
    if status &&& 0x10 = 0 then return none
    else
      match ← byte? (pointerPlace (← space)) with
      | none => return none
      | some pointer => walk id (List.replicate configSize false) (offsetOf pointer)

/-- What the power management capability says, at two bytes past its start. -/
def powerManagement : Checked Capability := do
  match ← findCapability powerManagementId with
  | none => return {}
  | some offset =>
    match ← byte? (offset + 2) with
    | none => return {}
    | some _ =>
      match ← byte? (offset + 3) with
      | none => return {}
      | some high => return { d3hot := high &&& 0x40 ≠ 0, d3cold := high &&& 0x80 ≠ 0 }

/-! ### Queries -/

/-- Reads more of a CardBus bridge. -/
def cardBusHeader : Checked Unit := do
  if (← space).isCardBus then
    let _ ← growTo 128
    return ()
  else
    return ()

/-- Reads the header, and what a CardBus bridge has after it. -/
def opening : Checked Unit := do
  let _ ← readTo headerSize
  cardBusHeader

def ask : Query → Checked Unit
  | .capability id => do
    let _ ← findCapability id
    return ()
  | .power => do
    let _ ← powerManagement
    return ()

/-- Asks one query after the other. -/
def askAll : List Query → Checked Unit
  | [] => return ()
  | query :: rest => do
    ask query
    askAll rest

/-- Everything that is done over a source: it is opened, and then asked. -/
def session (queries : List Query) : Checked Unit := do
  opening
  askAll queries

end Checked

variable {α β : Type} {source : ConfigSource} {s : ConfigSpace} {content held middle final : Bytes}
  {events more : List Event} {visited entries : List Nat} {flags : List Bool} {o : Nat}

/-! ## What was gone through -/

/-- The offsets of the entries that were looked at, in order. -/
def examined : List Event → List Nat
  | [] => []
  | .read _ _ _ :: rest => examined rest
  | .examined offset :: rest => offset :: examined rest

theorem examined_append :
    ∀ events more : List Event, examined (events ++ more) = examined events ++ examined more
  | [], _ => rfl
  | .read _ _ _ :: rest, more => examined_append rest more
  | .examined offset :: rest, more => congrArg (offset :: ·) (examined_append rest more)

/-- The reads lead from the bytes held at first to the bytes held at last. Each reads on from where
the cache ends, into no more room than is left of configuration space, and what is held after it is
what was held before and more of the content, as far as there was room. -/
def Extends (content : Bytes) : Bytes → List Event → Bytes → Prop
  | held, [], final => held = final
  | held, .examined _ :: rest, final => Extends content held rest final
  | held, .read start room after :: rest, final =>
    start = held.length ∧ start + room ≤ configSize ∧ after.length ≤ start + room ∧
      held <+: after ∧ after <+: content ∧ Extends content after rest final

/-- Reads that lead on from one another lead from the first bytes held to the last. -/
theorem Extends.trans :
    ∀ {events : List Event} {held : Bytes}, Extends content held events middle →
      Extends content middle more final → Extends content held (events ++ more) final
  | [], _, h, h' => h.symm ▸ h'
  | .examined _ :: rest, held, h, h' =>
    show Extends content held (rest ++ more) final from Extends.trans h h'
  | .read _ _ _ :: _, _, ⟨hstart, hroom, hlen, hgrown, hcontent, hrest⟩, h' =>
    ⟨hstart, hroom, hlen, hgrown, hcontent, hrest.trans h'⟩

/-- What was read so far of a source, no more than configuration space has. -/
structure Held (source : ConfigSource) (s : ConfigSpace) : Prop where
  origin : s.source = source
  cached : s.cache <+: source.content
  bounded : s.cache.length ≤ configSize

/-! ## Readings whose operations keep to their ranges -/

/-- Whatever is held of the source, no operation of the checked reading is out of its range. It comes
to what the plain reading comes to, tells how what is held grew, and the entries that were looked at
satisfy the condition. -/
def Follows (source : ConfigSource) (P : List Nat → Prop) (checked : Checked α) (x : Reading α) :
    Prop :=
  ∀ s, Held source s → Held source (x s).value.2 ∧
    ∃ events, checked s = .ok ((x s).value, events) ∧
      Extends source.content s.cache events (x s).value.2.cache ∧ P (examined events)

namespace Follows

variable {P Q R : List Nat → Prop} {checked : Checked α} {x : Reading α} {f : α → Checked β}
  {g : α → Reading β}

/-- What is known already can be had without a read. -/
theorem pure {a : α} (h : P []) : Follows source P (Pure.pure a) (Pure.pure a) :=
  fun _ hs => ⟨hs, [], rfl, rfl, h⟩

/-- The second reading goes on from what the first one holds. -/
theorem bind (hx : Follows source P checked x) (hf : ∀ a, Follows source Q (f a) (g a))
    (happend : ∀ first rest, P first → Q rest → R (first ++ rest)) :
    Follows source R (checked >>= f) (x >>= g) := by
  intro s hs
  obtain ⟨hs', events, hrun, hextends, hP⟩ := hx s hs
  obtain ⟨hs'', more, hrun', hextends', hQ⟩ := hf (x s).value.1 (x s).value.2 hs'
  refine ⟨hs'', events ++ more, Checked.bind_of_ok hrun hrun', hextends.trans hextends', ?_⟩
  rw [examined_append]
  exact happend _ _ hP hQ

/-- What is done may depend on what is held. -/
theorem space_bind {f : ConfigSpace → Checked β} {g : ConfigSpace → Reading β}
    (hf : ∀ s, Follows source P (f s) (g s)) :
    Follows source P (Checked.space >>= f) (get >>= g) := by
  intro s hs
  obtain ⟨hs', events, hrun, hrest⟩ := hf s s hs
  have hspace : Checked.space s = .ok ((s, s), []) := rfl
  exact ⟨hs', events, Checked.bind_of_ok hspace hrun, hrest⟩

/-- An entry that is looked at is told. -/
theorem tell_bind {f : Unit → Checked α} (hf : Follows source P (f ()) x)
    (hcons : ∀ rest, P rest → Q (o :: rest)) :
    Follows source Q (Checked.tell (.examined o) >>= f) x := by
  intro s hs
  obtain ⟨hs', events, hrun, hextends, hP⟩ := hf s hs
  have htell : Checked.tell (.examined o) s = .ok (((), s), [.examined o]) := rfl
  exact ⟨hs', .examined o :: events, Checked.bind_of_ok htell hrun, hextends, hcons _ hP⟩

/-- A line of the report reads nothing. -/
theorem warn_bind {text : String} {g : Unit → Reading α} (hf : Follows source P checked (g ())) :
    Follows source P checked (((Noted.warn text : Noted Unit) : Reading Unit) >>= g) :=
  fun s hs => hf s hs

/-- Where the first reading looks at no entry, the second one looks at all of them. -/
theorem silent_bind (hx : Follows source (· = []) checked x)
    (hf : ∀ a, Follows source Q (f a) (g a)) : Follows source Q (checked >>= f) (x >>= g) :=
  hx.bind hf fun first rest hfirst hrest => by
    rw [hfirst]
    exact hrest

/-- Where the second reading looks at no entry, the first one looks at all of them. -/
theorem bind_silent (hx : Follows source P checked x)
    (hf : ∀ a, Follows source (· = []) (f a) (g a)) : Follows source P (checked >>= f) (x >>= g) :=
  hx.bind hf fun first rest hfirst hrest => by
    rw [hrest, List.append_nil]
    exact hfirst

end Follows

/-! ## The cache grows within configuration space -/

theorem doubled_of_reached {need size : Nat} {hpos : 0 < size}
    (h : ¬ (size < need ∧ size < configSize)) : Checked.doubled need size hpos = size := by
  rw [Checked.doubled, if_neg h]

theorem doubled_of_short {need size : Nat} {hpos : 0 < size}
    (h : size < need ∧ size < configSize) :
    Checked.doubled need size hpos = Checked.doubled need (2 * size) (by omega) := by
  rw [Checked.doubled, if_pos h]

/-- The size that doubling comes to, cut to configuration space. -/
theorem min_doubled (held need : Nat) :
    min (Checked.doubled need (max held headerSize) (Checked.headerSize_pos held)) configSize =
      sizeFor held need := by
  have hstart : headerSize ≤ max held headerSize := Nat.le_max_right _ _
  have hsizes : configSize = 256 ∧ headerSize = 64 := ⟨rfl, rfl⟩
  unfold sizeFor
  simp only
  by_cases hfirst : max held headerSize < need ∧ max held headerSize < configSize
  · rw [doubled_of_short hfirst, if_neg (by omega)]
    by_cases hsecond : 2 * max held headerSize < need ∧ 2 * max held headerSize < configSize
    · -- after two doublings of the header configuration space is reached
      rw [doubled_of_short hsecond, doubled_of_reached (by omega), if_neg (by omega)]
      omega
    · rw [doubled_of_reached hsecond]
      split <;> omega
  · rw [doubled_of_reached hfirst]
    split
    · rfl
    · split <;> omega

/-- Reading on up to a size takes what is left of it, into a buffer of that size. -/
theorem readTo_eq {size : Nat} (hge : s.cache.length ≤ size) (hle : size ≤ configSize) :
    Checked.readTo size s =
      match s.source.readAt s.cache.length (size - s.cache.length) with
      | .ok more => .ok ((true, { s with cache := s.cache ++ more }),
          [.read s.cache.length (size - s.cache.length) (s.cache ++ more)])
      | .error _ => .ok ((false, s), [.read s.cache.length (size - s.cache.length) s.cache]) := by
  have hdifference : Checked.difference size s.cache.length = pure (size - s.cache.length) :=
    if_pos hge
  have hbuffer : Checked.buffer (size - s.cache.length) = pure (size - s.cache.length) :=
    if_pos (by omega)
  rw [Checked.readTo, Checked.space_bind, hdifference, Checked.pure_bind, hbuffer,
    Checked.pure_bind]
  cases s.source.readAt s.cache.length (size - s.cache.length) <;> rfl

/-- What was read is kept, and is what comes next in the content. -/
theorem Held.append (h : Held source s) {size : Nat} (hge : s.cache.length ≤ size)
    (hle : size ≤ configSize) {more : Bytes}
    (hread : s.source.readAt s.cache.length (size - s.cache.length) = .ok more) :
    Held source { s with cache := s.cache ++ more } ∧
      Extends source.content s.cache
        [.read s.cache.length (size - s.cache.length) (s.cache ++ more)] (s.cache ++ more) := by
  have hcached : s.cache ++ more <+: source.content :=
    append_isPrefix h.cached (h.origin ▸ hread)
  have hlen : (s.cache ++ more).length ≤ size := by
    have hmore := ConfigSource.length_readAt_le hread
    rw [List.length_append]
    omega
  refine ⟨⟨h.origin, hcached, Nat.le_trans hlen hle⟩, ?_⟩
  exact ⟨rfl, by omega, by omega, List.prefix_append _ _, hcached, rfl⟩

/-- A read that fails leaves what is held. -/
theorem Held.fail (h : Held source s) {size : Nat} (hge : s.cache.length ≤ size)
    (hle : size ≤ configSize) :
    Extends source.content s.cache [.read s.cache.length (size - s.cache.length) s.cache] s.cache :=
  ⟨rfl, by omega, by omega, List.prefix_rfl, h.cached, rfl⟩

/-- Growing the cache keeps to the range of every operation, and looks at no entry. -/
theorem growTo_follows (source : ConfigSource) (need : Nat) :
    Follows source (· = []) (Checked.growTo need) (growTo need) := by
  intro s hs
  have hsize : sizeFor s.cache.length need ≤ configSize := sizeFor_le _ _
  have hheld : s.cache.length ≤ sizeFor s.cache.length need := le_sizeFor hs.bounded need
  rw [Checked.growTo, Checked.space_bind, growTo]
  simp only [min_doubled]
  by_cases henough : need ≤ s.cache.length
  · rw [if_pos henough, if_pos henough]
    exact ⟨hs, [], rfl, rfl, rfl⟩
  rw [if_neg henough, if_neg henough]
  by_cases hshort : sizeFor s.cache.length need < need
  · rw [if_pos hshort, if_pos hshort]
    exact ⟨hs, [], rfl, rfl, rfl⟩
  rw [if_neg hshort, if_neg hshort]
  have hrun := readTo_eq hheld hsize
  cases hread : s.source.readAt s.cache.length (sizeFor s.cache.length need - s.cache.length) with
  | ok more =>
    rw [hread] at hrun
    obtain ⟨hgrown, hextends⟩ := hs.append hheld hsize hread
    exact ⟨hgrown, _, Checked.bind_of_ok hrun rfl, hextends, rfl⟩
  | error why =>
    rw [hread] at hrun
    exact ⟨hs, _, Checked.bind_of_ok hrun rfl, hs.fail hheld hsize, rfl⟩

theorem byte?_follows (source : ConfigSource) (offset : Nat) :
    Follows source (· = []) (Checked.byte? offset) (byte? offset) := by
  refine (growTo_follows source (offset + 1)).silent_bind fun grown => ?_
  cases grown with
  | true => exact .space_bind fun s => .pure rfl
  | false => exact .pure rfl

/-! ## The walk passes no entry twice -/

/-- The entries that a walk looks at from here on: places for entries, none of them twice, and none
that was visited before. -/
structure Fresh (visited entries : List Nat) : Prop where
  places : entries ⊆ entryOffsets
  once : entries.Nodup
  unseen : ∀ o ∈ entries, o ∉ visited

namespace Fresh

theorem nil : Fresh visited [] :=
  ⟨List.nil_subset _, List.nodup_nil, fun _ h => absurd h List.not_mem_nil⟩

/-- What is looked at from here on is this entry, and what is looked at once it was visited. -/
theorem cons (hplace : o ∈ entryOffsets) (hseen : o ∉ visited) (h : Fresh (o :: visited) entries) :
    Fresh visited (o :: entries) where
  places := List.cons_subset.mpr ⟨hplace, h.places⟩
  once := List.nodup_cons.mpr ⟨fun hmem => h.unseen o hmem List.mem_cons_self, h.once⟩
  unseen := by
    intro entry hmem
    rcases List.mem_cons.mp hmem with rfl | hmem
    · exact hseen
    · exact fun hvisited => h.unseen entry hmem (List.mem_cons_of_mem o hvisited)

/-- A visit adds a place to those that were visited. -/
theorem visit (h : Fresh [] visited) (hplace : o ∈ entryOffsets) (hseen : o ∉ visited) :
    Fresh [] (o :: visited) where
  places := List.cons_subset.mpr ⟨hplace, h.places⟩
  once := List.nodup_cons.mpr ⟨hseen, h.once⟩
  unseen := fun _ _ => List.not_mem_nil

/-- There are this many places for an entry. -/
theorem length_le (h : Fresh visited entries) : entries.length ≤ 63 := by
  have hle := (List.subperm_of_subset h.once h.places).length_le
  rwa [entryOffsets, List.length_map, List.length_range] at hle

end Fresh

/-- There is a flag for each byte of configuration space, and those of the offsets visited are set. -/
structure Flagged (flags : List Bool) (visited : List Nat) : Prop where
  size : flags.length = configSize
  set_iff : ∀ o (h : o < flags.length), flags[o] = true ↔ o ∈ visited

/-- At first no flag is set. -/
theorem Flagged.none : Flagged (List.replicate configSize false) [] where
  size := List.length_replicate
  set_iff o h := by
    rw [List.getElem_replicate]
    exact iff_of_false Bool.false_ne_true List.not_mem_nil

/-- Setting the flag of an entry is visiting it. -/
theorem Flagged.visit (h : Flagged flags visited) (o : Nat) :
    Flagged (flags.set o true) (o :: visited) where
  size := List.length_set.trans h.size
  set_iff entry hentry := by
    rw [List.length_set] at hentry
    rw [List.getElem_set, List.mem_cons]
    by_cases hsame : o = entry
    · rw [if_pos hsame]
      exact iff_of_true rfl (.inl hsame.symm)
    · rw [if_neg hsame, h.set_iff entry hentry]
      exact ⟨.inr, fun hor => hor.resolve_left (Ne.symm hsame)⟩

/-- A walk that goes on for as long as the list does ends within the steps it is given, since there
are fewer entries to visit than steps. -/
theorem walk_follows (source : ConfigSource) (id : UInt8) :
    ∀ (steps : Nat) (visited : List Nat) (flags : List Bool) (pointer : UInt8),
      Flagged flags visited → Fresh [] visited → maxSteps ≤ visited.length + steps →
        Follows source (Fresh visited) (Checked.walk id flags (offsetOf pointer))
          (walk id steps visited (offsetOf pointer))
  | 0, visited, _, _, _, hvisited, hsteps => by
    have hfew := hvisited.length_le
    have hmax : maxSteps = 64 := rfl
    omega
  | steps + 1, visited, flags, pointer, hflags, hvisited, hsteps => by
    rw [Checked.walk, walk]
    by_cases hzero : offsetOf pointer = 0
    · rw [if_pos hzero, if_pos hzero]
      exact .pure .nil
    have hlt : offsetOf pointer < flags.length := hflags.size ▸ offsetOf_lt pointer
    rw [if_neg hzero, if_neg hzero, dif_pos hlt]
    by_cases hseen : offsetOf pointer ∈ visited
    · rw [dif_pos ((hflags.set_iff _ hlt).mpr hseen), if_pos (List.contains_iff_mem.mpr hseen)]
      exact .warn_bind (.pure .nil)
    have hunseen : ¬ visited.contains (offsetOf pointer) = true :=
      fun h => hseen (List.contains_iff_mem.mp h)
    rw [dif_neg (fun h => hseen ((hflags.set_iff _ hlt).mp h)), if_neg hunseen]
    have hplace : offsetOf pointer ∈ entryOffsets := by
      rw [offsetOf_eq_target] at hzero ⊢
      exact target_mem_entryOffsets hzero
    -- what is left to do looks at entries that are fresh once this one was visited
    refine Follows.tell_bind ?_ fun rest hrest => Fresh.cons hplace hseen hrest
    refine (byte?_follows source _).silent_bind fun byte => ?_
    cases byte with
    | none => exact .pure .nil
    | some found =>
      simp only
      by_cases hvoid : found = 0xff
      · rw [if_pos hvoid, if_pos hvoid]
        exact .pure .nil
      rw [if_neg hvoid, if_neg hvoid]
      by_cases hid : found = id
      · rw [if_pos hid, if_pos hid]
        exact .pure .nil
      rw [if_neg hid, if_neg hid]
      refine (byte?_follows source _).silent_bind fun byte => ?_
      cases byte with
      | none => exact .pure .nil
      | some next =>
        have hleft : maxSteps ≤ (offsetOf pointer :: visited).length + steps := by
          rw [List.length_cons]
          omega
        exact walk_follows source id steps _ _ next (hflags.visit _)
          (hvisited.visit hplace hseen) hleft

/-- A query looks at the entries of one walk, from the start of the list. -/
theorem findCapability_follows (source : ConfigSource) (id : UInt8) :
    Follows source (Fresh []) (Checked.findCapability id) (findCapability id) := by
  refine (byte?_follows source statusOffset).silent_bind fun status => ?_
  cases status with
  | none => exact .pure .nil
  | some status =>
    simp only
    by_cases hbit : status &&& 0x10 = 0
    · rw [if_pos hbit, if_pos hbit]
      exact .pure .nil
    rw [if_neg hbit, if_neg hbit]
    refine .space_bind fun s => ?_
    refine (byte?_follows source (pointerPlace s)).silent_bind fun pointer => ?_
    cases pointer with
    | none => exact .pure .nil
    | some pointer =>
      have hfirst : maxSteps ≤ ([] : List Nat).length + maxSteps := Nat.le_add_left _ _
      exact walk_follows source id maxSteps [] _ pointer .none .nil hfirst

/-- The power management capability is read in range, and no entry is looked at twice for it. -/
theorem powerManagement_follows (source : ConfigSource) :
    Follows source (Fresh []) Checked.powerManagement powerManagement := by
  refine (findCapability_follows source powerManagementId).bind_silent fun found => ?_
  cases found with
  | none => exact .pure rfl
  | some o =>
    refine (byte?_follows source (o + 2)).silent_bind fun low => ?_
    cases low with
    | none => exact .pure rfl
    | some low =>
      refine (byte?_follows source (o + 3)).silent_bind fun high => ?_
      cases high <;> exact .pure rfl

/-! ## Queries over any source -/

/-- Without an operation out of its range, the checked reading leads from what is held of the source
here to what is held of it there. -/
def Reaches (source : ConfigSource) (checked : Checked Unit) (s s' : ConfigSpace) : Prop :=
  Held source s' ∧ ∃ events, checked s = .ok (((), s'), events) ∧
    Extends source.content s.cache events s'.cache

theorem Reaches.trans {first second : Checked Unit} {s' s'' : ConfigSpace}
    (h : Reaches source first s s') (h' : Reaches source second s' s'') :
    Reaches source (first >>= fun _ => second) s s'' := by
  obtain ⟨-, events, hrun, hextends⟩ := h
  obtain ⟨hs, more, hrun', hextends'⟩ := h'
  exact ⟨hs, events ++ more, Checked.bind_of_ok hrun hrun', hextends.trans hextends'⟩

/-- A reading that follows the plain one leads where that does. -/
theorem Follows.reaches {P : List Nat → Prop} {checked : Checked α} {x : Reading α}
    (h : Follows source P checked x) (hs : Held source s) :
    Reaches source (checked >>= fun _ => Pure.pure ()) s (x s).value.2 := by
  obtain ⟨hs', events, hrun, hextends, -⟩ := h s hs
  have hdone : (Pure.pure () : Checked Unit) (x s).value.2 = .ok (((), (x s).value.2), []) := rfl
  exact ⟨hs', events ++ [], Checked.bind_of_ok hrun hdone, hextends.trans rfl⟩

theorem cardBusHeader_reaches (hs : Held source s) :
    Reaches source Checked.cardBusHeader s (withCardBusHeader s).value := by
  unfold withCardBusHeader
  by_cases hbridge : s.isCardBus = true
  · have hrun : Checked.cardBusHeader s = (Checked.growTo 128 >>= fun _ => pure ()) s := by
      rw [Checked.cardBusHeader, Checked.space_bind, if_pos hbridge]
    rw [if_pos hbridge]
    unfold Reaches
    rw [hrun]
    exact (growTo_follows source 128).reaches hs
  · have hrun : Checked.cardBusHeader s = .ok (((), s), []) := by
      rw [Checked.cardBusHeader, Checked.space_bind, if_neg hbridge]
      rfl
    rw [if_neg hbridge]
    exact ⟨hs, [], hrun, rfl⟩

/-- Opening a source keeps to every range as well. -/
theorem opening_reaches (source : ConfigSource) :
    Reaches source Checked.opening ⟨source, []⟩ (ofSource source).value := by
  have hempty : Held source ⟨source, []⟩ := ⟨rfl, List.nil_prefix, Nat.zero_le _⟩
  have hheader : headerSize ≤ configSize := by decide
  have hrest : ∀ {read : Bool} {s : ConfigSpace} {events : List Event}, Held source s →
      Checked.readTo headerSize ⟨source, []⟩ = .ok ((read, s), events) →
        Extends source.content [] events s.cache →
          Reaches source Checked.opening ⟨source, []⟩ (withCardBusHeader s).value := by
    intro read s events hs hread hextends
    obtain ⟨hs', more, hrun, hextends'⟩ := cardBusHeader_reaches hs
    exact ⟨hs', events ++ more, Checked.bind_of_ok hread hrun, hextends.trans hextends'⟩
  -- nothing is held yet, so all of the header is left to read
  have hrun : Checked.readTo headerSize ⟨source, []⟩ =
      match source.readAt 0 headerSize with
      | .ok header => .ok ((true, ⟨source, header⟩), [.read 0 headerSize header])
      | .error _ => .ok ((false, ⟨source, []⟩), [.read 0 headerSize []]) :=
    readTo_eq (Nat.zero_le headerSize) hheader
  unfold ofSource
  cases hread : source.readAt 0 headerSize with
  | ok header =>
    rw [hread] at hrun
    obtain ⟨hgrown, hextends⟩ := hempty.append (Nat.zero_le headerSize) hheader hread
    exact hrest hgrown hrun hextends
  | error why =>
    rw [hread] at hrun
    exact hrest hempty hrun (hempty.fail (Nat.zero_le headerSize) hheader)

/-- One query after the other leads to what the queries leave. -/
theorem askAll_reaches :
    ∀ (queries : List Query) {s : ConfigSpace}, Held source s →
      Reaches source (Checked.askAll queries) s (afterQueries queries s)
  | [], _, h => ⟨h, [], rfl, rfl⟩
  | .capability id :: rest, _, h =>
    have hasked := (findCapability_follows source id).reaches h
    hasked.trans (askAll_reaches rest hasked.1)
  | .power :: rest, _, h =>
    have hasked := (powerManagement_follows source).reaches h
    hasked.trans (askAll_reaches rest hasked.1)

/-- The walk is bounded and keeps to every range. Whatever a source gives for whatever is asked, its
configuration space is opened and queried without an operation out of its range, reading on from what
is held into no more than configuration space. What is held is how the content begins, no more than 256
bytes of it, and no query makes it less. A query after any others comes to its answer by looking at 63
entries of the list at most, and at none of them twice. -/
theorem walk_keeps_in_range (source : ConfigSource) (queries : List Query) :
    let s := afterQueries queries (ofSource source).value
    (∃ events, Checked.session queries ⟨source, []⟩ = .ok (((), s), events) ∧
        Extends source.content [] events s.cache) ∧
      (s.cache <+: source.content ∧ s.cache.length ≤ 256 ∧
        ∀ later, s.cache <+: (afterQueries later s).cache) ∧
      (∀ id, ∃ events, Checked.findCapability id s = .ok ((findCapability id s).value, events) ∧
        Extends source.content s.cache events (findCapability id s).value.2.cache ∧
          (examined events).Nodup ∧ (examined events).length ≤ 63) ∧
      ∃ events, Checked.powerManagement s = .ok ((powerManagement s).value, events) ∧
        Extends source.content s.cache events (powerManagement s).value.2.cache ∧
          (examined events).Nodup ∧ (examined events).length ≤ 63 := by
  intro s
  have hopened := opening_reaches source
  have hsession : Reaches source (Checked.session queries) ⟨source, []⟩ s :=
    hopened.trans (askAll_reaches queries hopened.1)
  have hs : Held source s := hsession.1
  refine ⟨hsession.2, ⟨hs.cached, hs.bounded, fun later => ?_⟩, fun id => ?_, ?_⟩
  · have hbacked := (afterQueries_backed queries (ofSource_backed source)).1
    exact (afterQueries_backed later hbacked).2
  · obtain ⟨-, events, hrun, hextends, hfresh⟩ := findCapability_follows source id s hs
    exact ⟨events, hrun, hextends, hfresh.once, hfresh.length_le⟩
  · obtain ⟨-, events, hrun, hextends, hfresh⟩ := powerManagement_follows source s hs
    exact ⟨events, hrun, hextends, hfresh.once, hfresh.length_le⟩

end HybridGraphics.Pci.ConfigSpace
