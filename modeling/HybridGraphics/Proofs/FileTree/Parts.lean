import HybridGraphics.Proofs.FileTree.Place
import HybridGraphics.Proofs.Text.Cuts

/-!
# Paths with the same text

A path says where its base ends and its names begin, and its text does not. Where directories are
created on the way to an entry, the machine goes by the text alone: the directories of the base may be
missing as well as any others. `Path.spelledOut` is the path with all of them as names. It has the text
of the path (`text_spelledOut`) and leads where that does (`place_spelledOut`), and paths that spell the
same text have the same directories created for them, wherever their bases end
(`makeDirs_of_same_text`, `makeParent_of_same_text`).

A text is put together from the parts of the path (`text_eq_intercalate`). They are what it is cut into
again, as long as no name holds a slash itself (`components_text`).
-/

namespace HybridGraphics

namespace Path

variable {p q : Path} {names : List FileName}

/-! ## Parts of a text -/

/-- Putting components together with slashes puts their characters together. -/
theorem toList_intercalate :
    ∀ names : List FileName, ("/".intercalate names).toList =
      Text.joined '/' (names.map String.toList)
  | [] => by rw [String.intercalate_nil]; rfl
  | [name] => by rw [String.intercalate_singleton]; rfl
  | name :: next :: rest => by
    have ih := toList_intercalate (next :: rest)
    show _ = name.toList ++ '/' :: Text.joined '/' ((next :: rest).map String.toList)
    rw [String.intercalate_cons_cons, String.toList_append, String.toList_append, ih,
      List.append_assoc]
    rfl

/-- A text is its components with slashes between them. -/
theorem intercalate_components (text : String) : "/".intercalate (components text) = text := by
  have hruns : (components text).map String.toList = Text.pieces (· == '/') text.toList := by
    have hid : String.toList ∘ String.ofList = id := funext fun _ => String.toList_ofList
    unfold components
    rw [List.map_map, hid, List.map_id]
  rw [← String.toList_inj, toList_intercalate, hruns, Text.joined_pieces]

theorem components_ne_nil (text : String) : components text ≠ [] :=
  fun h => Text.pieces_ne_nil _ _ (List.map_eq_nil_iff.mp h)

/-- Names without slashes are the components of the text they are put together to. -/
theorem components_intercalate (hne : names ≠ []) (h : ∀ name ∈ names, '/' ∉ name.toList) :
    components ("/".intercalate names) = names := by
  have hruns : ∀ run ∈ names.map String.toList, '/' ∉ run := by
    intro run hrun
    obtain ⟨name, hname, heq⟩ := List.mem_map.mp hrun
    exact heq ▸ h name hname
  have hid : String.ofList ∘ String.toList = id := funext fun _ => String.ofList_toList
  unfold components
  rw [toList_intercalate, Text.pieces_joined (mt List.map_eq_nil_iff.mp hne) hruns, List.map_map,
    hid, List.map_id]

/-- A text ends in an empty component if it is empty or ends in a slash. -/
theorem getLast?_components_iff {text : String} :
    (components text).getLast? = some "" ↔ text = "" ∨ text.toList.getLast? = some '/' := by
  have hempty : text = "" ↔ text.toList = [] := by
    rw [← String.toList_inj]
    rfl
  rw [hempty, ← Text.getLast?_pieces_iff]
  unfold components
  rw [List.getLast?_map, Option.map_eq_some_iff]
  constructor
  · intro h
    obtain ⟨run, hrun, he⟩ := h
    rw [hrun, String.ofList_eq_empty_iff.mp he]
  · intro h
    exact ⟨[], h, rfl⟩

/-- The text of a path is its parts with slashes between them. -/
theorem text_eq_intercalate (p : Path) : p.text = "/".intercalate p.parts := by
  unfold text parts
  simp only [List.isEmpty_iff]
  by_cases htail : p.tail = []
  · rw [if_pos htail, if_pos htail, intercalate_components]
  rw [if_neg htail, if_neg htail]
  have hbase := intercalate_components p.base
  have hslash : (p.base.isEmpty || p.base.toList.getLast? == some '/') = true ↔
      (components p.base).getLast? = some "" := by
    rw [getLast?_components_iff, Bool.or_eq_true, String.isEmpty_iff, beq_iff_eq]
  by_cases hend : (components p.base).getLast? = some ""
  · rw [if_pos (hslash.mpr hend), if_pos hend]
    obtain ⟨above, habove⟩ := List.getLast?_eq_some_iff.mp hend
    rw [habove] at hbase
    rw [habove, List.dropLast_concat]
    by_cases hnone : above = []
    · rw [hnone, List.nil_append, String.intercalate_singleton] at hbase
      rw [hnone, List.nil_append, ← hbase, String.empty_append]
    · rw [String.intercalate_append_of_ne_nil hnone (List.cons_ne_nil _ _),
        String.intercalate_singleton, String.append_empty] at hbase
      rw [String.intercalate_append_of_ne_nil hnone htail, hbase]
  · rw [if_neg (mt hslash.mp hend), if_neg hend,
      String.intercalate_append_of_ne_nil (components_ne_nil _) htail, hbase]

/-- A component holds no slash. -/
theorem slash_not_mem_of_mem_components {text : String} {name : FileName}
    (h : name ∈ components text) : '/' ∉ name.toList := by
  obtain ⟨run, hrun, heq⟩ := List.mem_map.mp h
  rw [← heq, String.toList_ofList]
  intro hmem
  have hsep := Text.not_sep_of_mem_pieces _ _ run hrun '/' hmem
  rw [beq_self_eq_true] at hsep
  cases hsep

theorem parts_ne_nil (p : Path) : p.parts ≠ [] := by
  unfold parts
  simp only [List.isEmpty_iff]
  by_cases htail : p.tail = []
  · rw [if_pos htail]
    exact components_ne_nil _
  · rw [if_neg htail]
    exact List.append_ne_nil_of_right_ne_nil _ htail

/-- Cutting the text gives the parts, if no name holds a slash. -/
theorem components_text (h : ∀ name ∈ p.names, '/' ∉ name.toList) : components p.text = p.parts := by
  have hbase : ∀ name ∈ components p.base, '/' ∉ name.toList :=
    fun name hname => slash_not_mem_of_mem_components hname
  have htail : ∀ name ∈ p.tail, '/' ∉ name.toList := by
    intro name hname
    rcases List.mem_append.mp hname with hname | hname
    · exact h name hname
    · split at hname
      · rw [List.mem_singleton.mp hname]
        decide
      · exact absurd hname List.not_mem_nil
  rw [text_eq_intercalate]
  refine components_intercalate p.parts_ne_nil fun name hname => ?_
  unfold parts at hname
  split at hname
  · exact hbase name hname
  · rcases List.mem_append.mp hname with hname | hname
    · split at hname
      · exact hbase name (List.dropLast_subset _ hname)
      · exact hbase name hname
    · exact htail name hname

/-! ## The path with all its directories as names -/

/-- The components after the base are those that the path was made of. -/
theorem tail_ofTail (base : String) (names : List FileName) : (ofTail base names).tail = names := by
  unfold ofTail
  split
  next hlast =>
    obtain ⟨above, habove⟩ := List.getLast?_eq_some_iff.mp hlast
    rw [habove, List.dropLast_concat]
    rfl
  next => exact List.append_nil names

theorem base_ofTail (base : String) (names : List FileName) : (ofTail base names).base = base := by
  unfold ofTail
  split <;> rfl

/-- Components lead to a path that has them after its base. Beneath the root the first of them is not
among these, since it is empty. -/
theorem ofComponents_cases {parts : List FileName} (hne : parts ≠ []) :
    ofComponents "" parts = ofTail "" parts ∨
      ∃ rest, rest ≠ [] ∧ parts = "" :: rest ∧ ofComponents "" parts = ofTail "/" rest := by
  unfold ofComponents
  split
  next rest =>
    cases rest with
    | nil => exact .inl rfl
    | cons next rest => exact .inr ⟨next :: rest, List.cons_ne_nil _ _, rfl, rfl⟩
  next => exact .inl rfl

/-- Spelling a path out leaves its text. -/
theorem text_spelledOut (p : Path) : p.spelledOut.text = p.text := by
  have hne := p.parts_ne_nil
  rw [text_eq_intercalate p]
  unfold spelledOut text
  rcases ofComponents_cases hne with hparts | ⟨rest, hrest, hparts, htop⟩
  · rw [hparts, tail_ofTail, base_ofTail, if_neg (mt List.isEmpty_iff.mp hne)]
    exact String.empty_append
  · rw [htop, tail_ofTail, base_ofTail, if_neg (mt List.isEmpty_iff.mp hrest), hparts,
      String.intercalate_cons_of_ne_nil hrest]
    rfl

/-- A path that is spelled out leads where it led. -/
theorem place_spelledOut (p : Path) : p.spelledOut.place = p.place := by
  have hparts : named p.parts = p.place := by
    unfold parts place route
    simp only [List.isEmpty_iff]
    by_cases htail : p.tail = []
    · rw [if_pos htail, htail, List.append_nil]
    rw [if_neg htail, named_append, named_append]
    by_cases hend : (components p.base).getLast? = some ""
    · obtain ⟨above, habove⟩ := List.getLast?_eq_some_iff.mp hend
      rw [if_pos hend, habove, List.dropLast_concat, named_append above]
      simp [named, isIdle]
    · rw [if_neg hend]
  rw [← hparts]
  unfold spelledOut place route
  rcases ofComponents_cases p.parts_ne_nil with hsame | ⟨rest, -, hrest, htop⟩
  · rw [hsame, tail_ofTail, base_ofTail]
    rfl
  · rw [htop, tail_ofTail, base_ofTail, hrest]
    rfl

/-- Whether a path climbs can be told from the names of its place. -/
theorem descends_iff : p.Descends ↔ ".." ∉ p.place := by
  unfold Descends place named
  simp [isIdle]

theorem Descends.spelledOut (h : p.Descends) : p.spelledOut.Descends := by
  rw [descends_iff, place_spelledOut]
  exact descends_iff.mp h

/-- The machine takes the path just as well. -/
theorem Walkable.spelledOut (h : p.Walkable) : p.spelledOut.Walkable := by
  unfold Walkable refusal? at h ⊢
  rw [text_spelledOut, place_spelledOut]
  exact h

/-- Paths whose names hold no slash are spelled out alike if their texts are the same. -/
theorem spelledOut_eq_of_text (hp : ∀ name ∈ p.names, '/' ∉ name.toList)
    (hq : ∀ name ∈ q.names, '/' ∉ name.toList) (h : p.text = q.text) :
    p.spelledOut = q.spelledOut := by
  unfold spelledOut
  rw [← components_text hp, ← components_text hq, h]

/-! ## Paths that go on from others -/

/-- The path goes on from another one by these components. -/
def GoesOn (p q : Path) (more : List FileName) : Prop := p.base = q.base ∧ p.tail = q.tail ++ more

variable {more : List FileName}

/-- It leads below the place where the other one leads. -/
theorem GoesOn.place_eq (h : p.GoesOn q more) : p.place = q.place ++ named more := by
  simp only [place, route, h.1, h.2, ← List.append_assoc, named_append]

/-- Its text goes on from the other's. -/
theorem GoesOn.text_eq (h : p.GoesOn q more) : ∃ rest, p.text = q.text ++ rest := by
  obtain ⟨hbase, htail⟩ := h
  unfold text
  rw [hbase, htail]
  by_cases hm : more = []
  · exact ⟨"", by rw [hm, List.append_nil, String.append_empty]⟩
  by_cases hq : q.tail = []
  · simp only [hq, List.nil_append, List.isEmpty_iff, hm, if_true, if_false]
    split
    · exact ⟨_, rfl⟩
    · exact ⟨_, String.append_assoc⟩
  · simp only [List.isEmpty_iff, hq, List.append_eq_nil_iff, false_and, if_false,
      String.intercalate_append_of_ne_nil hq hm]
    split
    · exact ⟨_, by simp only [String.append_assoc]; rfl⟩
    · exact ⟨_, by simp only [String.append_assoc]; rfl⟩

theorem Descends.of_goesOn (down : p.Descends) (h : p.GoesOn q more) : q.Descends := by
  rw [descends_iff] at down ⊢
  rw [h.place_eq, List.mem_append, not_or] at down
  exact down.1

/-- The machine takes every path that one it takes goes on from. -/
theorem Walkable.of_goesOn (hw : p.Walkable) (h : p.GoesOn q more) : q.Walkable := by
  constructor
  · obtain ⟨rest, ht⟩ := h.text_eq
    have hr := hw.1
    unfold refusal? at hr ⊢
    rw [ht] at hr
    split at hr
    next => cases hr
    next hnul =>
      split at hr
      next => cases hr
      next hlen =>
        rw [String.toList_append, List.mem_append, not_or] at hnul
        rw [String.utf8ByteSize_append] at hlen
        rw [if_neg hnul.1, if_neg (by omega)]
  · intro n hn
    exact hw.2 n (h.place_eq ▸ List.mem_append_left _ hn)

/-- A slash at the end goes on by an empty component. -/
theorem goesOn_withoutSlash (p : Path) :
    p.GoesOn { base := p.base, names := p.names } (if p.endsInSlash then [""] else []) :=
  ⟨rfl, by simp [tail]⟩

/-- That leads nowhere else. -/
theorem place_withoutSlash (p : Path) :
    ({ base := p.base, names := p.names } : Path).place = p.place := by
  have hempty : named (if p.endsInSlash then [""] else []) = [] := by
    split <;> decide
  rw [p.goesOn_withoutSlash.place_eq, hempty, List.append_nil]

/-- A directory goes on from the one above it, where the names are given last first. -/
theorem goesOn_reverse_cons (base : String) (name : FileName) (above : List FileName) :
    GoesOn { base, names := (name :: above).reverse } { base, names := above.reverse } [name] :=
  ⟨rfl, by simp [tail]⟩

end Path

namespace FileTree

variable {p q : Path}

/-- Which directories are created depends on the text of a path, and not on where the base ends. -/
theorem makeDirs_of_same_text (t : FileTree) (hp : ∀ name ∈ p.names, '/' ∉ name.toList)
    (hq : ∀ name ∈ q.names, '/' ∉ name.toList) (h : p.text = q.text) :
    t.makeDirs p = t.makeDirs q := by
  unfold makeDirs
  rw [Path.spelledOut_eq_of_text hp hq h]

-- a base that is missing is created as well
example : (FileTree.makeDirs ⟨[]⟩ { base := "/etc/modprobe.d", names := ["local"] }).1.hasDir
    { base := "/etc", names := ["modprobe.d"] } = true := by decide +kernel

/-- The same holds of the directories that are created for an entry. -/
theorem makeParent_of_same_text (t : FileTree) (hp : ∀ name ∈ p.names, '/' ∉ name.toList)
    (hq : ∀ name ∈ q.names, '/' ∉ name.toList) (h : p.text = q.text) :
    t.makeParent p = t.makeParent q := by
  unfold makeParent
  rw [Path.spelledOut_eq_of_text hp hq h]

end FileTree

end HybridGraphics
