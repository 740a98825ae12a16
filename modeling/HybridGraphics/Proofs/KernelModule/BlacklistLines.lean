import HybridGraphics.KernelModule.Blacklist
import HybridGraphics.Proofs.System.Rehearsal
import HybridGraphics.Proofs.Text.Cuts

/-!
# The lines that blacklist a module

`BlacklistLine` says what stands on such a line: the keyword, blanks, the name, and at most blanks
after it. The search is made at every place where a line starts, and goes on to where it ends. As
neither the keyword nor a blank nor the name holds a newline, what it finds is one of the pieces that a
text is cut into at its newlines (`blacklistedIn_iff`). The name stands for itself in it, and may begin
or end with blanks of its own.
-/

namespace HybridGraphics.KernelModule

/-- Spaces and tabs only. -/
def Blanks (text : List Char) : Prop := ∀ c ∈ text, c = ' ' ∨ c = '\t'

/-- The line blacklists the module. -/
def BlacklistLine (name line : List Char) : Prop :=
  ∃ before after, line = "blacklist".toList ++ (before ++ (name ++ after)) ∧
    before ≠ [] ∧ Blanks before ∧ Blanks after

/-- What stands after a line: nothing, or a newline first. -/
def FollowsLine (text : List Char) : Prop := ∀ c ∈ text.head?, c = '\n'

theorem isInlineBlank_iff {c : Char} : isInlineBlank c = true ↔ c = ' ' ∨ c = '\t' := by
  unfold isInlineBlank
  rw [Bool.or_eq_true, decide_eq_true_eq, decide_eq_true_eq]

theorem blanks_cons {c : Char} {text : List Char} :
    Blanks (c :: text) ↔ isInlineBlank c = true ∧ Blanks text := by
  unfold Blanks
  rw [List.forall_mem_cons, isInlineBlank_iff]

/-! ## One place where a line starts -/

theorem afterStart?_eq_some_iff {start text rest : List Char} :
    afterStart? start text = some rest ↔ text = start ++ rest := by
  unfold afterStart?
  constructor
  · intro h
    split at h
    next hstart =>
      obtain ⟨rest', hrest'⟩ := List.isPrefixOf_iff_prefix.mp hstart
      rw [← hrest', List.drop_left] at h
      rw [← hrest', Option.some.inj h]
    next => cases h
  · intro h
    rw [h, if_pos (List.isPrefixOf_iff_prefix.mpr (List.prefix_append start rest)), List.drop_left]

/-- Blanks are followed by the end of a line just if no more than blanks stand before it. -/
theorem dropWhile_isInlineBlank_iff {text tail : List Char} (htail : FollowsLine tail) :
    text.dropWhile isInlineBlank = tail ↔ ∃ after, text = after ++ tail ∧ Blanks after := by
  constructor
  · intro h
    refine ⟨text.takeWhile isInlineBlank, ?_, fun c hc => ?_⟩
    · rw [← h, List.takeWhile_append_dropWhile]
    · exact isInlineBlank_iff.mp (List.mem_takeWhile_imp hc)
  · intro h
    obtain ⟨after, hsplit, hafter⟩ := h
    rw [hsplit, List.dropWhile_append_of_pos fun c hc => isInlineBlank_iff.mpr (hafter c hc)]
    cases tail with
    | nil => rfl
    | cons c rest =>
      rw [htail c rfl, List.dropWhile_cons_of_neg (by decide)]

/-- The text begins with the name, and nothing but blanks stands between that and the end of the
line. -/
theorem namesToLineEnd_iff {name text : List Char} :
    namesToLineEnd name text = true ↔
      ∃ after tail, text = name ++ (after ++ tail) ∧ Blanks after ∧ FollowsLine tail := by
  unfold namesToLineEnd
  constructor
  · intro h
    split at h
    next => cases h
    next rest hrest =>
      have htail : FollowsLine (rest.dropWhile isInlineBlank) := by
        intro c hc
        split at h
        next hnil =>
          rw [hnil] at hc
          cases hc
        next hcons =>
          rw [hcons] at hc
          cases hc
          exact of_decide_eq_true h
      obtain ⟨after, hsplit, hafter⟩ := (dropWhile_isInlineBlank_iff htail).mp rfl
      refine ⟨after, _, ?_, hafter, htail⟩
      rw [← hsplit]
      exact afterStart?_eq_some_iff.mp hrest
  · intro h
    obtain ⟨after, tail, htext, hafter, htail⟩ := h
    have hdrop := (dropWhile_isInlineBlank_iff htail).mpr ⟨after, rfl, hafter⟩
    rw [afterStart?_eq_some_iff.mpr htext]
    dsimp only
    rw [hdrop]
    cases tail with
    | nil => rfl
    | cons c rest => exact decide_eq_true (htail c rfl)

/-- The text begins with blanks, at least one, and then names the module to the end of the line. -/
theorem blanksThenName_iff {name : List Char} :
    ∀ {text : List Char}, blanksThenName name text = true ↔
      ∃ before after tail, text = before ++ (name ++ (after ++ tail)) ∧ before ≠ [] ∧
        Blanks before ∧ Blanks after ∧ FollowsLine tail
  | [] => by
    constructor
    · intro h
      cases h
    · intro h
      obtain ⟨before, after, tail, htext, hne, -⟩ := h
      exact absurd (List.append_eq_nil_iff.mp htext.symm).1 hne
  | c :: rest => by
    have ih : blanksThenName name rest = true ↔ _ := blanksThenName_iff
    unfold blanksThenName
    rw [Bool.and_eq_true, Bool.or_eq_true, namesToLineEnd_iff, ih]
    constructor
    · intro h
      obtain ⟨hc, hlast | hmore⟩ := h
      · obtain ⟨after, tail, hrest, hafter, htail⟩ := hlast
        exact ⟨[c], after, tail, by rw [hrest]; rfl, List.cons_ne_nil c [],
          blanks_cons.mpr ⟨hc, fun _ h => absurd h List.not_mem_nil⟩, hafter, htail⟩
      · obtain ⟨before, after, tail, hrest, -, hbefore, hafter, htail⟩ := hmore
        exact ⟨c :: before, after, tail, by rw [hrest]; rfl, List.cons_ne_nil c before,
          blanks_cons.mpr ⟨hc, hbefore⟩, hafter, htail⟩
    · intro h
      obtain ⟨before, after, tail, htext, hne, hbefore, hafter, htail⟩ := h
      cases before with
      | nil => exact absurd rfl hne
      | cons b before =>
        obtain ⟨rfl, hrest⟩ := List.cons.inj htext
        obtain ⟨hb, hbefore⟩ := blanks_cons.mp hbefore
        refine ⟨hb, ?_⟩
        cases before with
        | nil => exact .inl ⟨after, tail, hrest, hafter, htail⟩
        | cons b' before =>
          exact .inr ⟨b' :: before, after, tail, hrest, List.cons_ne_nil b' before, hbefore, hafter,
            htail⟩

/-! ## The lines of a text -/

/-- The pieces between newlines are what the places where a line starts go on with. -/
theorem pieces_newline : ∀ text : List Char,
    Text.pieces (· == '\n') text = (text :: afterNewlines text).map (·.takeWhile (· != '\n'))
  | [] => rfl
  | c :: rest => by
    have ih := pieces_newline rest
    unfold Text.pieces afterNewlines
    by_cases hc : c = '\n'
    · rw [if_pos (beq_iff_eq.mpr hc), if_pos hc, ih, hc]
      rfl
    · have hstarts : (c :: rest).takeWhile (· != '\n') = c :: rest.takeWhile (· != '\n') :=
        List.takeWhile_cons_of_pos (bne_iff_ne.mpr hc)
      rw [if_neg (by rwa [beq_iff_eq]), if_neg hc, ih]
      simp only [List.map_cons, hstarts]

/-- Up to the first newline, a line and what may follow it is the line. -/
theorem takeWhile_newline_of_followsLine {line tail : List Char} (h : '\n' ∉ line)
    (htail : FollowsLine tail) : (line ++ tail).takeWhile (· != '\n') = line := by
  rw [List.takeWhile_append_of_pos fun c hc => bne_iff_ne.mpr (ne_of_mem_of_not_mem hc h)]
  cases tail with
  | nil => rw [List.takeWhile_nil, List.append_nil]
  | cons c rest =>
    rw [htail c rfl, List.takeWhile_cons_of_neg (by decide), List.append_nil]

theorem followsLine_dropWhile_newline (text : List Char) :
    FollowsLine (text.dropWhile (· != '\n')) := by
  intro c hc
  have hstop := List.head?_dropWhile_not (· != '\n') text
  rw [hc] at hstop
  simpa using hstop

theorem Blanks.newline_not_mem {text : List Char} (h : Blanks text) : '\n' ∉ text := by
  intro hmem
  rcases h _ hmem with hblank | hblank <;> cases hblank

/-- A line that blacklists a module is one line, if the module's name is. -/
theorem BlacklistLine.newline_not_mem {name line : List Char} (h : BlacklistLine name line)
    (hname : '\n' ∉ name) : '\n' ∉ line := by
  obtain ⟨before, after, hline, -, hbefore, hafter⟩ := h
  have hkeyword : '\n' ∉ "blacklist".toList := by decide
  rw [hline]
  simp only [List.mem_append, not_or]
  exact ⟨hkeyword, hbefore.newline_not_mem, hname, hafter.newline_not_mem⟩

/-- What is found at a place is the line that starts there. -/
theorem blacklists_iff {name start : List Char} (hname : '\n' ∉ name) :
    (match afterStart? "blacklist".toList start with
      | some rest => blanksThenName name rest
      | none => false) = true ↔ BlacklistLine name (start.takeWhile (· != '\n')) := by
  constructor
  · intro h
    split at h
    next rest hrest =>
      obtain ⟨before, after, tail, hsplit, hne, hbefore, hafter, htail⟩ := blanksThenName_iff.mp h
      have hline : BlacklistLine name ("blacklist".toList ++ (before ++ (name ++ after))) :=
        ⟨before, after, rfl, hne, hbefore, hafter⟩
      have hstart : start = ("blacklist".toList ++ (before ++ (name ++ after))) ++ tail := by
        rw [afterStart?_eq_some_iff.mp hrest, hsplit]
        simp only [List.append_assoc]
      rw [hstart, takeWhile_newline_of_followsLine (hline.newline_not_mem hname) htail]
      exact hline
    next => cases h
  · intro h
    obtain ⟨before, after, hline, hne, hbefore, hafter⟩ := h
    have hstart : start = "blacklist".toList ++
        (before ++ (name ++ (after ++ start.dropWhile (· != '\n')))) := by
      conv => lhs; rw [← @List.takeWhile_append_dropWhile _ (· != '\n') start, hline]
      simp only [List.append_assoc]
    rw [afterStart?_eq_some_iff.mpr hstart]
    exact blanksThenName_iff.mpr ⟨before, after, _, rfl, hne, hbefore, hafter,
      followsLine_dropWhile_newline start⟩

/-- A text blacklists the modules that a line of it does. -/
theorem blacklistedIn_iff {text name : List Char} (hname : '\n' ∉ name) :
    blacklistedIn text name = true ↔
      ∃ line ∈ Text.pieces (· == '\n') text, BlacklistLine name line := by
  unfold blacklistedIn
  rw [List.any_eq_true, pieces_newline]
  constructor
  · intro h
    obtain ⟨start, hstart, hfound⟩ := h
    exact ⟨_, List.mem_map_of_mem hstart, (blacklists_iff hname).mp hfound⟩
  · intro h
    obtain ⟨line, hline, hblacklists⟩ := h
    obtain ⟨start, hstart, rfl⟩ := List.mem_map.mp hline
    exact ⟨start, hstart, (blacklists_iff hname).mpr hblacklists⟩

/-! ## The files that are searched -/

/-- A name with a dot has as its extension what stands after the last one, if anything stands before
that. -/
theorem extension?_of_last_dot {name : FileName} {stem ext : List Char}
    (hname : name.toList = stem ++ '.' :: ext) (hext : '.' ∉ ext) :
    Path.extension? name = if stem = [] then none else some ext := by
  have hstem : Text.pieces (· == '.') stem = [[]] ↔ stem = [] := by
    constructor
    · intro h
      have hjoined := Text.joined_pieces '.' stem
      rw [h] at hjoined
      exact hjoined.symm
    · intro h
      rw [h]
      rfl
  have hne := Text.pieces_ne_nil (· == '.') stem
  unfold Path.extension?
  rw [hname, Text.pieces_append_sep _ '.' rfl, Text.pieces_of_not_mem hext, List.reverse_append,
    List.reverse_singleton, List.singleton_append]
  cases hp : (Text.pieces (· == '.') stem).reverse with
  | nil => exact absurd (List.reverse_eq_nil_iff.mp hp) hne
  | cons before more =>
    rw [List.reverse_eq_iff] at hp
    refine ite_congr ?_ (fun _ => rfl) (fun _ => rfl)
    rw [← hstem, hp, Bool.and_eq_true, List.isEmpty_iff, List.isEmpty_iff, List.reverse_eq_iff,
      List.reverse_singleton, List.cons.injEq]

/-- The extension is what stands after the last dot, and some character stands before that dot. -/
theorem extension?_eq_some_iff {name : FileName} {ext : List Char} :
    Path.extension? name = some ext ↔
      '.' ∉ ext ∧ ∃ stem, stem ≠ [] ∧ name.toList = stem ++ '.' :: ext := by
  constructor
  · intro h
    by_cases hdot : '.' ∈ name.toList
    · obtain ⟨after, before, hsplit, hafter⟩ :=
        List.eq_append_cons_of_mem (List.mem_reverse.mpr hdot)
      rw [List.reverse_eq_iff, List.reverse_append, List.reverse_cons, List.append_assoc,
        List.singleton_append] at hsplit
      have hlast : '.' ∉ after.reverse := fun hmem => hafter (List.mem_reverse.mp hmem)
      rw [extension?_of_last_dot hsplit hlast] at h
      split at h
      next => cases h
      next hstem =>
        cases h
        exact ⟨hlast, _, hstem, hsplit⟩
    · unfold Path.extension? at h
      rw [Text.pieces_of_not_mem hdot] at h
      cases h
  · intro h
    obtain ⟨hext, stem, hstem, hname⟩ := h
    rw [extension?_of_last_dot hname hext, if_neg hstem]

variable {config : Config} {t : FileTree} {dir : Path} {name : String}

/-- The entry is a file of the extension that modprobe reads, and a line of its text blacklists the
module. -/
def EntryBlacklists (name : String) (t : FileTree) (dir : Path) (entry : FileName) : Prop :=
  (∃ stem, stem ≠ [] ∧ entry.toList = stem ++ ".conf".toList) ∧
    ∃ text, t.readText (dir.child entry) = .ok text ∧
      ∃ line ∈ Text.pieces (· == '\n') text, BlacklistLine name.toList line

/-- A look at an entry finds the module exactly if the entry blacklists it. -/
theorem checkFile_isSome_iff (hname : '\n' ∉ name.toList) {entry : FileName} :
    (checkFile name dir t entry).value.isSome = true ↔ EntryBlacklists name t dir entry := by
  have hconf : Path.extension? entry = some "conf".toList ↔
      ∃ stem, stem ≠ [] ∧ entry.toList = stem ++ ".conf".toList :=
    extension?_eq_some_iff.trans (and_iff_right (by decide))
  unfold checkFile EntryBlacklists
  rw [← hconf]
  by_cases hext : Path.extension? entry = some "conf".toList
  · rw [if_neg (by simpa using hext), and_iff_right hext]
    cases hread : t.readText (dir.child entry) with
    | error cause => simp
    | ok text =>
      have hlines : blacklistedIn text name.toList = true ↔ _ := blacklistedIn_iff hname
      by_cases hfound : blacklistedIn text name.toList = true
      · simpa [hfound] using hlines.mp hfound
      · simpa [hfound] using mt hlines.mpr hfound
  · rw [if_pos (by simpa using hext)]
    exact iff_of_false Bool.false_ne_true fun h => hext h.1

/-- A look through a directory finds the module exactly if one of the entries blacklists it. -/
theorem checkDir_isSome_iff (hname : '\n' ∉ name.toList) :
    (checkDir name t dir).value.isSome = true ↔
      ∃ entries, t.list dir = .ok entries ∧ ∃ entry ∈ entries, EntryBlacklists name t dir entry := by
  unfold checkDir
  cases hlist : t.list dir with
  | error cause => simp
  | ok entries =>
    simp only [Noted.value_findM?, List.findSome?_isSome_iff, checkFile_isSome_iff hname,
      Except.ok.injEq, exists_eq_left']

/-- A module is blacklisted just if a line of a file that modprobe reads says so: a directory of the
list can be listed, an entry of it has the extension and reads as text, and a piece of the text between
newlines is the keyword, blanks, the name, and nothing but blanks. No other directory or file counts,
nor their order. -/
theorem blacklisted_iff_line (config : Config) (name : String) (t : FileTree)
    (hname : '\n' ∉ name.toList) :
    (isBlacklisted config name t).value = true ↔
      ∃ dir ∈ config.modprobeDirs, ∃ entries, t.list dir = .ok entries ∧
        ∃ entry ∈ entries, EntryBlacklists name t dir entry := by
  unfold isBlacklisted
  simp only [Noted.value_bind, Noted.value_pure, Noted.value_findM?, List.findSome?_isSome_iff,
    checkDir_isSome_iff hname]

namespace Laptop

/-- A modprobe directory in which one line blacklists a module, and others nearly do. -/
def modprobe : FileTree :=
  ⟨[("m", .dir [("modprobe.d", .dir
    [("graphics.conf", HybridGraphics.Laptop.file
        "# blacklist a.b\n blacklist a.b\nblacklist a.b\r\nblacklist \ta.b+c \nblacklist a.b.c"),
      ("graphics.conf.old", HybridGraphics.Laptop.file "blacklist a.b\n")])])]⟩

end Laptop

/-- What has a meaning of its own in a search pattern stands for itself in a name, and no line counts
for a name that only begins the one on it, or that blanks or a carriage return keep from being it. -/
theorem blacklisted_iff_line_laptop :
    (∃ dir ∈ Laptop.config.modprobeDirs, ∃ entries, Laptop.modprobe.list dir = .ok entries ∧
      ∃ entry ∈ entries, EntryBlacklists "a.b+c" Laptop.modprobe dir entry) ∧
    ¬ ∃ dir ∈ Laptop.config.modprobeDirs, ∃ entries, Laptop.modprobe.list dir = .ok entries ∧
      ∃ entry ∈ entries, EntryBlacklists "a.b" Laptop.modprobe dir entry := by
  have hfound : (isBlacklisted Laptop.config "a.b+c" Laptop.modprobe).value = true := by
    decide +kernel
  have hnearly : (isBlacklisted Laptop.config "a.b" Laptop.modprobe).value ≠ true := by
    decide +kernel
  exact ⟨(blacklisted_iff_line _ _ _ (by decide)).mp hfound,
    mt (blacklisted_iff_line _ _ _ (by decide)).mpr hnearly⟩

end HybridGraphics.KernelModule
