/-
Writing into a directory that is there.

Whether a file can be written directly inside a directory is a question
of its name and of what directories the tree has (`write_child_iff`):
the name must be one that files can have, and not that of a directory.
Writing files does not change which directories there are
(`SameDirectories`), so a write that fails will fail again, and the
order in which other files are written does not matter for that. Any
name can be made to fail, by a directory of that name (`accepts_block`).

What does depend on the order is the content: a name ends up with what
was written to it last, and all other locations stay as they were
(`get?_writeAll`). So to write the same files a second time changes
nothing (`get?_writeAll_again`).

`ensureDirectory` is what brings about the situation
(`exists_home_of_ensureDirectory`), and it does nothing in it
(`ensureDirectory_of_home`).
-/
import KbDocs.Proofs.Files.Confined

namespace KbDocs.Files.FileTree

-- ========================================================== the place

/-- A path leads to a directory, which stands at a location. -/
structure Home (t : FileTree) (directory : FilePath) (home : Location) : Prop where
  clean : hasNull directory = false
  located : t.locate directory = .ok home
  isDirectory : t.get? home = some .directory

/-- A file of a name can be written into the directory at a location. -/
structure Accepts (t : FileTree) (home : Location) (name : String) : Prop where
  clean : '\x00' ∉ name.toList
  short : name.utf8ByteSize ≤ maxNameBytes
  free : t.get? (home ++ [name]) ≠ some .directory

instance (t : FileTree) (home : Location) (name : String) : Decidable (Accepts t home name) :=
  decidable_of_iff ('\x00' ∉ name.toList ∧ name.utf8ByteSize ≤ maxNameBytes
      ∧ t.get? (home ++ [name]) ≠ some .directory)
    ⟨fun h => ⟨h.1, h.2.1, h.2.2⟩, fun h => ⟨h.clean, h.short, h.free⟩⟩

/-- The files, out of some with names and contents, that can be written
into the directory. -/
def accepted (t : FileTree) (home : Location) (ws : List (String × List UInt8)) :
    List (String × List UInt8) :=
  ws.filter fun w => Accepts t home w.1

/-- Two trees have the same directories. -/
def SameDirectories (t t' : FileTree) : Prop :=
  ∀ l, t.get? l = some .directory ↔ t'.get? l = some .directory

section Place

variable {t t' t'' : FileTree} {directory : FilePath} {home : Location} {name : String}

theorem SameDirectories.refl (t : FileTree) : SameDirectories t t :=
  fun _ => Iff.rfl

theorem SameDirectories.trans (h : SameDirectories t t') (h' : SameDirectories t' t'') :
    SameDirectories t t'' :=
  fun l => (h l).trans (h' l)

theorem SameDirectories.keeps (h : SameDirectories t t') : KeepsDirectories t t' :=
  fun l => (h l).mp

/-- A directory is at the same location in a tree with the same
directories. -/
theorem Home.of_same (h : Home t directory home) (hsame : SameDirectories t t') :
    Home t' directory home :=
  ⟨h.clean, walk_of_keeps hsame.keeps h.located, hsame.keeps home h.isDirectory⟩

/-- It accepts the same names there. -/
theorem SameDirectories.accepts_iff (h : SameDirectories t t') :
    Accepts t home name ↔ Accepts t' home name := by
  constructor
  · rintro ⟨hclean, hshort, hfree⟩
    exact ⟨hclean, hshort, fun hd => hfree ((h _).mpr hd)⟩
  · rintro ⟨hclean, hshort, hfree⟩
    exact ⟨hclean, hshort, fun hd => hfree ((h _).mp hd)⟩

theorem SameDirectories.accepted_eq (h : SameDirectories t t')
    (ws : List (String × List UInt8)) : accepted t home ws = accepted t' home ws :=
  List.filter_congr fun _ _ => decide_eq_decide.mpr h.accepts_iff

/-- A file that is put where no directory is makes none and takes none
away. -/
theorem sameDirectories_put {l : Location} (h : t.get? l ≠ some .directory)
    (content : List UInt8) : SameDirectories t (t.put l (.file content)) := by
  intro k
  refine ⟨keepsDirectories_put h content k, fun hk => ?_⟩
  rw [get?_put (ne_nil_of_not_directory h)] at hk
  split at hk
  case isTrue => cases hk
  case isFalse => exact hk

theorem hasNull_child (h : hasNull directory = false) :
    hasNull (directory.child name) = false ↔ '\x00' ∉ name.toList := by
  rw [hasNull] at h ⊢
  rw [FilePath.child, List.any_append, h]
  simp

/-- A short name leads to a location directly inside the directory. -/
theorem locate_child_eq (h : Home t directory home) (hup : name ≠ "..") :
    t.locate (directory.child name)
      = if maxNameBytes < name.utf8ByteSize then .error .nameTooLong
        else .ok (home ++ [name]) := by
  have hwalk : ∀ (here : Location) (ps : List String), t.walk here ps = .ok home →
      t.walk here (ps ++ [name]) = t.walk home [name] := by
    intro here ps
    induction ps generalizing here with
    | nil =>
        intro hend
        cases hend
        rfl
    | cons p ps ih =>
        intro hps
        rw [walk] at hps
        split at hps
        case h_1 => cases hps
        case h_2 => cases hps
        case h_3 hhere =>
          rw [List.cons_append, walk, hhere]
          split at hps
          case isTrue hup =>
            simp only [if_pos hup]
            exact ih _ hps
          case isFalse hup =>
            split at hps
            case isTrue => cases hps
            case isFalse hlong =>
              simp only [if_neg hup, if_neg hlong]
              exact ih _ hps
  rw [locate, FilePath.child, hwalk [] directory.parts h.located, walk, h.isDirectory]
  dsimp only
  rw [if_neg hup]
  rfl

/-- What becomes of a write into the directory. -/
theorem write_child_eq (h : Home t directory home) (hup : name ≠ "..")
    (content : List UInt8) :
    t.write (directory.child name) content
      = if '\x00' ∈ name.toList then .error .nullByte
        else if maxNameBytes < name.utf8ByteSize then
          .error (.failed .nameTooLong (directory.child name))
        else if t.get? (home ++ [name]) = some .directory then
          .error (.failed .isDirectory (directory.child name))
        else .ok (t.put (home ++ [name]) (.file content)) := by
  rw [write]
  by_cases hnull : '\x00' ∈ name.toList
  · have hpath : hasNull (directory.child name) = true := by
      rw [← Bool.not_eq_false, hasNull_child h.clean]
      exact not_not_intro hnull
    rw [if_pos hpath, if_pos hnull]
  · have hpath : ¬ hasNull (directory.child name) = true := by
      rw [Bool.not_eq_true, hasNull_child h.clean]
      exact hnull
    rw [if_neg hpath, if_neg hnull, locate_child_eq h hup]
    by_cases hlong : maxNameBytes < name.utf8ByteSize
    · rw [if_pos hlong, if_pos hlong]
    · rw [if_neg hlong, if_neg hlong]
      dsimp only
      split
      case h_1 hdirectory => rw [if_pos hdirectory]
      case h_2 hfree => rw [if_neg hfree]

/-- A file is written into the directory exactly if its name is
accepted. -/
theorem write_child_iff (h : Home t directory home) (hup : name ≠ "..")
    {content : List UInt8} :
    t.write (directory.child name) content = .ok t'
      ↔ Accepts t home name ∧ t' = t.put (home ++ [name]) (.file content) := by
  rw [write_child_eq h hup]
  constructor
  · intro hwrite
    split at hwrite
    case isTrue => cases hwrite
    case isFalse hclean =>
      split at hwrite
      case isTrue => cases hwrite
      case isFalse hshort =>
        split at hwrite
        case isTrue => cases hwrite
        case isFalse hfree =>
          cases hwrite
          exact ⟨⟨hclean, Nat.not_lt.mp hshort, hfree⟩, rfl⟩
  · rintro ⟨⟨hclean, hshort, hfree⟩, rfl⟩
    rw [if_neg hclean, if_neg (Nat.not_lt.mpr hshort), if_neg hfree]

theorem write_child_of_accepts (h : Home t directory home) (hup : name ≠ "..")
    (hname : Accepts t home name) (content : List UInt8) :
    t.write (directory.child name) content
      = .ok (t.put (home ++ [name]) (.file content)) :=
  (write_child_iff h hup).mpr ⟨hname, rfl⟩

/-- A write that is not accepted fails for the name or for the file
system. -/
theorem write_child_error (h : Home t directory home) (hup : name ≠ "..")
    (hname : ¬ Accepts t home name) (content : List UInt8) :
    ∃ e, t.write (directory.child name) content = .error e
      ∧ (e = .nullByte ↔ '\x00' ∈ name.toList) := by
  rw [write_child_eq h hup]
  split
  case isTrue hnull => exact ⟨_, rfl, by simp [hnull]⟩
  case isFalse hclean =>
    split
    case isTrue => exact ⟨_, rfl, by simp [hclean]⟩
    case isFalse hshort =>
      split
      case isTrue => exact ⟨_, rfl, by simp [hclean]⟩
      case isFalse hfree => exact absurd ⟨hclean, Nat.not_lt.mp hshort, hfree⟩ hname

/-- A write that fails will fail again, for the same reason, as long as
the directories stay the same. -/
theorem SameDirectories.write_child_error_iff (hsame : SameDirectories t t')
    (h : Home t directory home) (hup : name ≠ "..") {content content' : List UInt8}
    {e : FileError} :
    t.write (directory.child name) content = .error e
      ↔ t'.write (directory.child name) content' = .error e := by
  have hiff := hsame (home ++ [name])
  rw [write_child_eq h hup, write_child_eq (h.of_same hsame) hup]
  split
  · rfl
  · split
    · rfl
    · by_cases hdirectory : t.get? (home ++ [name]) = some .directory
      · rw [if_pos hdirectory, if_pos (hiff.mp hdirectory)]
      · rw [if_neg hdirectory, if_neg fun h => hdirectory (hiff.mpr h)]
        simp

end Place

-- ===================================================== names in the way

section Block

variable {t : FileTree} {directory : FilePath} {home : Location}

/-- The tree with directories of some names in the directory at a
location, in place of what stood there. -/
def block (t : FileTree) (home : Location) (names : List String) : FileTree :=
  names.foldl (fun t name => t.put (home ++ [name]) .directory) t

theorem get?_block (t : FileTree) (home : Location) (names : List String) (l : Location) :
    (t.block home names).get? l
      = if ∃ name ∈ names, l = home ++ [name] then some .directory else t.get? l := by
  unfold block
  induction names generalizing t with
  | nil => simp
  | cons name names ih =>
      rw [List.foldl_cons, ih, get?_put (by simp)]
      by_cases hrest : ∃ name ∈ names, l = home ++ [name]
      · simp [hrest]
      · by_cases hfirst : l = home ++ [name]
        · simp [hfirst]
        · simp [hrest, hfirst]

theorem Home.block (h : Home t directory home) (names : List String) :
    Home (t.block home names) directory home := by
  have hkeeps : KeepsDirectories t (t.block home names) := by
    intro l hl
    rw [get?_block]
    split
    · rfl
    · exact hl
  exact ⟨h.clean, walk_of_keeps hkeeps h.located, hkeeps home h.isDirectory⟩

/-- Names that are in the way are no longer accepted, and all others
are as before. -/
theorem accepts_block {names : List String} {name : String} :
    Accepts (t.block home names) home name ↔ Accepts t home name ∧ name ∉ names := by
  have hget : (t.block home names).get? (home ++ [name])
      = if name ∈ names then some .directory else t.get? (home ++ [name]) := by
    rw [get?_block]
    congr 1
    simp
  constructor
  · intro ⟨hclean, hshort, hfree⟩
    rw [hget] at hfree
    by_cases hname : name ∈ names
    · exact absurd (if_pos hname) hfree
    · rw [if_neg hname] at hfree
      exact ⟨⟨hclean, hshort, hfree⟩, hname⟩
  · intro ⟨⟨hclean, hshort, hfree⟩, hname⟩
    refine ⟨hclean, hshort, ?_⟩
    rw [hget, if_neg hname]
    exact hfree

end Block

-- ========================================================= many files

section WriteAll

variable {t t' t'' : FileTree} {directory : FilePath} {home : Location}
  {ws : List (String × List UInt8)}

/-- Writing files into a directory changes no location but theirs. -/
theorem writeAll_frame (h : Home t directory home) (hnames : ∀ w ∈ ws, w.1 ≠ "..")
    (hwrite : writeAll directory t ws = .ok t') :
    SameDirectories t t'
      ∧ ∀ l, (∀ w ∈ ws, l ≠ home ++ [w.1]) → t'.get? l = t.get? l := by
  induction ws generalizing t with
  | nil =>
      cases hwrite
      exact ⟨.refl _, fun l _ => rfl⟩
  | cons w ws ih =>
      obtain ⟨hup, hnames⟩ := List.forall_mem_cons.mp hnames
      cases hfirst : t.write (directory.child w.1) w.2 with
      | error e =>
          rw [writeAll, List.foldlM_cons, hfirst] at hwrite
          cases hwrite
      | ok s =>
          rw [writeAll_cons hfirst] at hwrite
          obtain ⟨haccepts, rfl⟩ := (write_child_iff h hup).mp hfirst
          have hsame := sameDirectories_put haccepts.free w.2
          obtain ⟨hrest, hframe⟩ := ih (h.of_same hsame) hnames hwrite
          refine ⟨hsame.trans hrest, fun l hl => ?_⟩
          obtain ⟨hw, hl⟩ := List.forall_mem_cons.mp hl
          rw [hframe l hl, get?_put (ne_nil_of_not_directory haccepts.free), if_neg hw]

/-- A name ends up with what was written to it last. -/
theorem get?_writeAll (h : Home t directory home) (hnames : ∀ w ∈ ws, w.1 ≠ "..")
    (hwrite : writeAll directory t ws = .ok t') {f : String} {content : List UInt8}
    (hlast : ws.reverse.lookup f = some content) :
    t'.get? (home ++ [f]) = some (.file content) := by
  have hf : f ≠ ".." := by
    obtain ⟨l₁, l₂, heq, -⟩ := List.lookup_eq_some_iff.mp hlast
    exact hnames (f, content) (List.mem_reverse.mp (by simp [heq]))
  have hhome := h.of_same (writeAll_frame h hnames hwrite).1
  obtain ⟨-, l, hlocate, hget⟩ := read_eq_ok_iff.mp (read_writeAll hnames hwrite hlast)
  obtain ⟨there, hthere, -, rfl⟩ := locate_child hf hlocate
  rw [hhome.located] at hthere
  cases hthere
  exact hget

/-- Something was written last to every name that was written to. -/
theorem exists_last {w : String × List UInt8} (h : w ∈ ws) :
    ∃ content, ws.reverse.lookup w.1 = some content := by
  cases hlast : ws.reverse.lookup w.1 with
  | some content => exact ⟨content, rfl⟩
  | none =>
      have hne := List.lookup_eq_none_iff.mp hlast w (List.mem_reverse.mpr h)
      simp at hne

/-- Writing the same files a second time changes nothing. -/
theorem get?_writeAll_again (h : Home t directory home) (hnames : ∀ w ∈ ws, w.1 ≠ "..")
    (hwrite : writeAll directory t ws = .ok t')
    (hagain : writeAll directory t' ws = .ok t'') (l : Location) :
    t''.get? l = t'.get? l := by
  have hhome := h.of_same (writeAll_frame h hnames hwrite).1
  by_cases hl : ∀ w ∈ ws, l ≠ home ++ [w.1]
  · exact (writeAll_frame hhome hnames hagain).2 l hl
  · simp only [not_forall, not_not] at hl
    obtain ⟨w, hw, rfl⟩ := hl
    obtain ⟨content, hlast⟩ := exists_last hw
    rw [get?_writeAll hhome hnames hagain hlast, get?_writeAll h hnames hwrite hlast]

/-- What stands first under a name is not changed by leaving out other
names. -/
private theorem lookup_filter_names {p : String → Bool} {f : String} (hf : p f = true)
    (xs : List (String × List UInt8)) :
    (xs.filter fun w => p w.1).lookup f = xs.lookup f := by
  induction xs with
  | nil => rfl
  | cons w xs ih =>
      obtain ⟨g, content⟩ := w
      cases hg : p g with
      | true => simp only [List.filter_cons, hg, if_true, List.lookup_cons, ih]
      | false =>
          have hne : f ≠ g := fun heq => by rw [heq, hg] at hf; cases hf
          simp only [List.filter_cons, hg, Bool.false_eq_true, if_false, ih,
            List.lookup_cons, beq_eq_false_iff_ne.mpr hne]

/-- Files that are not accepted do not matter for what an accepted name
ends up with. -/
theorem lookup_accepted {f : String} (hf : Accepts t home f)
    (ws : List (String × List UInt8)) :
    (accepted t home ws).reverse.lookup f = ws.reverse.lookup f := by
  rw [accepted, ← List.filter_reverse]
  exact lookup_filter_names (p := fun g => Accepts t home g) (decide_eq_true hf) ws.reverse

end WriteAll

-- ============================================= making the directory

section Ensure

variable {t t' : FileTree} {directory : FilePath}

theorem exists_home_of_isDirectory (h : t.isDirectory directory = true) :
    ∃ home, Home t directory home := by
  rw [FileTree.isDirectory, look] at h
  cases hnull : hasNull directory with
  | true =>
      rw [hnull] at h
      cases h
  | false =>
      rw [hnull] at h
      cases hlocate : t.locate directory with
      | error cause =>
          rw [hlocate] at h
          cases cause <;> cases h
      | ok home =>
          rw [hlocate] at h
          cases hget : t.get? home with
          | none =>
              simp [hget] at h
          | some e =>
              cases e with
              | file content => simp [hget] at h
              | directory => exact ⟨home, hnull, hlocate, hget⟩

theorem exists_home_of_makeDirectory (h : t.makeDirectory directory = .ok t') :
    ∃ home, Home t' directory home := by
  obtain ⟨hclean, home, hlocate, hnone, rfl⟩ := makeDirectory_eq_ok_iff.mp h
  have hne : home ≠ [] := ne_nil_of_not_directory (t := t) (by rw [hnone]; simp)
  have hkeeps := (@confined_makeDirectory (fun _ => False) directory t _ 0 h).keepsDirectories
  refine ⟨home, hclean, walk_of_keeps hkeeps hlocate, ?_⟩
  rw [get?_put hne, if_pos rfl]

/-- A second attempt is content with a directory that is there. -/
theorem exists_home_of_settled {e : FileError}
    (h : (t, if t.isDirectory directory then none else some e) = (t', none)) :
    ∃ home, Home t' directory home := by
  obtain ⟨rfl, hnone⟩ := Prod.mk.inj h
  split at hnone
  case isTrue hdirectory => exact exists_home_of_isDirectory hdirectory
  case isFalse => cases hnone

/-- A directory that was made, where it was missing, is there. -/
theorem exists_home_of_ensureDirectory
    (h : t.ensureDirectory directory = (t', none)) : ∃ home, Home t' directory home := by
  unfold ensureDirectory ensureDirectoryFrom at h
  split at h
  case h_1 s hmake =>
    cases h
    exact exists_home_of_makeDirectory hmake
  case h_2 => cases h
  case h_3 =>
    split at h
    case h_1 => cases h
    case h_2 =>
      -- the directory above is there, and this one is attempted again
      split at h
      case h_1 => cases h
      case h_2 =>
        split at h
        case h_1 s hmake =>
          cases h
          exact exists_home_of_makeDirectory hmake
        case h_2 => exact exists_home_of_settled h
  case h_4 => exact exists_home_of_settled h

/-- A directory that is there is not made again. -/
theorem ensureDirectory_of_home {home : Location} (h : Home t directory home) :
    t.ensureDirectory directory = (t, none) := by
  have hmake : t.makeDirectory directory = .error (.failed .alreadyThere directory) := by
    simp only [makeDirectory, h.clean, h.located, h.isDirectory, Bool.false_eq_true, if_false]
  have hthere : t.isDirectory directory = true := by
    simp only [FileTree.isDirectory, look, h.clean, h.located, h.isDirectory,
      Bool.false_eq_true, if_false]
  unfold ensureDirectory ensureDirectoryFrom
  simp only [hmake, hthere, if_true]

end Ensure

end KbDocs.Files.FileTree
