/-
Reading back what was written to a file tree.

A write puts one file where no directory is, so no directory is ever
lost to it (`keepsDirectories_put`); walks that succeeded before a
write succeed after it and end in the same place (`walk_of_keeps`). That
is all the file system there is to the two laws of reading and writing:

- `read_write_same`: a written file has the content that was written;
- `read_write_other`: a write leaves the other files of its directory
  alone.

# Many files in one directory

`writeAll` writes files with given names into one directory, in order.
By induction from the last write backwards, a name ends up with what was
written to it last (`read_writeAll`). So all of the writes can be read
back exactly if any two to the same name write the same
(`read_writeAll_iff`).
-/
import Mathlib.Data.List.Induction
import KbDocs.Files.Tree

namespace KbDocs.Files.FileTree

-- ============================================================ entries

theorem get?_nil (t : FileTree) : t.get? [] = some .directory := rfl

/-- The tree itself is a directory. -/
theorem ne_nil_of_not_directory {t : FileTree} {l : Location}
    (h : t.get? l ≠ some .directory) : l ≠ [] :=
  fun hl => h (by rw [hl, get?_nil])

theorem get?_of_ne_nil {l : Location} (h : l ≠ []) (t : FileTree) :
    t.get? l = t.entries.lookup l := by
  cases l with
  | nil => exact absurd rfl h
  | cons p l => rfl

/-- Looking up in a list of entries one of which was replaced. -/
private theorem lookup_update {k l : Location} {e : Entry}
    (entries : List (Location × Entry)) (h : entries.any (·.1 == l) = true ∨ k ≠ l) :
    (entries.map fun (k, v) => if k == l then (k, e) else (k, v)).lookup k
      = if k = l then some e else entries.lookup k := by
  induction entries with
  | nil =>
      rcases h with h | h
      · cases h
      · rw [if_neg h]
        rfl
  | cons x entries ih =>
      obtain ⟨j, v⟩ := x
      rw [List.map_cons]
      by_cases hkj : k = j
      · subst hkj
        by_cases hkl : k = l
        · simp [hkl]
        · simp [hkl]
      · have hskip : ∀ (w : Entry) (xs : List (Location × Entry)),
            ((j, w) :: xs).lookup k = xs.lookup k := by
          intro w xs
          rw [List.lookup_cons, beq_eq_false_iff_ne.mpr hkj]
        have hhead : (if j == l then (j, e) else (j, v)) = (j, if j == l then e else v) := by
          split <;> rfl
        have hrest : entries.any (·.1 == l) = true ∨ k ≠ l := by
          rw [List.any_cons, Bool.or_eq_true, beq_iff_eq] at h
          rcases h with (rfl | h) | h
          · exact .inr hkj
          · exact .inl h
          · exact .inr h
        dsimp only
        rw [hhead, hskip, hskip, ih hrest]

/-- What stands where after an entry was put. -/
theorem get?_put {l : Location} (hl : l ≠ []) (t : FileTree) (e : Entry)
    (k : Location) : (t.put l e).get? k = if k = l then some e else t.get? k := by
  by_cases hk : k = []
  · subst hk
    rw [if_neg (Ne.symm hl), get?_nil, get?_nil]
  · rw [get?_of_ne_nil hk, get?_of_ne_nil hk, put]
    split
    case isTrue hany => exact lookup_update t.entries (.inl hany)
    case isFalse hany =>
      rw [List.lookup_append]
      by_cases heq : k = l
      · subst heq
        have hnone : t.entries.lookup k = none := by
          rw [List.lookup_eq_none_iff]
          intro p hp
          simp only [List.any_eq_true, not_exists, not_and, beq_iff_eq] at hany
          rw [bne_iff_ne]
          exact fun hkp => hany p hp hkp.symm
        simp [hnone]
      · simp [List.lookup_cons, beq_eq_false_iff_ne.mpr heq, heq]

-- ============================================================= walks

/-- A walk in two parts. -/
theorem walk_append {t : FileTree} {here l : Location} {ps qs : List String} :
    t.walk here (ps ++ qs) = .ok l
      ↔ ∃ m, t.walk here ps = .ok m ∧ t.walk m qs = .ok l := by
  induction ps generalizing here with
  | nil => simp [walk]
  | cons p ps ih =>
      rw [List.cons_append, walk, walk]
      split
      case h_1 => simp
      case h_2 => simp
      case h_3 =>
        split
        case isTrue => exact ih
        case isFalse =>
          split
          case isTrue => simp
          case isFalse => exact ih

/-- The location of a file in a directory. -/
theorem locate_child {t : FileTree} {directory : FilePath} {name : String}
    {l : Location} (hname : name ≠ "..")
    (h : t.locate (directory.child name) = .ok l) :
    ∃ here, t.locate directory = .ok here ∧ t.get? here = some .directory
      ∧ l = here ++ [name] := by
  obtain ⟨here, hhere, hlast⟩ := walk_append.mp h
  rw [walk] at hlast
  split at hlast
  case h_1 => cases hlast
  case h_2 => cases hlast
  case h_3 hdirectory =>
    rw [if_neg hname] at hlast
    split at hlast
    case isTrue => cases hlast
    case isFalse =>
      cases hlast
      exact ⟨here, hhere, hdirectory, rfl⟩

/-- One tree has all the directories of another. -/
def KeepsDirectories (t t' : FileTree) : Prop :=
  ∀ l, t.get? l = some .directory → t'.get? l = some .directory

/-- A walk needs nothing but directories, so it leads to the same place
in every tree that keeps them. -/
theorem walk_of_keeps {t t' : FileTree} (h : KeepsDirectories t t')
    {here l : Location} {ps : List String} (hwalk : t.walk here ps = .ok l) :
    t'.walk here ps = .ok l := by
  induction ps generalizing here with
  | nil => exact hwalk
  | cons p ps ih =>
      rw [walk] at hwalk
      split at hwalk
      case h_1 => cases hwalk
      case h_2 => cases hwalk
      case h_3 hhere =>
        rw [walk, h here hhere]
        split at hwalk
        case isTrue hup =>
          simp only [if_pos hup]
          exact ih hwalk
        case isFalse hup =>
          split at hwalk
          case isTrue => cases hwalk
          case isFalse hlong =>
            simp only [if_neg hup, if_neg hlong]
            exact ih hwalk

-- ================================================== reads and writes

theorem read_eq_ok_iff {t : FileTree} {path : FilePath} {content : List UInt8} :
    t.read path = .ok content
      ↔ hasNull path = false
        ∧ ∃ l, t.locate path = .ok l ∧ t.get? l = some (.file content) := by
  rw [read]
  cases hnull : hasNull path with
  | true => simp
  | false =>
      cases hlocate : t.locate path with
      | error cause => simp
      | ok l =>
          simp only [Bool.false_eq_true, if_false, true_and, Except.ok.injEq,
            exists_eq_left']
          cases hget : t.get? l with
          | none => simp
          | some e => cases e <;> simp

/-- A file that can be read is found. -/
theorem look_of_read {t : FileTree} {path : FilePath} {content : List UInt8}
    (h : t.read path = .ok content) : t.look path = .ok (some (.file content)) := by
  obtain ⟨hnull, l, hlocate, hget⟩ := read_eq_ok_iff.mp h
  simp only [look, hnull, hlocate, hget, Bool.false_eq_true, if_false]

/-- A write succeeds where a walk leads to anything but a directory, and
puts the file there. -/
theorem write_eq_ok_iff {t t' : FileTree} {path : FilePath} {content : List UInt8} :
    t.write path content = .ok t'
      ↔ hasNull path = false
        ∧ ∃ l, t.locate path = .ok l ∧ t.get? l ≠ some .directory
          ∧ t' = t.put l (.file content) := by
  rw [write]
  cases hnull : hasNull path with
  | true => simp
  | false =>
      cases hlocate : t.locate path with
      | error cause => simp
      | ok l =>
          simp only [Bool.false_eq_true, if_false, true_and, Except.ok.injEq,
            exists_eq_left']
          cases hget : t.get? l with
          | none => simp [eq_comm]
          | some e => cases e <;> simp [eq_comm]

/-- No directory is lost to a file that is put where none was. -/
theorem keepsDirectories_put {t : FileTree} {l : Location}
    (h : t.get? l ≠ some .directory) (content : List UInt8) :
    KeepsDirectories t (t.put l (.file content)) := by
  intro k hk
  have hl := ne_nil_of_not_directory h
  have hne : k ≠ l := fun heq => h (by rw [← heq, hk])
  rw [get?_put hl, if_neg hne, hk]

/-- A written file has the content that was written. -/
theorem read_write_same {t t' : FileTree} {path : FilePath} {content : List UInt8}
    (h : t.write path content = .ok t') : t'.read path = .ok content := by
  obtain ⟨hnull, l, hlocate, hget, rfl⟩ := write_eq_ok_iff.mp h
  have hl := ne_nil_of_not_directory hget
  refine read_eq_ok_iff.mpr ⟨hnull, l, ?_, ?_⟩
  · exact walk_of_keeps (keepsDirectories_put hget content) hlocate
  · rw [get?_put hl, if_pos rfl]

/-- A write leaves the other files of its directory alone. -/
theorem read_write_other {t t' : FileTree} {directory : FilePath} {f g : String}
    {content written : List UInt8} (hf : f ≠ "..") (hg : g ≠ "..") (hne : f ≠ g)
    (hread : t.read (directory.child f) = .ok content)
    (h : t.write (directory.child g) written = .ok t') :
    t'.read (directory.child f) = .ok content := by
  obtain ⟨-, l, hlocate, hget, rfl⟩ := write_eq_ok_iff.mp h
  obtain ⟨hnull, k, hk, hfile⟩ := read_eq_ok_iff.mp hread
  have hl := ne_nil_of_not_directory hget
  obtain ⟨here, -, -, rfl⟩ := locate_child hg hlocate
  obtain ⟨there, -, -, rfl⟩ := locate_child hf hk
  have hapart : there ++ [f] ≠ here ++ [g] := by
    intro heq
    exact hne (by simpa using (List.append_inj' heq rfl).2)
  refine read_eq_ok_iff.mpr ⟨hnull, there ++ [f], ?_, ?_⟩
  · exact walk_of_keeps (keepsDirectories_put hget written) hk
  · rw [get?_put hl, if_neg hapart, hfile]

-- ========================================= many files in a directory

/-- Writes files with names and contents into a directory, in order, as
long as that succeeds. -/
def writeAll (directory : FilePath) (t : FileTree) (ws : List (String × List UInt8)) :
    Except FileError FileTree :=
  ws.foldlM (fun t w => t.write (directory.child w.1) w.2) t

/-- Writing one file more, before the others. -/
theorem writeAll_cons {directory : FilePath} {s t : FileTree}
    {w : String × List UInt8} (h : t.write (directory.child w.1) w.2 = .ok s)
    (ws : List (String × List UInt8)) :
    writeAll directory t (w :: ws) = writeAll directory s ws := by
  rw [writeAll, List.foldlM_cons, h]
  rfl

/-- Writing one file more, after the others. -/
theorem writeAll_concat {directory : FilePath} {t t' : FileTree}
    {ws : List (String × List UInt8)} {w : String × List UInt8} :
    writeAll directory t (ws ++ [w]) = .ok t'
      ↔ ∃ s, writeAll directory t ws = .ok s
        ∧ s.write (directory.child w.1) w.2 = .ok t' := by
  rw [writeAll, List.foldlM_append, ← writeAll]
  cases writeAll directory t ws with
  | error e => simp [bind, Except.bind]
  | ok s =>
      simp only [bind, Except.bind, List.foldlM_cons, List.foldlM_nil, Except.ok.injEq,
        exists_eq_left']
      cases s.write (directory.child w.1) w.2 <;> rfl

section WriteAll

variable {directory : FilePath} {t t' : FileTree} {ws : List (String × List UInt8)}
  (hnames : ∀ w ∈ ws, w.1 ≠ "..") (h : writeAll directory t ws = .ok t')

include hnames h

/-- A name ends up with what was written to it last. -/
theorem read_writeAll {f : String} {content : List UInt8}
    (hlast : ws.reverse.lookup f = some content) :
    t'.read (directory.child f) = .ok content := by
  induction ws using List.reverseRecOn generalizing t' with
  | nil => cases hlast
  | append_singleton ws w ih =>
      obtain ⟨s, hs, hw⟩ := writeAll_concat.mp h
      rw [List.reverse_append, List.reverse_singleton, List.singleton_append,
        List.lookup_cons] at hlast
      cases hf : f == w.1 with
      | true =>
          rw [hf] at hlast
          cases hlast
          rw [beq_iff_eq.mp hf]
          exact read_write_same hw
      | false =>
          rw [hf] at hlast
          have hold := ih (fun v hv => hnames v (List.mem_append_left [w] hv)) hs hlast
          have hfname : f ≠ ".." := by
            obtain ⟨l₁, l₂, heq, -⟩ := List.lookup_eq_some_iff.mp hlast
            have hmem : (f, content) ∈ ws.reverse := by simp [heq]
            exact hnames (f, content)
              (List.mem_append_left [w] (List.mem_reverse.mp hmem))
          exact read_write_other hfname (hnames w (by simp))
            (beq_eq_false_iff_ne.mp hf) hold hw

/-- Every name that was written to can be read, with something that was
written to it. -/
theorem exists_read_writeAll {w : String × List UInt8} (hw : w ∈ ws) :
    ∃ content, (w.1, content) ∈ ws ∧ t'.read (directory.child w.1) = .ok content := by
  cases hlast : ws.reverse.lookup w.1 with
  | none =>
      have hne := List.lookup_eq_none_iff.mp hlast w (List.mem_reverse.mpr hw)
      simp at hne
  | some content =>
      obtain ⟨l₁, l₂, heq, -⟩ := List.lookup_eq_some_iff.mp hlast
      have hmem : (w.1, content) ∈ ws := List.mem_reverse.mp (by simp [heq])
      exact ⟨content, hmem, read_writeAll hnames h hlast⟩

/-- All writes can be read back exactly if any two to the same name write
the same. -/
theorem read_writeAll_iff :
    (∀ w ∈ ws, t'.read (directory.child w.1) = .ok w.2)
      ↔ ∀ v ∈ ws, ∀ w ∈ ws, v.1 = w.1 → v.2 = w.2 := by
  constructor
  · intro hread v hv w hw hname
    have hboth := hread v hv
    rw [hname, hread w hw] at hboth
    exact (Except.ok.inj hboth).symm
  · intro hsame w hw
    obtain ⟨content, hmem, hread⟩ := exists_read_writeAll hnames h hw
    rw [hsame w hw _ hmem rfl]
    exact hread

end WriteAll

end KbDocs.Files.FileTree
