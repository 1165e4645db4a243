/-
Changes of a file tree that stay within one directory.

`Touched` lists what may become of a single location: it keeps its
entry, or a file was written to it directly inside the directory, or it
was missing and is now the directory itself or one of those above it.
A change is `Confined` if no location met with anything else.

# Where the directory is

A path says nothing of a location until a tree is given, and the tree is
what changes. The two later cases therefore speak of the tree after the
change. Confined changes lose no directory (`Confined.keepsDirectories`),
so what they say of an earlier tree is still true of a later one, and
confined changes can be put one after another (`Confined.trans`).
-/
import Mathlib.Logic.Function.Iterate
import KbDocs.Proofs.Files.Tree

namespace KbDocs.Files.FileTree

/-- What a change from `t` to `t'` may do to a location, if files are to
be written into one directory only, and only under some names. -/
inductive Touched (named : String → Prop) (directory : FilePath) (t t' : FileTree)
    (l : Location) : Prop where
  /-- It has the entry that it had, or still has none. -/
  | kept (same : t'.get? l = t.get? l)
  /-- A file was written to it, directly inside the directory. -/
  | written (home : Location) (name : String) (content : List UInt8)
      (located : t'.locate directory = .ok home)
      (inside : t'.get? home = some .directory ∧ l = home ++ [name])
      (allowed : named name)
      (before : t.get? l ≠ some .directory)
      (after : t'.get? l = some (.file content))
  /-- It was missing and is the directory now, or one of those above. -/
  | made (up : Nat)
      (located : t'.locate (FilePath.parent^[up] directory) = .ok l)
      (before : t.get? l = none)
      (after : t'.get? l = some .directory)

/-- A change that does nothing else to any location. -/
def Confined (named : String → Prop) (directory : FilePath) (t t' : FileTree) : Prop :=
  ∀ l, Touched named directory t t' l

section Confined

variable {named : String → Prop} {directory : FilePath} {t t' t'' : FileTree}

/-- No directory is lost to a confined change. -/
theorem Confined.keepsDirectories (h : Confined named directory t t') :
    KeepsDirectories t t' := by
  intro l hl
  cases h l with
  | kept same => rw [same, hl]
  | written home name content located inside allowed before after =>
      exact absurd hl before
  | made up located before after =>
      rw [hl] at before
      cases before

theorem Confined.refl (t : FileTree) : Confined named directory t t :=
  fun _ => .kept rfl

theorem Confined.trans (h : Confined named directory t t')
    (h' : Confined named directory t' t'') : Confined named directory t t'' := by
  have hkeeps := h'.keepsDirectories
  intro l
  cases h' l with
  | kept same =>
      cases h l with
      | kept same' => exact .kept (same.trans same')
      | written home name content located inside allowed before after =>
          exact .written home name content (walk_of_keeps hkeeps located)
            ⟨hkeeps home inside.1, inside.2⟩ allowed before (same.trans after)
      | made up located before after =>
          exact .made up (walk_of_keeps hkeeps located) before (same.trans after)
  | written home name content located inside allowed before after =>
      refine .written home name content located inside allowed (fun hl => ?_) after
      exact before (h.keepsDirectories l hl)
  | made up located before after =>
      -- what is missing in between was missing from the start
      have hmissing : t.get? l = none := by
        cases h l with
        | kept same => rw [← same, before]
        | written home name content located' inside allowed before' after' =>
            rw [before] at after'
            cases after'
        | made up' located' before' after' => exact before'
      exact .made up located hmissing after

-- ========================================================= operations

/-- Writing a file into the directory is a confined change. -/
theorem confined_write {name : String} {content : List UInt8} (hname : named name)
    (hup : name ≠ "..") (h : t.write (directory.child name) content = .ok t') :
    Confined named directory t t' := by
  obtain ⟨-, k, hlocate, hget, rfl⟩ := write_eq_ok_iff.mp h
  have hkeeps := keepsDirectories_put hget content
  have hput := get?_put (ne_nil_of_not_directory hget) t (.file content)
  obtain ⟨home, hhome, hdirectory, rfl⟩ := locate_child hup hlocate
  intro l
  by_cases hl : l = home ++ [name]
  · subst hl
    refine .written home name content ?_ ⟨hkeeps home hdirectory, rfl⟩ hname hget ?_
    · exact walk_of_keeps hkeeps hhome
    · rw [hput, if_pos rfl]
  · exact .kept (by rw [hput, if_neg hl])

/-- A directory is made where a walk leads to nothing. -/
theorem makeDirectory_eq_ok_iff {path : FilePath} :
    t.makeDirectory path = .ok t'
      ↔ hasNull path = false
        ∧ ∃ l, t.locate path = .ok l ∧ t.get? l = none ∧ t' = t.put l .directory := by
  rw [makeDirectory]
  cases hnull : hasNull path with
  | true => simp
  | false =>
      cases hlocate : t.locate path with
      | error cause => simp
      | ok l =>
          simp only [Bool.false_eq_true, if_false, true_and, Except.ok.injEq,
            exists_eq_left']
          cases hget : t.get? l with
          | none => simp [eq_comm]
          | some e => simp

/-- Making the directory, or one above it, is a confined change. -/
theorem confined_makeDirectory {up : Nat}
    (h : t.makeDirectory (FilePath.parent^[up] directory) = .ok t') :
    Confined named directory t t' := by
  obtain ⟨-, k, hlocate, hget, rfl⟩ := makeDirectory_eq_ok_iff.mp h
  have hk : k ≠ [] := ne_nil_of_not_directory (t := t) (by rw [hget]; simp)
  have hput := get?_put hk t .directory
  have hkeeps : KeepsDirectories t (t.put k .directory) := by
    intro l hl
    rw [hput]
    split
    · rfl
    · exact hl
  intro l
  by_cases hl : l = k
  · subst hl
    refine .made up (walk_of_keeps hkeeps hlocate) hget ?_
    rw [hput, if_pos rfl]
  · exact .kept (by rw [hput, if_neg hl])

/-- Making all that is missing from some directory above on down is a
confined change, even where it fails half way. -/
theorem confined_ensureDirectoryFrom (depth up : Nat) (t : FileTree) :
    Confined named directory t
      (ensureDirectoryFrom depth t (FilePath.parent^[up] directory)).1 := by
  induction depth generalizing up t with
  | zero =>
      rw [ensureDirectoryFrom]
      split
      case h_1 hmake => exact confined_makeDirectory hmake
      case h_2 => exact .refl t
      case h_3 => exact .refl t
      case h_4 => exact .refl t
  | succ depth ih =>
      rw [ensureDirectoryFrom]
      split
      case h_1 hmake => exact confined_makeDirectory hmake
      case h_2 => exact .refl t
      case h_4 => exact .refl t
      case h_3 =>
        -- first the directory above this one, then another attempt
        have habove := ih (up + 1) t
        rw [Function.iterate_succ_apply'] at habove
        dsimp only
        split
        case h_1 s e heq =>
          rw [heq] at habove
          exact habove
        case h_2 s heq =>
          rw [heq] at habove
          split
          case h_1 hmake => exact habove.trans (confined_makeDirectory hmake)
          case h_2 => exact habove

theorem confined_ensureDirectory (t : FileTree) :
    Confined named directory t (t.ensureDirectory directory).1 :=
  confined_ensureDirectoryFrom directory.parts.length 0 t

end Confined

end KbDocs.Files.FileTree
