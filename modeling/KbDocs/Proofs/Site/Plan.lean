/-
What a run plans: which packages there are, and how the files of pages
are named.

Names of pages come from the export and pass through `fileName` on every
way to the file system. Whatever the export says, what comes out is not
empty and has no character that a file name cannot have
(`pageName_fileName`); so the file of every page is a plain name with the
ending of pages, and the three fallbacks are such names as well.

Packages and kinds are listed by their keys, each once and in order
(`eq_sortedKeys`).
-/
import Mathlib.Data.List.Dedup
import KbDocs.Site

namespace KbDocs

-- ============================================================== names

namespace Page

/-- A name that a page can have: some text without the characters that
separate the parts of a path or are otherwise reserved. -/
structure PageName (s : String) : Prop where
  nonempty : s ≠ ""
  safe : ∀ c ∈ "/\\:*?\"<>|".toList, c ∉ s.toList

/-- Any text becomes the name of a page, as long as the fallback is
one. -/
theorem pageName_fileName (text : String) {fallback : String} (h : PageName fallback) :
    PageName (fileName text fallback) := by
  rw [fileName]
  split
  case isTrue => exact h
  case isFalse hsome =>
    constructor
    · intro hempty
      rw [← String.toList_eq_nil_iff, String.toList_ofList] at hempty
      exact hsome (by rw [hempty]; rfl)
    · intro c hc hmem
      rw [String.toList_ofList, List.mem_map] at hmem
      obtain ⟨d, -, rfl⟩ := hmem
      split at hc
      case isTrue => exact absurd hc (by decide)
      case isFalse hsafe => exact hsafe (List.contains_iff_mem.mpr hc)

theorem pageName_ofObject (o : KbObject) : PageName (ofObject o) :=
  pageName_fileName o.path ⟨by decide, by simp [unnamedPage]⟩

theorem pageName_rootPackage : PageName rootPackage :=
  ⟨by decide, by simp [rootPackage]⟩

theorem pageName_packageOf (o : KbObject) : PageName (packageOf o) := by
  rw [packageOf]
  split
  case h_2 => exact pageName_rootPackage
  case h_1 doc _ =>
    split
    case isTrue => exact pageName_rootPackage
    case isFalse => exact pageName_fileName doc.package pageName_rootPackage

theorem pageName_ofKb (kbName : String) : PageName (ofKb kbName) :=
  pageName_fileName kbName ⟨by decide, by simp [overviewPage]⟩

/-- Sorting keys loses none and adds none. -/
theorem mem_sortedKeys {keys : List String} {k : String} :
    k ∈ sortedKeys keys ↔ k ∈ keys := by
  rw [sortedKeys, List.mem_mergeSort, List.mem_eraseDups]

theorem nodup_eraseDups : ∀ keys : List String, keys.eraseDups.Nodup
  | [] => by simp
  | k :: keys => by
      rw [List.eraseDups_cons, List.nodup_cons, List.mem_eraseDups]
      exact ⟨by simp, nodup_eraseDups _⟩
termination_by keys => keys.length
decreasing_by exact Nat.lt_succ_of_le (List.length_filter_le _ keys)

/-- Sorting keys leaves each of them once. -/
theorem nodup_sortedKeys (keys : List String) : (sortedKeys keys).Nodup :=
  (List.mergeSort_perm _ _).nodup_iff.mpr (nodup_eraseDups keys)

theorem pairwise_sortedKeys (keys : List String) :
    (sortedKeys keys).Pairwise fun a b => a ≤ b := by
  have hsorted : (sortedKeys keys).Pairwise fun a b => decide (a ≤ b) = true := by
    refine List.pairwise_mergeSort (fun a b c hab hbc => ?_) (fun a b => ?_) _
    · rw [decide_eq_true_iff] at hab hbc ⊢
      exact String.le_trans hab hbc
    · simpa using String.le_total a b
  exact hsorted.imp fun h => of_decide_eq_true h

/-- Sorted keys are determined by which keys there are. -/
theorem eq_sortedKeys {l keys : List String} (hsorted : l.Pairwise fun a b => a ≤ b)
    (hnodup : l.Nodup) (hmem : ∀ k, k ∈ l ↔ k ∈ keys) : l = sortedKeys keys := by
  have hperm : l.Perm (sortedKeys keys) :=
    (List.perm_ext_iff_of_nodup hnodup (nodup_sortedKeys keys)).mpr fun k => by
      rw [hmem, mem_sortedKeys]
  exact hperm.eq_of_pairwise (fun a b _ _ => String.le_antisymm) hsorted
    (pairwise_sortedKeys keys)

/-- The sorted keys are the different ones. -/
theorem perm_sortedKeys (keys : List String) : (sortedKeys keys).Perm keys.dedup :=
  (List.perm_ext_iff_of_nodup (nodup_sortedKeys keys) (List.nodup_dedup keys)).mpr
    fun k => by rw [mem_sortedKeys, List.mem_dedup]

/-- There are as many sorted keys as there are different ones. -/
theorem length_sortedKeys (keys : List String) :
    (sortedKeys keys).length = keys.dedup.length :=
  (perm_sortedKeys keys).length_eq

end Page

-- =========================================================== the plan

namespace Site

open Page

/-- The packages are those that procedures belong to. -/
theorem mem_packages {objects : List KbObject} {package : String} :
    package ∈ packages objects ↔ ∃ o ∈ procedures objects, packageOf o = package := by
  rw [packages, mem_sortedKeys, List.mem_map]

/-- Every planned page has a name. -/
theorem pageName_of_mem_plan {objects : List KbObject} {page : PlannedPage}
    (h : page ∈ plan objects) : ∃ name, PageName name ∧ page.file = fileOf name := by
  rcases List.mem_append.mp h with h | h
  · obtain ⟨o, -, rfl⟩ := List.mem_map.mp h
    exact ⟨ofObject o, pageName_ofObject o, rfl⟩
  · obtain ⟨package, hpackage, rfl⟩ := List.mem_map.mp h
    obtain ⟨o, -, rfl⟩ := mem_packages.mp hpackage
    exact ⟨packageOf o, pageName_packageOf o, rfl⟩

end Site

end KbDocs
