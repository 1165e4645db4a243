/-
The packages on the overview and the pages of packages.

Procedures are put into packages twice. The pages of packages list all
procedures; the overview counts those with documentation only. So the
overview has a row for a package exactly if some procedure on the page of
the package has documentation, and it counts the rows of these procedures
(`rows_packageTable`).

A procedure without documentation belongs to the root package. Hence
every other package has its row, with the number of rows on its page; and
the overview as a whole agrees with the pages exactly if no procedure
lacks documentation (`countsAgree_iff`).
-/
import KbDocs.Proofs.Page.TableShape
import KbDocs.Proofs.Site.Links

namespace KbDocs.Site

open KbDocs.Page

-- ============================================================ members

/-- The procedures of a package, which its page lists. -/
def members (objects : List KbObject) (package : String) : List KbObject :=
  (procedures objects).filter fun o => packageOf o == package

/-- The procedures of a package that have documentation. -/
def countedMembers (objects : List KbObject) (package : String) : List KbObject :=
  (members objects package).filter (·.documentation.isSome)

/-- The overview has one row for the page of each package, with the
number of rows on that page. -/
def CountsAgree (objects : List KbObject) : Prop :=
  (packageTable objects).rows = (packages objects).map fun package =>
    [link package package, toString (indexTable (members objects package)).rows.length]

instance (objects : List KbObject) : Decidable (CountsAgree objects) :=
  inferInstanceAs (Decidable (_ = _))

variable {objects : List KbObject} {package : String}

/-- Only the root package has procedures without documentation. -/
theorem documented_of_mem_members {o : KbObject} (h : o ∈ members objects package)
    (hroot : package ≠ rootPackage) : o.documentation ≠ none := by
  intro hnone
  have hpackage : packageOf o = package := eq_of_beq (List.mem_filter.mp h).2
  rw [packageOf, hnone] at hpackage
  exact hroot hpackage.symm

/-- All procedures of a package are counted exactly if all have
documentation. -/
theorem length_countedMembers_eq_iff :
    (countedMembers objects package).length = (members objects package).length
      ↔ ∀ o ∈ members objects package, o.documentation ≠ none := by
  rw [countedMembers, List.length_filter_eq_length_iff]
  exact forall₂_congr fun o _ => Option.isSome_iff_ne_none

-- ============================================================== counts

theorem count_countedPackages :
    (countedPackages objects).count package = (countedMembers objects package).length := by
  have hfilter : (objects.filter fun o => isProcedure o && o.documentation.isSome)
      = (procedures objects).filter (·.documentation.isSome) := by
    rw [procedures, List.filter_filter]
    exact List.filter_congr fun o _ => Bool.and_comm _ _
  rw [countedPackages, hfilter, List.count, List.countP_map, List.countP_filter,
    List.countP_eq_length_filter, countedMembers, members, List.filter_filter]
  exact congrArg List.length (List.filter_congr fun o _ => Bool.and_comm _ _)

/-- A package is counted if it has something to count. -/
theorem mem_countedPackages :
    package ∈ countedPackages objects ↔ countedMembers objects package ≠ [] := by
  rw [← List.count_pos_iff, count_countedPackages, List.length_pos_iff]

/-- The packages with a row on the overview, in the order of the pages. -/
theorem sortedKeys_countedPackages :
    sortedKeys (countedPackages objects)
      = (packages objects).filter fun package => !(countedMembers objects package).isEmpty := by
  refine (eq_sortedKeys ?_ ?_ fun k => ?_).symm
  · exact (pairwise_sortedKeys _).filter _
  · exact (nodup_sortedKeys _).filter _
  · rw [List.mem_filter, Bool.not_eq_true', List.isEmpty_eq_false_iff, ← mem_countedPackages]
    exact and_iff_right_of_imp mem_packages_of_counted

theorem rows_packageTable :
    (packageTable objects).rows
      = ((packages objects).filter fun package =>
          !(countedMembers objects package).isEmpty).map fun package =>
        [link package package, toString (countedMembers objects package).length] := by
  rw [packageTable, rows_countTable, sortedKeys_countedPackages]
  refine List.map_congr_left fun package _ => ?_
  rw [count_countedPackages]

-- ========================================================== agreement

theorem toString_inj {m n : Nat} (h : toString m = toString n) : m = n := by
  have hdigits := congrArg String.toList h
  rw [Nat.toString_eq_repr, Nat.toString_eq_repr, Nat.repr, Nat.repr, String.toList_ofList,
    String.toList_ofList] at hdigits
  rw [← Nat.ofDigitChars_toDigits (b := 10) (n := m) (by decide) (by decide), hdigits,
    Nat.ofDigitChars_toDigits (by decide) (by decide)]

theorem length_rows_indexTable (ps : List KbObject) : (indexTable ps).rows.length = ps.length :=
  List.length_map _

theorem members_ne_nil (h : package ∈ packages objects) : members objects package ≠ [] := by
  obtain ⟨o, ho, rfl⟩ := mem_packages.mp h
  exact List.ne_nil_of_mem (List.mem_filter.mpr ⟨ho, beq_self_eq_true _⟩)

theorem countsAgree_iff :
    CountsAgree objects ↔ ∀ o ∈ procedures objects, o.documentation ≠ none := by
  constructor
  · intro h o ho
    rw [CountsAgree, rows_packageTable] at h
    -- as many rows as pages, so no package is left out
    have hlength := congrArg List.length h
    rw [List.length_map, List.length_map, List.length_filter_eq_length_iff] at hlength
    rw [List.filter_eq_self.mpr hlength] at h
    have hrow := List.map_inj_left.mp h (packageOf o) (mem_packages.mpr ⟨o, ho, rfl⟩)
    have hcount : (countedMembers objects (packageOf o)).length
        = (members objects (packageOf o)).length := by
      rw [← length_rows_indexTable (members objects (packageOf o))]
      exact toString_inj (List.cons.inj (List.cons.inj hrow).2).1
    exact length_countedMembers_eq_iff.mp hcount o
      (List.mem_filter.mpr ⟨ho, beq_self_eq_true _⟩)
  · intro h
    have hall : ∀ package, countedMembers objects package = members objects package := by
      intro package
      refine List.filter_eq_self.mpr fun o ho => ?_
      exact Option.isSome_iff_ne_none.mpr (h o (List.mem_filter.mp ho).1)
    rw [CountsAgree, rows_packageTable, List.filter_eq_self.mpr]
    · simp only [hall, length_rows_indexTable]
    · intro package hpackage
      rw [hall, Bool.not_eq_true', List.isEmpty_eq_false_iff]
      exact members_ne_nil hpackage

/-- The overview has one row for the page of each package that lists
procedures with documentation, and counts their rows. That is the number
of all rows of the page exactly if all its procedures have documentation,
as they have in every package but the root; and the overview agrees with
all pages exactly if every procedure has documentation. -/
theorem packageTable_counts (objects : List KbObject) (kbName : String)
    (generatedAt : Timestamp) :
    (countedPackages objects ≠ [] →
      (packageTable objects).StandsIn (overview objects kbName generatedAt))
    ∧ (∀ package ∈ packages objects,
      (package, indexPage objects package) ∈ pages objects kbName generatedAt
        ∧ (indexTable (members objects package)).StandsIn (indexPage objects package))
    ∧ (packageTable objects).rows
      = ((packages objects).filter fun package =>
          !(countedMembers objects package).isEmpty).map (fun package =>
        [link package package, toString (countedMembers objects package).length])
    ∧ (∀ package ∈ packages objects,
      ((countedMembers objects package).length
          = (indexTable (members objects package)).rows.length
        ↔ ∀ o ∈ members objects package, o.documentation ≠ none)
      ∧ (package ≠ rootPackage → ∀ o ∈ members objects package, o.documentation ≠ none))
    ∧ (CountsAgree objects ↔ ∀ o ∈ procedures objects, o.documentation ≠ none) := by
  refine ⟨fun h => packageTable_standsIn h kbName generatedAt, fun package hpackage => ?_,
    rows_packageTable, fun package _ => ⟨?_, fun hroot o ho => ?_⟩, countsAgree_iff⟩
  · exact ⟨index_mem_pages hpackage, standsIn_packagePage package _⟩
  · rw [length_rows_indexTable]
    exact length_countedMembers_eq_iff
  · exact documented_of_mem_members ho hroot

/-- A procedure without documentation, one with documentation that names
no package, and one in a package. -/
def mixedObjects : List KbObject :=
  [{ name := "First", kind := Export.procedureKind, path := "P" },
    { name := "Second", kind := Export.procedureKind, path := "Q"
      documentation := some { summary := "Load" } },
    { name := "Third", kind := Export.procedureKind, path := "R"
      documentation := some { package := "Core" } }]

theorem packages_mixedObjects : packages mixedObjects = ["Core", "root"] := by
  refine (eq_sortedKeys (by decide) (by decide) fun k => ?_).symm
  have hkeys : (procedures mixedObjects).map packageOf = ["root", "root", "Core"] := by
    decide +kernel
  rw [hkeys]
  grind

/-- The count of the package `Core` is that of its page. The page of the
root package has two rows, of which one is counted. -/
theorem packageTable_counts_mixed :
    (packageTable mixedObjects).rows
        = [["[Core](./Core.md)", "1"], ["[root](./root.md)", "1"]]
      ∧ (countedMembers mixedObjects "Core").length
        = (indexTable (members mixedObjects "Core")).rows.length
      ∧ (indexTable (members mixedObjects "root")).rows.length = 2
      ∧ ¬ CountsAgree mixedObjects := by
  obtain ⟨-, -, hrows, hpages, hagree⟩ :=
    packageTable_counts mixedObjects "KB" ⟨2025, 11, 13, 10, 30, 0⟩
  rw [packages_mixedObjects] at hrows hpages
  obtain ⟨hcore, hdocumented⟩ := hpages "Core" (by decide)
  refine ⟨hrows.trans (by decide +kernel), hcore.mpr (hdocumented (by decide)),
    by decide +kernel, ?_⟩
  rw [hagree]
  decide +kernel

/-- A procedure without documentation. -/
def bareProcedure : KbObject :=
  { name := "P", kind := Export.procedureKind, path := "P" }

/-- A procedure without documentation has its row on the page of the root
package, and the overview has no row for that page. -/
theorem not_countsAgree_bare :
    packages [bareProcedure] = ["root"]
      ∧ (indexTable (members [bareProcedure] "root")).rows = [["[P](./P.md)", "P"]]
      ∧ (packageTable [bareProcedure]).rows = []
      ∧ ¬ CountsAgree [bareProcedure] := by
  decide +kernel

end KbDocs.Site
