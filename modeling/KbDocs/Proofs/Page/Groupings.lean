/-
Groupings on the overview.

The overview counts its objects by kind and its documented procedures by
package. Either table is a list of entries, and `Groups` says which: one
entry for each label that occurs, in the order of the labels, with the
number of items under it. The numbers add up to that of all items.

# The order of the objects

Strictly increasing labels leave no choice: there is one list of entries
for some items (`Groups.unique`). And whether entries group some items
does not depend on the order of these (`Groups.perm`). So both tables and
the total are the same in whatever order the objects come out of an
export. `overviewAround` is an overview with a gap for the table of
objects; `overview_grouped` says that nothing but what stands in the gap
knows the order.
-/
import KbDocs.Proofs.Site.Plan
import Mathlib.Algebra.BigOperators.Group.List.Lemmas
import Mathlib.Algebra.GroupWithZero.Nat

namespace KbDocs.Page

-- ========================================================== groupings

/-- The entries of a table that groups items by a label. -/
structure Groups {α : Type} (label : α → String) (items : List α)
    (entries : List (String × Nat)) : Prop where
  increasing : entries.Pairwise fun a b => a.1 < b.1
  complete : ∀ k, k ∈ entries.map Prod.fst ↔ ∃ a ∈ items, label a = k
  counts : ∀ e ∈ entries, e.2 = (items.filter fun a => label a == e.1).length
  total : (entries.map Prod.snd).sum = items.length

section Groups

variable {α : Type} {label : α → String} {items : List α} {entries : List (String × Nat)}

/-- Sorted keys are strictly increasing. -/
theorem pairwise_lt_sortedKeys (keys : List String) :
    (sortedKeys keys).Pairwise fun a b => a < b := by
  refine ((pairwise_sortedKeys keys).and (nodup_sortedKeys keys)).imp fun ⟨hle, hne⟩ => ?_
  exact String.not_le.mp fun hge => hne (String.le_antisymm hle hge)

theorem count_map_label (label : α → String) (items : List α) (k : String) :
    (items.map label).count k = (items.filter fun a => label a == k).length := by
  rw [List.count, List.countP_map, List.countP_eq_length_filter]
  rfl

/-- The numbers of occurrences add up to the number of keys. -/
theorem sum_count_sortedKeys (keys : List String) :
    ((sortedKeys keys).map fun k => keys.count k).sum = keys.length := by
  rw [((perm_sortedKeys keys).map _).sum_eq]
  exact List.sum_map_count_dedup_eq_length keys

theorem groups_tally (label : α → String) (items : List α) :
    Groups label items (tally (items.map label)) where
  increasing := by
    rw [tally, List.pairwise_map]
    exact pairwise_lt_sortedKeys (items.map label)
  complete k := by
    rw [tally, List.map_map]
    change k ∈ (sortedKeys (items.map label)).map id ↔ _
    rw [List.map_id, mem_sortedKeys, List.mem_map]
  counts e he := by
    obtain ⟨k, -, rfl⟩ := List.mem_map.mp he
    exact count_map_label label items k
  total := by
    rw [tally, List.map_map]
    exact (sum_count_sortedKeys (items.map label)).trans (List.length_map _)

/-- The items may come in any order. -/
theorem Groups.perm {items' : List α} (h : Groups label items entries)
    (hperm : items.Perm items') : Groups label items' entries where
  increasing := h.increasing
  complete k := by
    rw [h.complete]
    exact exists_congr fun a => and_congr_left fun _ => hperm.mem_iff
  counts e he := by
    rw [h.counts e he]
    exact (hperm.filter _).length_eq
  total := by rw [h.total, hperm.length_eq]

/-- There is one way to group items. -/
theorem Groups.unique {entries' : List (String × Nat)} (h : Groups label items entries)
    (h' : Groups label items entries') : entries = entries' := by
  have hsorted := List.pairwise_map.mpr h.increasing
  have hsorted' := List.pairwise_map.mpr h'.increasing
  have hlabels : entries.map Prod.fst = entries'.map Prod.fst := by
    have hperm : (entries.map Prod.fst).Perm (entries'.map Prod.fst) := by
      refine (List.perm_ext_iff_of_nodup ?_ ?_).mpr fun k => ?_
      · exact hsorted.imp String.ne_of_lt
      · exact hsorted'.imp String.ne_of_lt
      · rw [h.complete, h'.complete]
    exact hperm.eq_of_pairwise (fun a b _ _ hab hba => absurd hba (String.lt_asymm hab))
      hsorted hsorted'
  -- an entry is its label with the number of items under it
  have hentries : ∀ es : List (String × Nat), Groups label items es → es
      = (es.map Prod.fst).map fun k => (k, (items.filter fun a => label a == k).length) := by
    intro es hes
    rw [List.map_map]
    refine (List.map_id es).symm.trans (List.map_congr_left fun e he => ?_)
    exact Prod.ext rfl (hes.counts e he)
  rw [hentries entries h, hentries entries' h', hlabels]

/-- Counting does not depend on the order of what is counted. -/
theorem tally_perm {items' : List α} (hperm : items.Perm items') (label : α → String) :
    tally (items.map label) = tally (items'.map label) :=
  ((groups_tally label items).perm hperm).unique (groups_tally label items')

end Groups

-- ============================================================ the page

/-- The section with a table of counts; without entries there is none. -/
def countSection (heading columns rule : String) (cell : String → String)
    (entries : List (String × Nat)) : List String :=
  if entries = [] then []
  else [heading, columns, rule]
    ++ entries.map (fun e => "| " ++ cell e.1 ++ " | " ++ toString e.2 ++ " |") ++ [""]

/-- An overview with given entries for kinds and packages, and a gap for
the lines of the table of objects. The total is that of the kinds. -/
def overviewAround (kbName : String) (generatedAt : Timestamp)
    (kinds packages : List (String × Nat)) (objectTable : List String) : String :=
  ofLines ([if kbName = "" then "# GeneXus Documentation\n"
      else "# " ++ kbName ++ " Documentation\n",
    "Generated on: " ++ generatedAt.text ++ "\n",
    "Total Objects: **" ++ toString (kinds.map Prod.snd).sum ++ "**\n"]
    ++ countSection "## Object Statistics\n" "| Type | Count |" "|------|-------|" id kinds
    ++ countSection "## Packages\n" "| Package | Procedures |" "|---------|------------|"
      (fun package => "[" ++ package ++ "](./" ++ package ++ ".md)") packages
    ++ ["## Extracted Objects\n"] ++ objectTable ++ ["\n---", footer])

theorem tally_eq_nil_iff {keys : List String} : tally keys = [] ↔ keys = [] := by
  rw [tally, List.map_eq_nil_iff, List.eq_nil_iff_forall_not_mem,
    List.eq_nil_iff_forall_not_mem]
  exact forall_congr' fun k => not_congr mem_sortedKeys

theorem statisticsLines_eq_countSection (objects : List KbObject) :
    statisticsLines objects
      = countSection "## Object Statistics\n" "| Type | Count |" "|------|-------|" id
        (tally (objects.map kindLabel)) := by
  rw [statisticsLines, countSection]
  refine if_congr ?_ rfl rfl
  rw [tally_eq_nil_iff, List.map_eq_nil_iff, List.isEmpty_iff]

theorem packagesLines_eq_countSection (objects : List KbObject) :
    packagesLines objects
      = countSection "## Packages\n" "| Package | Procedures |" "|---------|------------|"
        (fun package => "[" ++ package ++ "](./" ++ package ++ ".md)")
        (tally (countedPackages objects)) := by
  have hcell : ∀ package : String,
      "[" ++ package ++ "](./" ++ package ++ ".md)" = link package package := by
    intro package
    rw [link, fileOf, ← String.toList_inj]
    simp
  rw [packagesLines, countSection]
  simp only [hcell]
  refine if_congr ?_ rfl rfl
  rw [tally_eq_nil_iff, List.isEmpty_iff]

theorem overview_eq_overviewAround (objects : List KbObject) (kbName : String)
    (generatedAt : Timestamp) :
    overview objects kbName generatedAt
      = overviewAround kbName generatedAt (tally (objects.map kindLabel))
        (tally (countedPackages objects)) (objectLines objects) := by
  rw [overview, overviewAround, (groups_tally kindLabel objects).total,
    statisticsLines_eq_countSection, packagesLines_eq_countSection]

/-- The overview groups objects by kind and documented procedures by
package, each label once, in strictly increasing order and with the
number of items under it; the total is the sum over the kinds. In
whatever order the objects are extracted, all of the page is the same
but for the table of objects. -/
theorem overview_grouped (objects : List KbObject) :
    ∃ kinds packages : List (String × Nat),
      Groups (fun o => if o.kind = "" then "Unknown" else o.kind) objects kinds
      ∧ Groups packageOf
        (objects.filter fun o => o.kind == "Procedure" && o.documentation.isSome) packages
      ∧ ∀ extracted : List KbObject, extracted.Perm objects →
        ∀ kbName generatedAt, overview extracted kbName generatedAt
          = overviewAround kbName generatedAt kinds packages (objectLines extracted) := by
  refine ⟨tally (objects.map kindLabel), tally (countedPackages objects),
    groups_tally kindLabel objects, groups_tally packageOf _, ?_⟩
  intro extracted hperm kbName generatedAt
  have hpackages : tally (countedPackages extracted) = tally (countedPackages objects) :=
    tally_perm (hperm.filter _) packageOf
  rw [overview_eq_overviewAround, tally_perm hperm kindLabel, hpackages]

/-- Objects without a kind and of the kind `Unknown`, and two packages
that are written differently and have one name. -/
def mergingObjects : List KbObject :=
  [{ name := "First", kind := "Unknown", path := "A" },
    { name := "Second", kind := "Procedure", path := "B"
      documentation := some { package := "sales/eu" } },
    { name := "Third", path := "C" },
    { name := "Fourth", kind := "Procedure", path := "D"
      documentation := some { package := "sales:eu" } }]

/-- In either order, the merged labels have one row each. -/
theorem overview_grouped_merging :
    ∀ extracted ∈ [mergingObjects, mergingObjects.reverse],
      overview extracted "KB" ⟨2025, 11, 13, 10, 30, 0⟩
        = overviewAround "KB" ⟨2025, 11, 13, 10, 30, 0⟩ [("Procedure", 2), ("Unknown", 2)]
          [("sales-eu", 2)] (objectLines extracted) := by
  obtain ⟨kinds, packages, hkinds, hpackages, hpage⟩ := overview_grouped mergingObjects
  have hkinds' : kinds = [("Procedure", 2), ("Unknown", 2)] := by
    have hlabels : mergingObjects.map (fun o => if o.kind = "" then "Unknown" else o.kind)
        = ["Unknown", "Procedure", "Unknown", "Procedure"] := by decide
    refine hkinds.unique ⟨by decide, fun k => ?_, by decide, by decide⟩
    rw [← List.mem_map, hlabels]
    grind
  have hpackages' : packages = [("sales-eu", 2)] := by
    have hlabels : (mergingObjects.filter fun o =>
        o.kind == "Procedure" && o.documentation.isSome).map packageOf
        = ["sales-eu", "sales-eu"] := by decide +kernel
    refine hpackages.unique ⟨by decide, fun k => ?_, by decide +kernel, by decide⟩
    rw [← List.mem_map, hlabels]
    grind
  subst hkinds' hpackages'
  intro extracted hextracted
  refine hpage extracted ?_ "KB" _
  rcases List.mem_pair.mp hextracted with rfl | rfl
  · exact List.Perm.refl _
  · exact List.reverse_perm mergingObjects

end KbDocs.Page
