/-
Pages of different kinds never have the same text, whatever the export
says: two pages that share a file name cannot share its file.

A procedure's page ends in a blank line and the footer, the two others
in a rule and the footer, so one character before the footer tells them
apart (`ofLines_footer_ne`).

# A package and the overview

These two are told apart at the top, and only as far as they share a
file name: then the package is named like the knowledge base, but for
unsafe characters and white space at the ends. Both headings repeat that
name, the first behind `Package: ` and the second in front of
`Documentation`. Where the name ends in the first heading, the second is
either still in the white space behind the name or already inside the
word `Documentation` (`heading_ne`).
-/
import KbDocs.Page.Overview
import KbDocs.Page.Procedure
import KbDocs.Proofs.Text.Blank
import KbDocs.Proofs.Text.Cut

namespace KbDocs.Page

open KbDocs.Text

-- ============================================================== texts

/-- The list of an array's bytes is built from some place on, with `n`
bytes to go. -/
private theorem toList_loop (bytes : ByteArray) {n i : Nat} (h : i + n = bytes.size)
    (r : List UInt8) :
    ByteArray.toList.loop bytes i r = r.reverse ++ bytes.data.toList.drop i := by
  have hlength : bytes.data.toList.length = bytes.size := rfl
  induction n generalizing i r with
  | zero =>
      rw [ByteArray.toList.loop, if_neg (by omega), List.drop_eq_nil_of_le (by omega),
        List.append_nil]
  | succ n ih =>
      have hi : i < bytes.size := by omega
      rw [ByteArray.toList.loop, if_pos hi, ih (by omega), List.drop_eq_getElem_cons hi]
      simp [ByteArray.get!, hi]

/-- A text is determined by its bytes. -/
theorem eq_of_bytes {s t : String} (h : s.toUTF8.toList = t.toUTF8.toList) : s = t := by
  rw [ByteArray.toList, ByteArray.toList, toList_loop _ (Nat.zero_add _),
    toList_loop _ (Nat.zero_add _)] at h
  rw [← String.toByteArray_inj]
  exact ByteArray.ext (Array.toList_inj.mp (by simpa using h))

/-- A page is determined by its file. -/
theorem eq_of_fileOf {a b : String} (h : fileOf a = fileOf b) : a = b := by
  have hlists := congrArg String.toList h
  rw [fileOf, fileOf, String.toList_append, String.toList_append] at hlists
  exact String.toList_inj.mp (List.append_cancel_right hlists)

/-- The file of a page does not lead up. -/
theorem fileOf_ne_up (name : String) : fileOf name ≠ ".." := by
  intro h
  have hlast := congrArg (fun s => s.toList.getLast?) h
  rw [fileOf] at hlast
  simp [List.getLast?_append] at hlast

theorem toList_ofLines (lines : List String) :
    (ofLines lines).toList = join ['\n'] (lines.map String.toList) := by
  rw [ofLines, joinStrings, String.toList_ofList]
  rfl

theorem toList_ofLines_cons {lines : List String} (h : lines ≠ []) (line : String) :
    (ofLines (line :: lines)).toList = line.toList ++ '\n' :: (ofLines lines).toList := by
  obtain ⟨b, lines, rfl⟩ := List.exists_cons_of_ne_nil h
  rw [toList_ofLines, toList_ofLines, List.map_cons, List.map_cons, join_cons_cons]
  simp

theorem toList_ofLines_append {lines more : List String} (h : lines ≠ [])
    (hmore : more ≠ []) :
    (ofLines (lines ++ more)).toList
      = (ofLines lines).toList ++ '\n' :: (ofLines more).toList := by
  rw [toList_ofLines, toList_ofLines, toList_ofLines, List.map_append,
    join_append (by simpa using h) (by simpa using hmore)]
  simp

-- ======================================================== the bottom

/-- A blank line in front of the footer is not a rule. -/
theorem ofLines_footer_ne {lines more : List String} (h : lines ≠ []) (hmore : more ≠ []) :
    ofLines (lines ++ ["", footer]) ≠ ofLines (more ++ ["\n---", footer]) := by
  intro heq
  have hlists := congrArg String.toList heq
  rw [toList_ofLines_append h (by simp), toList_ofLines_append hmore (by simp),
    toList_ofLines_cons (by simp) "", toList_ofLines_cons (by simp) "\n---",
    ← List.cons_append, ← List.append_assoc, ← List.cons_append, ← List.append_assoc]
    at hlists
  have hlast := congrArg List.getLast? (List.append_cancel_right hlists)
  simp [List.getLast?_append] at hlast

/-- No procedure's page is the page of a package. -/
theorem procedurePage_ne_packagePage (o : KbObject) (package : String)
    (ps : List KbObject) : procedurePage o ≠ packagePage package ps :=
  ofLines_footer_ne (by simp) (by simp)

/-- No procedure's page is an overview. -/
theorem procedurePage_ne_overview (o : KbObject) (objects : List KbObject)
    (kbName : String) (generatedAt : Timestamp) :
    procedurePage o ≠ overview objects kbName generatedAt :=
  ofLines_footer_ne (by simp) (by simp)

-- ============================================================ the top

/-- A character as it stands in a file name. -/
def safeChar (c : Char) : Char :=
  if unsafeChars.contains c then '-' else c

/-- What stands in a file name for a visible character is visible. -/
theorem isBlank_safeChar {c : Char} (h : isBlank c = false) :
    isBlank (safeChar c) = false := by
  rw [safeChar]
  split
  · decide
  · exact h

theorem toList_ofKb {kbName : String} (h : trim kbName.toList ≠ []) :
    (ofKb kbName).toList = (trim kbName.toList).map safeChar := by
  rw [ofKb, fileName]
  have hsafe : ((trim kbName.toList).map safeChar).isEmpty = false := by
    simpa [List.isEmpty_eq_false_iff] using h
  unfold safeChar at hsafe ⊢
  simp only [hsafe, Bool.false_eq_true, if_false, String.toList_ofList]

/-- How the heading of an overview goes on behind the name. -/
def headingEnd : List Char :=
  " Documentation\n".toList

/-- Eight characters behind a name, the heading of an overview is in
white space or in its last word; it is not at the end of a line. -/
theorem headingEnd_ne {v x y : List Char} {z : Char} (hv : allBlank v = true)
    (hz : isBlank z = false) :
    z :: '\n' :: x ≠ (v ++ headingEnd ++ y).drop 8 := by
  intro heq
  rw [List.append_assoc] at heq
  by_cases hlong : 8 < v.length
  · -- a visible character against white space
    rw [List.drop_append_of_le_length (by omega), List.drop_eq_getElem_cons hlong] at heq
    have hblank := isBlank_of_mem hv (List.getElem_mem hlong)
    rw [← (List.cons.inj heq).1, hz] at hblank
    cases hblank
  · -- a line break against a letter
    have hletter : ∀ k < 10, 0 < k →
        (headingEnd.drop k).head? ≠ none ∧ (headingEnd.drop k).head? ≠ some '\n' := by
      decide
    have htail := congrArg List.tail heq
    rw [List.tail_drop, List.drop_append, List.drop_eq_nil_of_le (by omega),
      List.nil_append, List.drop_append] at htail
    obtain ⟨hsome, hline⟩ := hletter (8 + 1 - v.length) (by omega) (by omega)
    cases hrest : headingEnd.drop (8 + 1 - v.length) with
    | nil => exact hsome (by rw [hrest]; rfl)
    | cons c rest =>
        rw [hrest] at htail hline
        exact hline (congrArg some (List.cons.inj htail).1.symm)

/-- The heading of a package that is named like the knowledge base is not
that of its overview. -/
theorem heading_ne {kb x y : List Char} (h : trim kb ≠ []) :
    "Package: ".toList ++ (trim kb).map safeChar ++ '\n' :: x
      ≠ kb ++ headingEnd ++ y := by
  intro heq
  obtain ⟨w, v, hw, hv, hkb⟩ := exists_trim kb
  -- no white space stands in front of the name, since a letter does
  have hw' : w = [] := by
    cases w with
    | nil => rfl
    | cons b w =>
        rw [hkb] at heq
        have hb : 'P' = b := (List.cons.inj heq).1
        have hblank := isBlank_of_mem hw (List.mem_cons_self ..)
        rw [← hb] at hblank
        exact absurd hblank (by decide)
  obtain ⟨init, z, hz⟩ : ∃ init z, trim kb = init ++ [z] :=
    ⟨_, _, (List.dropLast_concat_getLast h).symm⟩
  have hvisible : isBlank z = false :=
    (trimmed_iff.mp (trimmed_trim kb)).2 z (by rw [hz]; simp)
  have hleft : ("Package: ".toList ++ (trim kb).map safeChar ++ '\n' :: x).drop
      ((trim kb).length + 8) = safeChar z :: '\n' :: x := by
    rw [hz, List.map_append, List.append_assoc, List.append_assoc, ← List.append_assoc]
    exact List.drop_left' (by simp)
  have hright : (kb ++ headingEnd ++ y).drop ((trim kb).length + 8)
      = (v ++ headingEnd ++ y).drop 8 := by
    have hsource : kb ++ headingEnd ++ y = trim kb ++ (v ++ headingEnd ++ y) := by
      rw [hw', List.nil_append] at hkb
      rw [List.append_assoc, List.append_assoc, ← List.append_assoc (trim kb), ← hkb]
    rw [hsource, List.drop_length_add_append]
  rw [← heq, hleft] at hright
  exact headingEnd_ne hv (isBlank_safeChar hvisible) hright

/-- How the page of a package begins. -/
theorem toList_packagePage (package : String) (ps : List KbObject) :
    ∃ x, (packagePage package ps).toList
      = "# Package: ".toList ++ package.toList ++ '\n' :: x := by
  have hlines : (packagePage package ps).toList = _ :=
    toList_ofLines_cons (List.cons_ne_nil _ _) _
  rw [hlines, String.toList_append, String.toList_append, List.append_assoc]
  exact ⟨_, rfl⟩

/-- How the overview of a knowledge base with a name begins. -/
theorem toList_overview {kbName : String} (h : kbName ≠ "") (objects : List KbObject)
    (generatedAt : Timestamp) :
    ∃ y, (overview objects kbName generatedAt).toList
      = "# ".toList ++ kbName.toList ++ headingEnd ++ y := by
  have hlines : (overview objects kbName generatedAt).toList = _ :=
    toList_ofLines_cons (List.cons_ne_nil _ _) _
  rw [hlines, if_neg h, String.toList_append, String.toList_append]
  exact ⟨_, rfl⟩

/-- How the overview of a knowledge base without a name begins. -/
theorem toList_overview_unnamed (objects : List KbObject) (generatedAt : Timestamp) :
    ∃ y, (overview objects "" generatedAt).toList
      = "# GeneXus Documentation\n".toList ++ y := by
  have hlines : (overview objects "" generatedAt).toList = _ :=
    toList_ofLines_cons (List.cons_ne_nil _ _) _
  rw [hlines, if_pos rfl]
  exact ⟨_, rfl⟩

/-- The page of a package that is named like the knowledge base is not
its overview. -/
theorem packagePage_ne_overview (ps objects : List KbObject) (kbName : String)
    (generatedAt : Timestamp) :
    packagePage (ofKb kbName) ps ≠ overview objects kbName generatedAt := by
  intro heq
  obtain ⟨x, hx⟩ := toList_packagePage (ofKb kbName) ps
  by_cases hkb : kbName = ""
  · subst hkb
    obtain ⟨y, hy⟩ := toList_overview_unnamed objects generatedAt
    rw [← heq, hx] at hy
    cases hy
  · obtain ⟨y, hy⟩ := toList_overview hkb objects generatedAt
    rw [← heq, hx] at hy
    have hname : "Package: ".toList ++ (ofKb kbName).toList ++ '\n' :: x
        = kbName.toList ++ headingEnd ++ y := by
      simpa using hy
    by_cases htrim : trim kbName.toList = []
    · -- a blank name begins with white space, and not with a letter
      obtain ⟨b, r, hcons⟩ := List.exists_cons_of_ne_nil
        (fun hnil => hkb (String.toList_eq_nil_iff.mp hnil))
      rw [hcons] at hname htrim
      have hb : 'P' = b := (List.cons.inj hname).1
      have hblank := isBlank_of_mem (trim_eq_nil_iff.mp htrim) (List.mem_cons_self ..)
      rw [← hb] at hblank
      exact absurd hblank (by decide)
    · rw [toList_ofKb htrim] at hname
      exact heading_ne htrim hname

end KbDocs.Page
