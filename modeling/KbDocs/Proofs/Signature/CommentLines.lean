/-
Comment lines of a rules text contribute nothing.

Whoever edits rules adds and removes comment lines, at the start of the
text, at its end and between any two lines, also within a call. An added
line is one of three things (`CommentAdded`): a line above the line that
begins at some boundary; a line in the place of the empty one that a text
ends with, if it is empty or ends with a line feed; or a line below the
last one. Removing a line is adding it the other way round, and an edit
is any number of both.

# What an edit leaves as it was

In the first and the third case the text without its comment lines is the
same before and after. In the second it is not: the empty last line is
gone, and with it the line feed before it. But a call ends with a
parenthesis, so nothing without one matters behind a text
(`findCall?_append`). Hence one line changes nothing
(`CommentAdded.findCall?_eq`), and neither does an edit
(`CommentEdit.findCall?_eq`).
-/
import KbDocs.Proofs.Signature.Reference
import Mathlib.Logic.Relation

namespace KbDocs.ParmRule

open KbDocs.Text

-- ========================================================== the edits

/-- A comment line: it begins, but for white space, with two slashes. -/
def CommentLine (line : List Char) : Prop :=
  '\n' ∉ line ∧ "//".toList <+: trim line

instance (line : List Char) : Decidable (CommentLine line) :=
  inferInstanceAs (Decidable (_ ∧ _))

/-- A text behind which a line begins. -/
def LineBoundary (above : List Char) : Prop :=
  above = [] ∨ ∃ lines, above = lines ++ ['\n']

/-- One more comment line in a text. -/
inductive CommentAdded : List Char → List Char → Prop
  | above (before line after : List Char) (hbefore : LineBoundary before)
      (hline : CommentLine line) :
      CommentAdded (before ++ after) (before ++ line ++ '\n' :: after)
  | last (before line : List Char) (hbefore : LineBoundary before)
      (hline : CommentLine line) : CommentAdded before (before ++ line)
  | below (before line : List Char) (hline : CommentLine line) :
      CommentAdded before (before ++ '\n' :: line)

/-- Texts that differ by comment lines, added or removed. -/
def CommentEdit : List Char → List Char → Prop :=
  Relation.EqvGen CommentAdded

-- ================================================= what stands behind

/-- A text behind another one adds no call to it and takes none away,
unless it closes a parenthesis. -/
theorem callAt_append {s t a : List Char} {i : Nat} (ht : ')' ∉ t) :
    CallAt (s ++ t) i a ↔ CallAt s i a := by
  unfold CallAt
  have hrest : ')' ∉ t.drop (i - s.length) := fun hmem => ht (List.mem_of_mem_drop hmem)
  rw [List.drop_append]
  constructor
  · intro ⟨word, blanks, rest, heq, hcall⟩
    have hsplit : s.drop i ++ t.drop (i - s.length)
        = (word ++ blanks ++ '(' :: a) ++ ')' :: rest := by
      rw [heq]
      simp
    -- the parenthesis that closes is not in the second text
    rcases List.append_eq_append_iff.mp hsplit with ⟨more, -, hmore⟩ | ⟨more, hmore, htail⟩
    · exact absurd (hmore ▸ by simp) hrest
    · cases more with
      | nil =>
          rw [List.nil_append] at htail
          exact absurd (htail ▸ List.mem_cons_self ..) hrest
      | cons c more =>
          obtain ⟨rfl, -⟩ := List.cons.inj htail
          exact ⟨word, blanks, more, by rw [hmore]; simp, hcall⟩
  · intro ⟨word, blanks, rest, heq, hcall⟩
    exact ⟨word, blanks, rest ++ t.drop (i - s.length), by rw [heq]; simp, hcall⟩

theorem findCall?_append {t : List Char} (ht : ')' ∉ t) (s : List Char) :
    findCall? (s ++ t) = findCall? s := by
  refine Option.ext fun a => ?_
  rw [findCall?_eq_some_iff, findCall?_eq_some_iff]
  simp only [FirstCall, callAt_append ht]

-- ============================================================ one line

/-- The lines of a text that are not comments. -/
def codeLines (s : List Char) : List (List Char) :=
  (lines s).filter fun line => !isCommentLine line

theorem codeLines_append_cons (s t : List Char) :
    codeLines (s ++ '\n' :: t) = codeLines s ++ codeLines t := by
  rw [codeLines, lines, pieces_append_cons, List.filter_append]
  rfl

theorem codeLines_of_commentLine {line : List Char} (h : CommentLine line) :
    codeLines line = [] := by
  have hcomment : isCommentLine line = true := List.isPrefixOf_iff_prefix.mpr h.2
  rw [codeLines, lines, pieces_of_not_mem h.1, List.filter_singleton, hcomment]
  rfl

theorem codeLines_nil : codeLines [] = [[]] := rfl

/-- An empty last line leaves at most a line feed behind the others. -/
theorem findCall?_join_concat_nil (parts : List (List Char)) :
    findCall? (join ['\n'] (parts ++ [[]])) = findCall? (join ['\n'] parts) := by
  cases parts with
  | nil => rfl
  | cons p parts =>
      rw [join_append (by simp) (by simp), join_singleton, List.append_nil,
        findCall?_append (by decide)]

/-- A comment line more leaves the call that is found. -/
theorem CommentAdded.findCall?_eq {s t : List Char} (h : CommentAdded s t) :
    findCall? (dropCommentLines t) = findCall? (dropCommentLines s) := by
  change findCall? (join ['\n'] (codeLines t)) = findCall? (join ['\n'] (codeLines s))
  cases h with
  | above before line after hbefore hline =>
      have hadded : codeLines (line ++ '\n' :: after) = codeLines after := by
        rw [codeLines_append_cons, codeLines_of_commentLine hline, List.nil_append]
      rw [List.append_assoc]
      rcases hbefore with rfl | ⟨above, rfl⟩
      · rw [List.nil_append, List.nil_append, hadded]
      · rw [List.append_assoc, List.append_assoc, List.singleton_append,
          List.singleton_append, codeLines_append_cons above, hadded, ← codeLines_append_cons]
  | last before line hbefore hline =>
      rcases hbefore with rfl | ⟨above, rfl⟩
      · rw [List.nil_append, codeLines_of_commentLine hline]
        rfl
      · rw [List.append_assoc, List.singleton_append, codeLines_append_cons,
          codeLines_append_cons, codeLines_of_commentLine hline, codeLines_nil,
          List.append_nil, findCall?_join_concat_nil]
  | below before line hline =>
      rw [codeLines_append_cons, codeLines_of_commentLine hline, List.append_nil]

-- ============================================================ the rule

/-- An edit leaves the call that is found. -/
theorem CommentEdit.findCall?_eq {s t : List Char} (h : CommentEdit s t) :
    findCall? (dropCommentLines t) = findCall? (dropCommentLines s) := by
  induction h with
  | rel s t h => exact h.findCall?_eq
  | refl s => rfl
  | symm s t _ ih => exact ih.symm
  | trans s t u _ _ ihst ihtu => exact ihtu.trans ihst

/-- Comment lines may be added to a rules text and removed from it, at
any line boundaries, without changing the signature that it declares. -/
theorem signature?_commentEdit {rules edited : String}
    (h : CommentEdit rules.toList edited.toList) (procedure : String) :
    signature? edited procedure = signature? rules procedure := by
  rw [signature?, signature?, h.findCall?_eq]

/-- A call with one comment before it, one between its keyword and its
parenthesis, and one behind it; the first and the last hold calls of
their own. Nothing is left of a text that is a comment. -/
theorem signature?_commentEdit_call :
    signature? "// parm(out:&X);\nparm\n\t// on the next line\n(in:&A);\n  //parm();" "P"
        = signature? "parm\n(in:&A);" "P"
      ∧ signature? "parm\n(in:&A);" "P"
        = some { parameters := [{ name := "A" }], callText := "P(in:&A);" }
      ∧ signature? "// parm(in:&A);" "P" = signature? "" "P"
      ∧ signature? "" "P" = none := by
  have hbetween : CommentAdded "parm\n(in:&A);".toList
      "parm\n\t// on the next line\n(in:&A);".toList :=
    .above "parm\n".toList "\t// on the next line".toList "(in:&A);".toList
      (.inr ⟨"parm".toList, rfl⟩) (by decide)
  have hfirst : CommentAdded "parm\n\t// on the next line\n(in:&A);".toList
      "// parm(out:&X);\nparm\n\t// on the next line\n(in:&A);".toList :=
    .above [] "// parm(out:&X);".toList _ (.inl rfl) (by decide)
  have hlast : CommentAdded "// parm(out:&X);\nparm\n\t// on the next line\n(in:&A);".toList
      "// parm(out:&X);\nparm\n\t// on the next line\n(in:&A);\n  //parm();".toList :=
    .below _ "  //parm();".toList (by decide)
  have honly : CommentAdded "".toList "// parm(in:&A);".toList :=
    .last [] _ (.inl rfl) (by decide)
  refine ⟨signature?_commentEdit ?_ "P", by decide +kernel,
    signature?_commentEdit (.rel _ _ honly) "P", by decide +kernel⟩
  exact .trans _ _ _ (.rel _ _ hbetween) (.trans _ _ _ (.rel _ _ hfirst) (.rel _ _ hlast))

end KbDocs.ParmRule
