/-
Tables on a page.

A table is written as lines of text: one for the headings, a rule, and
one for each row, with a bar after every cell. Nothing but these bars and
the ends of the lines tells its reader which text stands in which cell.
So a row keeps its place exactly if its text is one physical line and has
as many separators as the line of the headings (`Table.KeepsShape`).

Both are counted as a reader of the page counts them: a line ends at a
line feed, a carriage return, or the two together, and a bar behind a
backslash separates nothing. A cell is written with a space on either
side, so a backslash at its end has no bar to escape, and what happens in
one cell does not carry over into the next. Hence `keepsShape_iff`: a
table keeps its shape exactly if no cell has a line break or a separator
of its own.
-/
import KbDocs.Proofs.Page.Apart

namespace KbDocs.Page

-- ===================================================== physical lines

/-- The physical lines of a text, from a character on; behind a carriage
return, a line feed still belongs to the same break. -/
def linesFrom : Bool → List Char → List (List Char)
  | _, [] => [[]]
  | afterReturn, c :: r =>
      if c = '\n' ∧ afterReturn = true then linesFrom false r
      else if c = '\n' ∨ c = '\r' then [] :: linesFrom (c == '\r') r
      else (linesFrom false r).modifyHead (c :: ·)

/-- The physical lines of a text. -/
def physicalLines (s : List Char) : List (List Char) :=
  linesFrom false s

/-- A text on one line. -/
def OneLine (s : String) : Prop :=
  physicalLines s.toList = [s.toList]

instance (s : String) : Decidable (OneLine s) :=
  inferInstanceAs (Decidable (physicalLines s.toList = [s.toList]))

theorem linesFrom_ne_nil (b : Bool) (s : List Char) : linesFrom b s ≠ [] := by
  fun_induction linesFrom b s with
  | case1 => simp
  | case2 _ _ _ _ ih => exact ih
  | case3 => simp
  | case4 _ _ _ _ _ ih =>
      obtain ⟨line, lines, hlines⟩ := List.exists_cons_of_ne_nil ih
      simp [hlines]

theorem getLast?_ne_of_cons {c d : Char} {s : List Char} (h : (c :: s).getLast? ≠ some d) :
    s.getLast? ≠ some d := by
  intro hlast
  rw [List.getLast?_cons, hlast] at h
  exact h rfl

/-- A line feed that is not the second half of a line break ends a line,
whatever follows. -/
theorem linesFrom_append {b : Bool} {s : List Char} (hs : s.getLast? ≠ some '\r')
    (hb : b = true → s ≠ []) (r : List Char) :
    linesFrom b (s ++ '\n' :: r) = linesFrom b s ++ physicalLines r := by
  fun_induction linesFrom b s with
  | case1 b =>
      have hfalse : b = false := by simpa using hb
      simp [linesFrom, physicalLines, hfalse]
  | case2 b c s h ih =>
      obtain ⟨rfl, rfl⟩ := h
      rw [List.cons_append, linesFrom, if_pos ⟨rfl, rfl⟩]
      exact ih (getLast?_ne_of_cons hs) (by simp)
  | case3 b c s h hc ih =>
      rw [List.cons_append, linesFrom, if_neg h, if_pos hc, List.cons_append]
      refine congrArg _ (ih (getLast?_ne_of_cons hs) ?_)
      rintro hreturn rfl
      exact hs (by simpa using hreturn)
  | case4 b c s h hc ih =>
      obtain ⟨line, lines, hlines⟩ := List.exists_cons_of_ne_nil (linesFrom_ne_nil false s)
      rw [List.cons_append, linesFrom, if_neg h, if_neg hc,
        ih (getLast?_ne_of_cons hs) (by simp), hlines]
      rfl

theorem physicalLines_append {s : List Char} (h : s.getLast? ≠ some '\r') (r : List Char) :
    physicalLines (s ++ '\n' :: r) = physicalLines s ++ physicalLines r :=
  linesFrom_append h (by simp) r

/-- A text is on one line if it has no line break. -/
theorem linesFrom_eq_singleton_iff {s : List Char} :
    linesFrom false s = [s] ↔ '\n' ∉ s ∧ '\r' ∉ s := by
  induction s with
  | nil => simp [linesFrom]
  | cons c s ih =>
      rw [linesFrom, if_neg (by simp)]
      by_cases hc : c = '\n' ∨ c = '\r'
      · rw [if_pos hc]
        rcases hc with rfl | rfl <;> simp
      · rw [if_neg hc]
        rw [not_or] at hc
        obtain ⟨line, lines, hlines⟩ := List.exists_cons_of_ne_nil (linesFrom_ne_nil false s)
        rw [hlines] at ih ⊢
        simp only [List.modifyHead_cons, List.cons.injEq, true_and, List.mem_cons, not_or,
          Ne.symm hc.1, Ne.symm hc.2, not_false_eq_true] at ih ⊢
        exact ih

theorem oneLine_iff {s : String} : OneLine s ↔ '\n' ∉ s.toList ∧ '\r' ∉ s.toList :=
  linesFrom_eq_singleton_iff

example : physicalLines "a\r\nb\rc".toList = ["a".toList, "b".toList, "c".toList] := by decide

-- ========================================================= separators

/-- The separators of a line of a table, from a character on: the bars
that no backslash escapes. -/
def separatorsFrom : Bool → List Char → Nat
  | _, [] => 0
  | true, _ :: r => separatorsFrom false r
  | false, c :: r =>
      if c = '\\' then separatorsFrom true r
      else (if c = '|' then 1 else 0) + separatorsFrom false r

/-- The separators of a line of a table. -/
def separators (s : List Char) : Nat :=
  separatorsFrom false s

/-- A character that is neither a bar nor a backslash keeps what stands
before it from what stands behind. -/
theorem separators_append {c : Char} (hbar : c ≠ '|') (hslash : c ≠ '\\')
    (s r : List Char) : separators (s ++ c :: r) = separators s + separators r := by
  have hscan : ∀ b, separatorsFrom b (s ++ c :: r) = separatorsFrom b s + separators r := by
    intro b
    fun_induction separatorsFrom b s with
    | case1 b => cases b <;> simp [separatorsFrom, separators, hbar, hslash]
    | case2 _ _ ih => exact ih
    | case3 _ ih => simpa [separatorsFrom] using ih
    | case4 d s hd ih => simp [separatorsFrom, hd, ih, Nat.add_assoc]
  exact hscan false

@[simp] theorem separators_nil : separators [] = 0 := rfl

@[simp] theorem separators_bar (r : List Char) : separators ('|' :: r) = 1 + separators r :=
  rfl

theorem separators_cons {c : Char} (hbar : c ≠ '|') (hslash : c ≠ '\\') (r : List Char) :
    separators (c :: r) = separators r := by
  rw [← List.nil_append (c :: r), separators_append hbar hslash, separators_nil, Nat.zero_add]

theorem separators_eq_zero {s : List Char} (h : '|' ∉ s) : separators s = 0 := by
  have hscan : ∀ b, separatorsFrom b s = 0 := by
    intro b
    fun_induction separatorsFrom b s with
    | case1 => rfl
    | case2 _ _ ih => exact ih (fun hmem => h (List.mem_cons_of_mem _ hmem))
    | case3 _ ih => exact ih (fun hmem => h (List.mem_cons_of_mem _ hmem))
    | case4 d s _ ih =>
        have hd : d ≠ '|' := fun heq => h (heq ▸ List.mem_cons_self)
        rw [if_neg hd, ih fun hmem => h (List.mem_cons_of_mem _ hmem)]
  exact hscan false

example : separators "a|b\\|c\\\\|d".toList = 2 := by decide

-- ============================================================== cells

/-- A text that can stand in a cell: it is on one line and has no
separator. -/
def CellText (s : String) : Prop :=
  OneLine s ∧ separators s.toList = 0

instance (s : String) : Decidable (CellText s) :=
  inferInstanceAs (Decidable (_ ∧ _))

/-- Without bars, all that matters is the line. -/
theorem cellText_of_oneLine {s : String} (hbar : '|' ∉ s.toList) (h : OneLine s) :
    CellText s :=
  ⟨h, separators_eq_zero hbar⟩

theorem cellText_orPlaceholder {s placeholder : String} (h : CellText placeholder) :
    CellText (orPlaceholder s placeholder) ↔ CellText s := by
  rw [orPlaceholder]
  split
  case isTrue hs => exact iff_of_true h (hs ▸ by decide)
  case isFalse => rfl

theorem cellText_toString (n : Nat) : CellText (toString n) := by
  have hdigit : ∀ c ∈ (toString n).toList, c.isDigit = true := by
    intro c hc
    rw [Nat.toString_eq_repr, Nat.repr, String.toList_ofList] at hc
    exact Nat.isDigit_of_mem_toDigits (by decide) (by decide) hc
  have habsent : ∀ c : Char, c.isDigit = false → c ∉ (toString n).toList := by
    intro c hc hmem
    rw [hdigit c hmem] at hc
    cases hc
  exact cellText_of_oneLine (habsent _ (by decide))
    (oneLine_iff.mpr ⟨habsent _ (by decide), habsent _ (by decide)⟩)

/-- A link separates as much as its text and the name of its page do. -/
theorem cellText_link {text name : String} :
    CellText (link text name) ↔ CellText text ∧ CellText name := by
  have hlist : (link text name).toList
      = '[' :: (text.toList ++ ']' :: ("(./".toList ++ (name.toList ++ '.' ::
        "md)".toList))) := by
    simp [link, fileOf]
  have hline : OneLine (link text name) ↔ OneLine text ∧ OneLine name := by
    rw [oneLine_iff, oneLine_iff, oneLine_iff, hlist]
    simp [and_and_and_comm]
  have hseparators : separators (link text name).toList
      = separators text.toList + separators name.toList := by
    rw [hlist]
    simp [separators_append, separators_cons]
  rw [CellText, hline, hseparators, Nat.add_eq_zero_iff, and_and_and_comm]
  rfl

/-- Marking a text as code changes nothing. -/
theorem cellText_code {s : String} : CellText ("`" ++ s ++ "`") ↔ CellText s := by
  have hlist : ("`" ++ s ++ "`").toList = '`' :: (s.toList ++ ['`']) := by
    simp
  have hline : OneLine ("`" ++ s ++ "`") ↔ OneLine s := by
    rw [oneLine_iff, oneLine_iff, hlist]
    simp
  have hseparators : separators ("`" ++ s ++ "`").toList = separators s.toList := by
    rw [hlist]
    simp [separators_append, separators_cons]
  rw [CellText, hline, hseparators]
  rfl

-- =============================================================== rows

/-- Cells between bars, in some layout. -/
def barred (layout : String → List Char) (cells : List String) : String :=
  String.ofList ('|' :: cells.flatMap fun cell => layout cell ++ ['|'])

/-- The line of a row. -/
def rowText : List String → String :=
  barred fun cell => ' ' :: (cell.toList ++ [' '])

/-- The rule under some headings. -/
def ruleText : List String → String :=
  barred fun column => List.replicate (column.length + 2) '-'

/-- Whatever it has in it, a line of a table ends in a bar. -/
theorem getLast?_barred (layout : String → List Char) (cells : List String) :
    (barred layout cells).toList.getLast? = some '|' := by
  have hcells : ∀ s : List Char, s.getLast? = some '|' →
      (s ++ cells.flatMap fun cell => layout cell ++ ['|']).getLast? = some '|' := by
    induction cells with
    | nil => simp
    | cons cell cells ih =>
        intro s _
        rw [List.flatMap_cons, ← List.append_assoc]
        exact ih _ (by simp)
  rw [barred, String.toList_ofList]
  exact hcells ['|'] rfl

/-- A row is on one line exactly if its cells are. -/
theorem oneLine_rowText {cells : List String} :
    OneLine (rowText cells) ↔ ∀ cell ∈ cells, OneLine cell := by
  simp only [oneLine_iff, rowText, barred, String.toList_ofList]
  simp [forall_and]

@[simp] theorem separators_rowText_nil : separators (rowText []).toList = 1 := by
  decide

/-- A cell adds its own separators to a row, and the one behind it. -/
theorem separators_rowText_cons (cell : String) (cells : List String) :
    separators (rowText (cell :: cells)).toList
      = separators cell.toList + 1 + separators (rowText cells).toList := by
  simp only [rowText, barred, String.toList_ofList, List.flatMap_cons, List.cons_append,
    List.append_assoc, List.nil_append, separators_bar]
  rw [separators_cons (by decide) (by decide), separators_append (by decide) (by decide),
    separators_bar]
  omega

theorem length_lt_separators_rowText (cells : List String) :
    cells.length < separators (rowText cells).toList := by
  induction cells with
  | nil => simp
  | cons cell cells ih =>
      rw [separators_rowText_cons, List.length_cons]
      omega

/-- The separators of a row are those it is written with exactly if no
cell brings more. -/
theorem separators_rowText_eq_iff {cells : List String} :
    separators (rowText cells).toList = cells.length + 1
      ↔ ∀ cell ∈ cells, separators cell.toList = 0 := by
  induction cells with
  | nil => simp
  | cons cell cells ih =>
      have hlt := length_lt_separators_rowText cells
      rw [separators_rowText_cons, List.length_cons, List.forall_mem_cons, ← ih]
      omega

-- ============================================================= tables

/-- A table. Its headings can stand in cells, and each row has one cell
for each of them. -/
structure Table where
  columns : List String
  rows : List (List String)
  headed : ∀ column ∈ columns, CellText column
  filled : ∀ row ∈ rows, row.length = columns.length

namespace Table

variable {t : Table}

/-- The lines of a table as they are written. -/
def lines (t : Table) : List String :=
  rowText t.columns :: ruleText t.columns :: t.rows.map rowText

/-- Each row is one physical line, with as many separators as the line of
the headings. -/
def KeepsShape (t : Table) : Prop :=
  ∀ row ∈ t.rows, OneLine (rowText row) ∧
    separators (rowText row).toList = separators (rowText t.columns).toList

instance (t : Table) : Decidable t.KeepsShape :=
  inferInstanceAs (Decidable (∀ row ∈ t.rows, _ ∧ _))

/-- The lines of a table are, one after another, lines of a page. -/
def StandsIn (t : Table) (page : String) : Prop :=
  ∃ before after, physicalLines page.toList
    = before ++ (t.lines.flatMap fun line => physicalLines line.toList) ++ after

theorem separators_columns (t : Table) :
    separators (rowText t.columns).toList = t.columns.length + 1 :=
  separators_rowText_eq_iff.mpr fun column hcolumn => (t.headed column hcolumn).2

/-- A table keeps its shape exactly if every cell is on one line and has
no separator. -/
theorem keepsShape_iff : t.KeepsShape ↔ ∀ row ∈ t.rows, ∀ cell ∈ row, CellText cell := by
  refine forall₂_congr fun row hrow => ?_
  rw [t.separators_columns, ← t.filled row hrow, separators_rowText_eq_iff, oneLine_rowText,
    ← forall₂_and]
  rfl

theorem getLast?_of_mem_lines {line : String} (h : line ∈ t.lines) :
    line.toList.getLast? = some '|' := by
  rcases List.mem_cons.mp h with rfl | h
  · exact getLast?_barred _ t.columns
  rcases List.mem_cons.mp h with rfl | h
  · exact getLast?_barred _ t.columns
  · obtain ⟨row, -, rfl⟩ := List.mem_map.mp h
    exact getLast?_barred _ row

end Table

-- ----------------------------------------------------- tables of a page

/-- The physical lines of lines that do not end within a line break. -/
theorem physicalLines_ofLines {lines more : List String} (hmore : more ≠ [])
    (h : ∀ line ∈ lines, line.toList.getLast? ≠ some '\r') :
    physicalLines (ofLines (lines ++ more)).toList
      = (lines.flatMap fun line => physicalLines line.toList)
        ++ physicalLines (ofLines more).toList := by
  induction lines with
  | nil => rfl
  | cons line lines ih =>
      rw [List.cons_append, toList_ofLines_cons (by simp [hmore]),
        physicalLines_append (h line List.mem_cons_self),
        ih fun line hline => h line (List.mem_cons_of_mem _ hline), List.flatMap_cons,
        List.append_assoc]

/-- A table stands in a page below a heading and above something. -/
theorem Table.standsIn_ofLines (t : Table) (before : List String) {heading : String}
    (hheading : heading.toList.getLast? = some '\n') {after : List String}
    (hafter : after ≠ []) :
    t.StandsIn (ofLines (before ++ [heading] ++ (t.lines ++ after))) := by
  have htop : (ofLines (before ++ [heading])).toList.getLast? ≠ some '\r' := by
    have hlast : (ofLines [heading]).toList.getLast? = some '\n' := by
      rw [toList_ofLines, List.map_singleton, Text.join_singleton, hheading]
    by_cases hbefore : before = []
    · simp [hbefore, hlast]
    · rw [toList_ofLines_append hbefore (by simp), List.getLast?_append, List.getLast?_cons,
        hlast]
      simp
  refine ⟨physicalLines (ofLines (before ++ [heading])).toList,
    physicalLines (ofLines after).toList, ?_⟩
  rw [toList_ofLines_append (by simp) (by simp [hafter]), physicalLines_append htop,
    physicalLines_ofLines hafter, List.append_assoc]
  intro line hline
  rw [Table.getLast?_of_mem_lines hline]
  decide

end KbDocs.Page
