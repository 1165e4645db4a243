/-
Texts of one line in the layout of the screen.

A column of a table is as wide as its widest line, so nothing has to be
broken or cut: a text of one line (`OneLine`) fits, and `wrap` leaves it
alone (`wrap_of_oneLine`). A row of such texts is drawn as a single line
(`rowLines_of_oneLine`), in which they stand as they are, with spaces and
borders around them (`exists_isRow`).

# Why nothing is broken

Breaking a line adds up the cells of its words and begins a new line
where the next word does not fit. Words end in blanks, and only a joiner
draws a character into the one before it; so the cells of the words add
up to those of the line (`cells_append`), and no sum of them exceeds its
width.
-/
import Mathlib.Data.List.TakeWhile
import KbDocs.Console.Table
import KbDocs.Proofs.Text.Blank
import KbDocs.Proofs.Text.Cut

namespace KbDocs.Console

open KbDocs.Text

/-- A text without tabs, line ends and blanks at its end. -/
structure OneLine (s : List Char) : Prop where
  unbroken : ∀ c ∈ s, endsMeasuredLine c = false ∧ c ≠ '\t'
  trimmed : trimRight s = s

-- =============================================================== cells

/-- Whether the next character is drawn into the last one of a text. -/
def joins (joined : Bool) (s : List Char) : Bool :=
  (s.getLast?.map (· == '\u200d')).getD joined

theorem cellsFrom_append (joined : Bool) (s t : List Char) :
    cellsFrom joined (s ++ t) = cellsFrom joined s + cellsFrom (joins joined s) t := by
  induction s generalizing joined with
  | nil => rw [List.nil_append, cellsFrom, Nat.zero_add]; rfl
  | cons c r ih =>
      have hjoins : joins joined (c :: r) = joins (c == '\u200d') r := by
        cases r with
        | nil => rfl
        | cons d r =>
            have hlast := List.getLast?_eq_some_getLast (List.cons_ne_nil d r)
            rw [joins, joins, List.getLast?_cons_cons, hlast]
            rfl
      rw [List.cons_append, cellsFrom, cellsFrom, hjoins]
      cases hc : c == '\u200d' with
      | true => rw [if_pos rfl, if_pos rfl, ih]
      | false => simp [ih, Nat.add_assoc]

/-- The cells of two texts add up, unless a joiner stands between them. -/
theorem cells_append {s : List Char} (h : s.getLast? ≠ some '\u200d') (t : List Char) :
    cells (s ++ t) = cells s + cells t := by
  have hjoins : joins false s = false := by
    rw [joins]
    cases hs : s.getLast? with
    | none => rfl
    | some c =>
        have hc : c ≠ '\u200d' := fun heq => h (by rw [hs, heq])
        simpa using hc
  rw [cells, cellsFrom_append, hjoins]
  rfl

theorem cells_trimRight_le (s : List Char) : cells (trimRight s) ≤ cells s := by
  obtain ⟨w, -, hs⟩ := exists_trimRight s
  have hadd := cellsFrom_append false (trimRight s) w
  rw [← hs] at hadd
  rw [cells, cells]
  omega

theorem widestFrom_of_unbroken {s : List Char} (h : ∀ c ∈ s, endsMeasuredLine c = false)
    (line : List Char) : widestFrom line s = cells (line ++ s) := by
  induction s generalizing line with
  | nil => rw [widestFrom, List.append_nil]
  | cons c r ih =>
      obtain ⟨hc, hr⟩ := List.forall_mem_cons.mp h
      rw [widestFrom, if_neg (by simp [hc]), ih hr, List.append_assoc]
      rfl

theorem expandTabs_of_not_mem {s : List Char} (h : '\t' ∉ s) (column : Nat) :
    expandTabs column s = s := by
  induction s generalizing column with
  | nil => rfl
  | cons c r ih =>
      rw [List.mem_cons, not_or] at h
      rw [expandTabs, ih h.2]
      exact fun heq => h.1 heq.symm

-- =============================================================== words

/-- A text up to where a class of characters ends, and from there on. -/
theorem exists_takeWhile (p : Char → Bool) (s : List Char) :
    ∃ r, s = s.takeWhile p ++ r ∧ s.drop (s.takeWhile p).length = r
      ∧ ∀ c t, r = c :: t → p c = false := by
  refine ⟨s.dropWhile p, List.takeWhile_append_dropWhile.symm, ?_, fun c t h => ?_⟩
  · induction s with
    | nil => rfl
    | cons c r ih =>
        cases hc : p c with
        | true => simpa [hc] using ih
        | false => simp [hc]
  · have hhead := List.head?_dropWhile_not p s
    rw [h] at hhead
    simpa using hhead

/-- The first word of a text that is not blank, with the blanks around it,
and the text behind it, which begins a word. -/
theorem wordsFrom_succ {s : List Char} (h : allBlank s = false) (bound : Nat) :
    ∃ w r, s = w ++ r ∧ w ≠ [] ∧ wordsFrom (bound + 1) s = w :: wordsFrom bound r
      ∧ (r = [] ∨ allBlank r = false ∧ w.getLast? ≠ some '\u200d') := by
  obtain ⟨s₁, hlead, hdrop₁, hhead₁⟩ := exists_takeWhile isBlank s
  obtain ⟨s₂, hbody, hdrop₂, hhead₂⟩ := exists_takeWhile (fun c => !isBlank c) s₁
  obtain ⟨s₃, htail, hdrop₃, hhead₃⟩ := exists_takeWhile isBlank s₂
  have hs : s = s.takeWhile isBlank ++ s₁.takeWhile (fun c => !isBlank c)
      ++ s₂.takeWhile isBlank ++ s₃ := by
    rw [List.append_assoc, ← htail, List.append_assoc, ← hbody, ← hlead]
  have hne : s₁.takeWhile (fun c => !isBlank c) ≠ [] := by
    cases s₁ with
    | nil =>
        have hall : ∀ c ∈ s, isBlank c = true :=
          List.takeWhile_eq_self_iff.mp (by rw [← List.append_nil (s.takeWhile _), ← hlead])
        rw [allBlank, List.all_eq_true.mpr hall] at h
        cases h
    | cons c r => simp [hhead₁ c r rfl]
  refine ⟨_, s₃, hs, by simp [hne], ?_, ?_⟩
  · rw [wordsFrom, hdrop₁, ← List.drop_drop, hdrop₁, hdrop₂, ← List.drop_drop,
      ← List.drop_drop, hdrop₁, hdrop₂, hdrop₃, if_neg (by simpa using hne)]
  · cases s₃ with
    | nil => exact .inl rfl
    | cons c r =>
        have hc := hhead₃ c r rfl
        refine .inr ⟨by simp [hc], ?_⟩
        -- a word with text behind it ends in a blank, which is no joiner
        have hblanks : s₂.takeWhile isBlank ≠ [] := by
          intro hnone
          rw [hnone, List.nil_append] at htail
          simpa [hc] using hhead₂ c r htail
        have hlast := List.getLast_mem hblanks
        rw [List.getLast?_append, List.getLast?_eq_some_getLast hblanks]
        intro heq
        have hjoiner := Option.some.inj heq
        rw [hjoiner] at hlast
        exact absurd (List.mem_takeWhile_imp hlast) (by decide)

-- =============================================================== lines

/-- Words that fit into a line together are put on one line. -/
theorem foldl_addWord {bound width : Nat} {s : List Char} (overflow : Overflow)
    (hs : s = [] ∨ allBlank s = false) (hbound : s.length < bound) {l : Lines}
    (hfull : l.full = []) (hfits : l.taken + cells s ≤ width) :
    ∃ taken, (wordsFrom bound s).foldl (Lines.addWord width overflow) l
      = { full := [], current := l.current ++ s, taken := taken } := by
  induction bound generalizing s l with
  | zero => omega
  | succ bound ih =>
      rcases hs with rfl | hs
      · refine ⟨l.taken, ?_⟩
        have hwords : wordsFrom (bound + 1) [] = [] := rfl
        rw [hwords, List.foldl_nil, List.append_nil, ← hfull]
      · obtain ⟨w, r, rfl, hw, hwords, hr⟩ := wordsFrom_succ hs bound
        have hcells : cells (w ++ r) = cells w + cells r := by
          rcases hr with rfl | ⟨-, hlast⟩
          · rw [List.append_nil]
            rfl
          · exact cells_append hlast r
        have hword : Lines.addWord width overflow l w = l.add w := by
          have hle := cells_trimRight_le w
          rw [Lines.addWord, if_pos (by omega)]
        have hlength : r.length < bound := by
          have hpos := List.length_pos_iff.mpr hw
          rw [List.length_append] at hbound
          omega
        obtain ⟨taken, hrest⟩ := ih (l := l.add w) (hr.imp id And.left) hlength hfull
          (by rw [Lines.add]; dsimp only; omega)
        refine ⟨taken, ?_⟩
        rw [hwords, List.foldl_cons, hword, hrest, Lines.add, List.append_assoc]

theorem OneLine.nil_or_not_blank {s : List Char} (h : OneLine s) :
    s = [] ∨ allBlank s = false := by
  cases hblank : allBlank s with
  | true => exact .inl (h.trimmed.symm.trans (trimRight_eq_nil_iff.mpr hblank))
  | false => exact .inr rfl

theorem breakLine_of_oneLine {s : List Char} (h : OneLine s) {width : Nat}
    (hfits : cells s ≤ width) (overflow : Overflow) : breakLine width overflow s = [s] := by
  rw [breakLine]
  split
  case isTrue => rfl
  case isFalse =>
    obtain ⟨taken, hlines⟩ := foldl_addWord overflow h.nil_or_not_blank
      (Nat.lt_succ_self s.length) (l := {}) rfl (by simpa using hfits)
    rw [hlines]
    rfl

/-- A text of one line is left alone where it fits. -/
theorem wrap_of_oneLine {s : List Char} (h : OneLine s) {width : Nat}
    (hfits : cells s ≤ width) (overflow : Overflow) : wrap width overflow s = [s] := by
  have hline : '\n' ∉ s := fun hmem => absurd (h.unbroken '\n' hmem).1 (by decide)
  have htab : '\t' ∉ s := fun hmem => (h.unbroken '\t' hmem).2 rfl
  have hexcess : dropExcess width s = s := by
    rw [dropExcess, h.trimmed]
    simp
  have hwhole : truncate width overflow s = s := by
    unfold truncate
    exact if_pos hfits
  rw [wrap, Text.lines, pieces_of_not_mem hline, List.flatMap_singleton,
    expandTabs_of_not_mem htab, breakLine_of_oneLine h hfits, List.map_singleton, hexcess,
    hwhole]

-- ============================================================= columns

theorem OneLine.widest {s : List Char} (h : OneLine s) : widestFrom [] s = cells s :=
  widestFrom_of_unbroken (fun c hc => (h.unbroken c hc).1) []

/-- A column has room for each of its texts of one line. -/
theorem cells_le_columnWidth {column : List (List Char)} {s : List Char} (hs : s ∈ column)
    (h : OneLine s) : cells s ≤ columnWidth (widestFrom []) column := by
  have hmax : ∀ (ns : List Nat) (m n : Nat), n ≤ m ∨ n ∈ ns → n ≤ ns.foldl max m := by
    intro ns
    induction ns with
    | nil => simp
    | cons k ns ih =>
        intro m n hn
        refine ih (max m k) n ?_
        rcases hn with hn | hn
        · exact .inl (Nat.le_trans hn (Nat.le_max_left m k))
        · rcases List.mem_cons.mp hn with rfl | hn
          · exact .inl (Nat.le_max_right m n)
          · exact .inr hn
  rw [columnWidth, ← h.widest]
  exact hmax _ 0 _ (.inr (List.mem_map_of_mem hs))

/-- So all columns have room for a row of such texts. -/
theorem cells_le_of_mem_zip {rows : List (List (List Char))} {row : List (List Char)}
    (hrow : row ∈ rows) (h : ∀ s ∈ row, OneLine s) {p : Nat × List Char}
    (hp : p ∈ (columnWidths (widestFrom []) rows row.length).zip row) : cells p.2 ≤ p.1 := by
  induction row generalizing rows with
  | nil => cases hp
  | cons s row ih =>
      obtain ⟨hs, hrest⟩ := List.forall_mem_cons.mp h
      rw [List.length_cons, columnWidths, List.zip_cons_cons] at hp
      rcases List.mem_cons.mp hp with rfl | hp
      · exact cells_le_columnWidth (List.mem_filterMap.mpr ⟨s :: row, hrow, rfl⟩) hs
      · exact ih (List.mem_map.mpr ⟨s :: row, hrow, rfl⟩) hrest hp

theorem length_columnWidths (width : List Char → Nat) (rows : List (List (List Char)))
    (n : Nat) : (columnWidths width rows n).length = n := by
  induction n generalizing rows with
  | zero => rfl
  | succ n ih => rw [columnWidths, List.length_cons, ih]

section Row

variable {rows : List (List (List Char))} {row : List (List Char)} (hrow : row ∈ rows)
  (h : ∀ s ∈ row, OneLine s)

include hrow h

theorem wrap_row :
    ((columnWidths (widestFrom []) rows row.length).zip row).map (fun p => wrap p.1 .ellipsis p.2)
      = row.map fun s => [s] := by
  let placed := (columnWidths (widestFrom []) rows row.length).zip row
  have hsnd : placed.map Prod.snd = row := List.map_snd_zip (by rw [length_columnWidths])
  calc placed.map (fun p => wrap p.1 .ellipsis p.2)
      = placed.map fun p => [p.2] := by
        refine List.map_congr_left fun p hp => ?_
        exact wrap_of_oneLine (h p.2 (List.of_mem_zip hp).2) (cells_le_of_mem_zip hrow h hp) _
    _ = (placed.map Prod.snd).map fun s => [s] := by
        rw [List.map_map]
        rfl
    _ = row.map fun s => [s] := by rw [hsnd]

/-- A row of texts of one line is drawn in one line. -/
theorem rowLines_of_oneLine (r : Rule) :
    rowLines r (columnWidths (widestFrom []) rows row.length) row
      = [rowLine r (columnWidths (widestFrom []) rows row.length) row] := by
  have hheight : ((row.map fun s => [s]).map List.length).foldl max 1 = 1 := by
    rw [List.map_map]
    clear hrow h
    induction row with
    | nil => rfl
    | cons s row ih => simpa using ih
  have htexts : (row.map fun s => [s]).map (fun lines => (lines[0]?).getD []) = row := by
    rw [List.map_map]
    exact List.map_id row
  rw [rowLines, wrap_row hrow h, hheight]
  exact congrArg
    (fun texts => [rowLine r (columnWidths (widestFrom []) rows row.length) texts]) htexts

end Row

-- =============================================================== rows

/-- A cell with some spaces behind its text, and with the border behind
it. -/
def bordered (s : List Char) (spaces : Nat) : List Char :=
  ' ' :: (s ++ blanks (spaces + 1) ++ ['│'])

/-- A line of a table with some texts in its cells. -/
def IsRow (texts : List (List Char)) (line : List Char) : Prop :=
  ∃ spaces : List Nat, spaces.length = texts.length
    ∧ line = '│' :: (List.zipWith bordered texts spaces).flatten

/-- Cells with borders between them and one behind the last. -/
theorem join_cells {widths : List Nat} {texts : List (List Char)}
    (hlength : widths.length = texts.length) (hne : texts ≠ []) :
    join ['│'] ((widths.zip texts).map fun (w, s) => ' ' :: padRight w s ++ [' ']) ++ ['│']
      = (List.zipWith bordered texts
          (List.zipWith (fun w s => w - cells s) widths texts)).flatten := by
  have hcell : ∀ (w : Nat) (s : List Char),
      bordered s (w - cells s) = ' ' :: padRight w s ++ [' '] ++ ['│'] := by
    intro w s
    simp [bordered, padRight, blanks, List.replicate_succ']
  induction texts generalizing widths with
  | nil => exact absurd rfl hne
  | cons s texts ih =>
      obtain ⟨w, widths, rfl⟩ := List.exists_cons_of_length_eq_add_one hlength
      rw [List.length_cons, List.length_cons, Nat.add_right_cancel_iff] at hlength
      rw [List.zip_cons_cons, List.map_cons, List.zipWith_cons_cons, List.zipWith_cons_cons,
        List.flatten_cons, hcell]
      cases texts with
      | nil =>
          obtain rfl := List.length_eq_zero_iff.mp hlength
          simp
      | cons t texts =>
          obtain ⟨v, widths, rfl⟩ := List.exists_cons_of_length_eq_add_one hlength
          rw [← ih hlength (List.cons_ne_nil t texts), List.zip_cons_cons, List.map_cons,
            join_cons_cons]
          simp only [List.append_assoc]

/-- A table has a line for each row of texts of one line. -/
theorem exists_isRow (title : Option (List Char)) {headings : List (List Char)}
    {rows : List (List (List Char))} {row : List (List Char)} (hrow : row ∈ rows)
    (hlength : row.length = headings.length) (hne : row ≠ []) (h : ∀ s ∈ row, OneLine s) :
    ∃ line ∈ Table.lines title headings rows, IsRow row line := by
  have hline := rowLines_of_oneLine (List.mem_cons_of_mem headings hrow) h ⟨'│', '│', '│'⟩
  have hwidths := length_columnWidths (widestFrom []) (headings :: rows) row.length
  rw [hlength] at hline
  have hrows : rowLine ⟨'│', '│', '│'⟩
        (columnWidths (widestFrom []) (headings :: rows) headings.length) row
      ∈ rows.flatMap (rowLines ⟨'│', '│', '│'⟩
          (columnWidths (widestFrom []) (headings :: rows) headings.length)) :=
    List.mem_flatMap.mpr ⟨row, hrow, by rw [hline]; exact List.mem_singleton_self _⟩
  refine ⟨_, List.mem_append_left _ (List.mem_append_right _ hrows), ?_⟩
  rw [hlength] at hwidths
  rw [← hlength] at hwidths ⊢
  refine ⟨_, ?_, congrArg _ (join_cells hwidths hne)⟩
  rw [List.length_zipWith, hwidths, Nat.min_self]

end KbDocs.Console
