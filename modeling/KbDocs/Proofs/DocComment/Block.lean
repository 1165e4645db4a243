/-
Finding a documentation block and cleaning its lines.

A block is found wherever it stands: before it there must be no opener,
and within it no closer (`body?_append`). Neither of the two overlaps
with itself, so what is written around them does not matter.

The text of a block is trimmed as a whole before it is cut into lines.
That touches its first and its last line only, and lines are trimmed
anyway (`map_cleanLine_lines`): the cleaned lines of a block are those of
its rows one by one.
-/
import KbDocs.DocComment.Block
import KbDocs.Proofs.Text.Blank
import KbDocs.Proofs.Text.Cut

namespace KbDocs.DocBlock

open KbDocs.Text

-- =========================================================== the block

/-- The first opener and the first closer behind it make the block. -/
theorem body?_append {before inside : List Char} (hbefore : ¬ opener <:+: before)
    (hinside : ¬ closer <:+: inside) (after : List Char) :
    body? (before ++ opener ++ (inside ++ closer ++ after)) = some (trim inside) := by
  have hopen : cutPhrase opener (before ++ opener ++ (inside ++ closer ++ after))
      = (before, some (inside ++ closer ++ after)) :=
    cutPhrase_append_of_head (by decide) hbefore _
  have hclose : cutPhrase closer (inside ++ closer ++ after) = (inside, some after) :=
    cutPhrase_append_of_head (by decide) hinside _
  rw [body?, hopen]
  dsimp only
  rw [hclose]

-- =========================================================== the lines

/-- White space at the ends of a line does not matter. -/
theorem cleanLine_congr {s t : List Char} (h : trim s = trim t) :
    cleanLine s = cleanLine t := by
  rw [cleanLine, cleanLine, h]

/-- A line that an asterisk leads is what follows the asterisk. -/
theorem cleanLine_asterisk {w : List Char} (hw : allBlank w = true) (s : List Char) :
    cleanLine (w ++ '*' :: s) = trim s := by
  have hasterisk : isBlank '*' = false := by decide
  have htrim : trim (w ++ '*' :: s) = '*' :: trimRight s := by
    rw [trim, trimLeft_blank_append hw, trimLeft_cons_of_not_blank hasterisk]
    exact trimRight_append_cons hasterisk [] s
  rw [cleanLine, htrim]
  exact trim_trimRight s

/-- Trimming rows that are not blank touches the first and the last of
them only, and each is still the same row once it is trimmed itself. -/
theorem exists_trim_join {rows : List (List Char)} (hne : rows ≠ [])
    (hvisible : ∀ r ∈ rows, allBlank r = false) :
    ∃ rows', trim (join ['\n'] rows) = join ['\n'] rows'
      ∧ rows'.map trim = rows.map trim
      ∧ ∀ r' ∈ rows', ∃ r ∈ rows, ∀ c ∈ r', c ∈ r := by
  obtain ⟨a, rest, rfl⟩ := List.exists_cons_of_ne_nil hne
  have ha : allBlank a = false := hvisible a (List.mem_cons_self ..)
  have hleft : trimLeft (join ['\n'] (a :: rest)) = join ['\n'] (trimLeft a :: rest) := by
    rw [join_cons_eq_flatMap, join_cons_eq_flatMap, trimLeft_append, ha]
    rfl
  obtain ⟨init, z, hconcat⟩ : ∃ init z, trimLeft a :: rest = init ++ [z] :=
    ⟨_, _, (List.dropLast_concat_getLast (by simp)).symm⟩
  obtain ⟨front, hfront⟩ := exists_join_concat ['\n'] init
  have hz : allBlank z = false := by
    have hmem : z ∈ trimLeft a :: rest := by rw [hconcat]; simp
    rcases List.mem_cons.mp hmem with rfl | hmem
    · rw [← Bool.not_eq_true, ← trimLeft_eq_nil_iff, trimLeft_idem, trimLeft_eq_nil_iff, ha]
      decide
    · exact hvisible z (List.mem_cons_of_mem a hmem)
  refine ⟨init ++ [trimRight z], ?_, ?_, ?_⟩
  · rw [trim, hleft, hconcat, hfront, hfront, trimRight_append, hz]
    rfl
  · calc (init ++ [trimRight z]).map trim
        = (init ++ [z]).map trim := by simp [trim_trimRight]
      _ = (a :: rest).map trim := by rw [← hconcat]; simp [trim_trimLeft]
  · have hmemLeft : ∀ c ∈ trimLeft a, c ∈ a := fun c hc =>
      (List.dropWhile_sublist isBlank).subset hc
    have hmemRight : ∀ c ∈ trimRight z, c ∈ z := by
      intro c hc
      obtain ⟨w, -, hs⟩ := exists_trimRight z
      rw [hs]
      exact List.mem_append_left w hc
    have hsource : ∀ r' ∈ init ++ [z], ∃ r ∈ a :: rest, ∀ c ∈ r', c ∈ r := by
      rw [← hconcat]
      intro r' hr'
      rcases List.mem_cons.mp hr' with rfl | hr'
      · exact ⟨a, List.mem_cons_self .., hmemLeft⟩
      · exact ⟨r', List.mem_cons_of_mem a hr', fun c hc => hc⟩
    intro r' hr'
    rcases List.mem_append.mp hr' with hr' | hr'
    · exact hsource r' (List.mem_append_left _ hr')
    · rw [List.mem_singleton] at hr'
      obtain ⟨r, hr, hsub⟩ := hsource z (by simp)
      exact ⟨r, hr, fun c hc => hsub c (hmemRight c (hr' ▸ hc))⟩

/-- The cleaned lines of a text are its cleaned rows, also when the text
is trimmed before. -/
theorem map_cleanLine_lines {rows : List (List Char)} (hne : rows ≠ [])
    (hvisible : ∀ r ∈ rows, allBlank r = false) (hline : ∀ r ∈ rows, '\n' ∉ r) :
    (lines (trim (join ['\n'] rows))).map cleanLine = rows.map cleanLine := by
  obtain ⟨rows', htrim, hmap, hsub⟩ := exists_trim_join hne hvisible
  have hne' : rows' ≠ [] := by
    rintro rfl
    exact hne (by simpa using hmap.symm)
  have hline' : ∀ r' ∈ rows', '\n' ∉ r' := by
    intro r' hr' hc
    obtain ⟨r, hr, hmem⟩ := hsub r' hr'
    exact hline r hr (hmem _ hc)
  have hclean : ∀ r : List Char, cleanLine r = cleanLine (trim r) := fun r =>
    cleanLine_congr (trimmed_trim r).symm
  rw [htrim, lines, pieces_join hne' hline']
  calc rows'.map cleanLine
      = (rows'.map trim).map cleanLine := by
        rw [List.map_map]; exact List.map_congr_left fun r _ => hclean r
    _ = (rows.map trim).map cleanLine := by rw [hmap]
    _ = rows.map cleanLine := by
        rw [List.map_map]; exact List.map_congr_left fun r _ => (hclean r).symm

end KbDocs.DocBlock
