/-
Words of a text: its maximal stretches without white space. A word is
never empty and shows at both ends (`mem_words`), and words that are set
apart by white space are read one at a time (`words_append_cons`).
-/
import KbDocs.Proofs.Text.Blank
import KbDocs.Proofs.Text.Cut

namespace KbDocs.Text

-- ==================================================== visible stretches

/-- A stretch without white space. -/
def Visible (s : List Char) : Prop :=
  ∀ c ∈ s, isBlank c = false

-- by a walk through the text, not through all characters there are
instance (s : List Char) : Decidable (Visible s) :=
  List.decidableBAll (fun c => isBlank c = false) s

/-- A stretch without white space is trimmed. -/
theorem Visible.trimmed {s : List Char} (h : Visible s) : Trimmed s :=
  trimmed_iff.mpr
    ⟨fun c hc => h c (List.mem_of_mem_head? hc), fun c hc => h c (List.mem_of_getLast? hc)⟩

/-- White space does not occur in a stretch without it. -/
theorem Visible.not_mem {s : List Char} (h : Visible s) {c : Char}
    (hc : isBlank c = true) : c ∉ s := by
  intro hmem
  rw [h c hmem] at hc
  cases hc

theorem Visible.append {s t : List Char} (hs : Visible s) (ht : Visible t) :
    Visible (s ++ t) := by
  intro c hc
  rcases List.mem_append.mp hc with hc | hc
  · exact hs c hc
  · exact ht c hc

-- ============================================================ scanning

/-- A visible stretch goes on with the word under construction. -/
theorem wordsFrom_append {s : List Char} (h : Visible s) (word t : List Char) :
    wordsFrom word (s ++ t) = wordsFrom (word ++ s) t := by
  induction s generalizing word with
  | nil => rw [List.append_nil, List.nil_append]
  | cons c s ih =>
      have hc : isBlank c = false := h c (List.mem_cons_self ..)
      rw [List.cons_append, wordsFrom, if_neg (by simp [hc]),
        ih (fun d hd => h d (List.mem_cons_of_mem c hd)), List.append_assoc]
      rfl

/-- A visible stretch and white space behind it are one word, and the
rest is read on its own. -/
theorem words_append_cons {s : List Char} (h : Visible s) (hne : s ≠ []) {c : Char}
    (hc : isBlank c = true) (t : List Char) : words (s ++ c :: t) = s :: words t := by
  rw [words, wordsFrom_append h, List.nil_append, wordsFrom, if_pos hc,
    if_neg (by simpa using hne), words]

/-- A visible stretch is its own only word. -/
theorem words_of_visible {s : List Char} (h : Visible s) (hne : s ≠ []) :
    words s = [s] := by
  have hscan := wordsFrom_append h [] []
  rw [List.append_nil, List.nil_append] at hscan
  rw [words, hscan, wordsFrom, if_neg (by simpa using hne)]

/-- Words that are set apart by single spaces are read back. -/
theorem words_join {ws : List (List Char)} (h : ∀ w ∈ ws, w ≠ [] ∧ Visible w) :
    words (join [' '] ws) = ws := by
  induction ws with
  | nil => rfl
  | cons w ws ih =>
      obtain ⟨hne, hw⟩ := h w (List.mem_cons_self ..)
      cases ws with
      | nil => rw [join_singleton, words_of_visible hw hne]
      | cons v ws =>
          rw [join_cons_cons, List.append_assoc, List.singleton_append,
            words_append_cons hw hne (by decide), ih fun u hu => h u (List.mem_cons_of_mem w hu)]

theorem mem_wordsFrom {word s : List Char} (hword : Visible word) :
    ∀ p ∈ wordsFrom word s, p ≠ [] ∧ Visible p := by
  induction s generalizing word with
  | nil =>
      intro p hp
      rw [wordsFrom] at hp
      split at hp
      case isTrue => cases hp
      case isFalse hne =>
        rw [List.mem_singleton] at hp
        subst hp
        exact ⟨by simpa using hne, hword⟩
  | cons c r ih =>
      intro p hp
      have hnil : Visible [] := fun d hd => by cases hd
      rw [wordsFrom] at hp
      split at hp
      case isTrue =>
        split at hp
        case isTrue => exact ih hnil p hp
        case isFalse hne =>
          rcases List.mem_cons.mp hp with rfl | hp
          · exact ⟨by simpa using hne, hword⟩
          · exact ih hnil p hp
      case isFalse hc =>
        refine ih (hword.append ?_) p hp
        intro d hd
        rw [List.mem_singleton] at hd
        subst hd
        simpa using hc

/-- Words are not empty and hold no white space. -/
theorem mem_words {s p : List Char} (h : p ∈ words s) : p ≠ [] ∧ Visible p :=
  mem_wordsFrom (fun c hc => by cases hc) p h

end KbDocs.Text
