/-
Pieces and their joins. Cutting a text at every occurrence of a
character is the library's `splitOn`, and putting pieces together is its
`intercalate`; the two undo each other on pieces that hold no separator
(`pieces_join`, `join_pieces`). What is added here is what a rule reads
off a joined text: where its parts lie, and which characters it can
hold.

# The first occurrence

A cut at a phrase falls where the phrase stands for the first time. The
phrase may overlap with itself, so that it does not occur in the text
before it is not enough: it must not end within itself either
(`cutPhrase_append`). A character that is not in the phrase keeps its
occurrences apart (`infix_append_cons_iff`).
-/
import KbDocs.Text.Cut

namespace KbDocs.Text

-- ============================================================= pieces

/-- Cutting at a character is splitting at it. -/
theorem pieces_eq_splitOn (sep : Char) (s : List Char) :
    pieces sep s = s.splitOn sep := by
  induction s with
  | nil => rfl
  | cons c r ih =>
      rw [pieces, List.splitOn_cons_eq_if_modifyHead, ih]
      by_cases h : c = sep
      · simp [h]
      · rw [if_neg h, if_neg (by simpa using h)]
        cases hr : r.splitOn sep with
        | nil => exact absurd hr (List.splitOn_ne_nil sep r)
        | cons p ps => rfl

/-- There is always at least one piece. -/
theorem exists_pieces (sep : Char) (s : List Char) :
    ∃ p ps, pieces sep s = p :: ps := by
  rw [pieces_eq_splitOn]
  exact List.exists_cons_of_ne_nil (List.splitOn_ne_nil sep s)

/-- A text without the separator is its own only piece. -/
theorem pieces_of_not_mem {sep : Char} {s : List Char} (h : sep ∉ s) :
    pieces sep s = [s] := by
  rw [pieces_eq_splitOn, List.splitOn_eq_singleton h]

/-- No piece holds the separator. -/
theorem not_mem_of_mem_pieces {sep : Char} {s : List Char} :
    ∀ p ∈ pieces sep s, sep ∉ p := by
  induction s with
  | nil => simp [pieces]
  | cons c r ih =>
      rw [pieces]
      by_cases h : c = sep
      · rw [if_pos h]
        intro p hp
        rcases List.mem_cons.mp hp with rfl | hp
        · exact List.not_mem_nil
        · exact ih p hp
      · rw [if_neg h]
        obtain ⟨q, qs, hq⟩ := exists_pieces sep r
        rw [hq] at ih ⊢
        intro p hp
        rcases List.mem_cons.mp hp with rfl | hp
        · have hr := ih q (List.mem_cons_self ..)
          simp only [List.mem_cons, not_or]
          exact ⟨fun hc => h hc.symm, hr⟩
        · exact ih p (List.mem_cons_of_mem _ hp)

/-- The texts on the two sides of a separator are cut on their own. -/
theorem pieces_append_cons (sep : Char) (s t : List Char) :
    pieces sep (s ++ sep :: t) = pieces sep s ++ pieces sep t := by
  induction s with
  | nil => simp [pieces]
  | cons c s ih =>
      rw [List.cons_append, pieces, pieces, ih]
      obtain ⟨p, ps, hp⟩ := exists_pieces sep s
      rw [hp]
      split <;> rfl

-- ============================================================== joins

@[simp]
theorem join_nil (sep : List Char) : join sep [] = [] := rfl

@[simp]
theorem join_singleton (sep a : List Char) : join sep [a] = a :=
  List.intercalate_singleton

@[simp]
theorem join_cons_cons (sep a b : List Char) (parts : List (List Char)) :
    join sep (a :: b :: parts) = a ++ sep ++ join sep (b :: parts) :=
  List.intercalate_cons_cons

/-- A join is its first part and, for every further part, the separator
with that part behind it. -/
theorem join_cons_eq_flatMap (sep a : List Char) (parts : List (List Char)) :
    join sep (a :: parts) = a ++ parts.flatMap (sep ++ ·) := by
  induction parts generalizing a with
  | nil => simp
  | cons b parts ih =>
      rw [join_cons_cons, ih b, List.flatMap_cons]
      simp only [List.append_assoc]

/-- Two runs of parts are joined like two parts. -/
theorem join_append {sep : List Char} {xs ys : List (List Char)}
    (hx : xs ≠ []) (hy : ys ≠ []) :
    join sep (xs ++ ys) = join sep xs ++ sep ++ join sep ys := by
  obtain ⟨a, xs, rfl⟩ := List.exists_cons_of_ne_nil hx
  obtain ⟨b, ys, rfl⟩ := List.exists_cons_of_ne_nil hy
  rw [List.cons_append, join_cons_eq_flatMap, join_cons_eq_flatMap,
    join_cons_eq_flatMap, List.flatMap_append, List.flatMap_cons]
  simp only [List.append_assoc]

/-- A join ends with its last part, which can be exchanged. -/
theorem exists_join_concat (sep : List Char) (parts : List (List Char)) :
    ∃ front, ∀ p, join sep (parts ++ [p]) = front ++ p := by
  cases parts with
  | nil => exact ⟨[], fun p => join_singleton sep p⟩
  | cons a parts =>
      refine ⟨join sep (a :: parts) ++ sep, fun p => ?_⟩
      rw [join_append (by simp) (by simp), join_singleton]

/-- Only no part at all, or one empty part, joins to nothing. -/
theorem join_eq_nil_iff {sep : List Char} (hsep : sep ≠ []) {parts : List (List Char)} :
    join sep parts = [] ↔ parts = [] ∨ parts = [[]] := by
  cases parts with
  | nil => simp
  | cons a parts =>
      rw [join_cons_eq_flatMap]
      cases parts with
      | nil => simp
      | cons b parts => simp [hsep]

/-- Parts that each end with the separator are a join with the separator
behind it. -/
theorem flatMap_append_sep {sep : List Char} {parts : List (List Char)}
    (h : parts ≠ []) : parts.flatMap (· ++ sep) = join sep parts ++ sep := by
  obtain ⟨a, parts, rfl⟩ := List.exists_cons_of_ne_nil h
  induction parts generalizing a with
  | nil => simp
  | cons b parts ih =>
      rw [List.flatMap_cons, ih b (by simp), join_cons_cons]
      simp only [List.append_assoc]

/-- A joined text holds what its parts hold. -/
theorem mem_join_of_mem {sep p : List Char} {parts : List (List Char)} {c : Char}
    (hp : p ∈ parts) (hc : c ∈ p) : c ∈ join sep parts := by
  cases parts with
  | nil => cases hp
  | cons a parts =>
      rw [join_cons_eq_flatMap, List.mem_append, List.mem_flatMap]
      rcases List.mem_cons.mp hp with rfl | hp
      · exact Or.inl hc
      · exact Or.inr ⟨p, hp, List.mem_append_right sep hc⟩

/-- A joined text holds only what its separator and its parts hold. -/
theorem mem_join {sep : List Char} {parts : List (List Char)} {c : Char}
    (h : c ∈ join sep parts) : c ∈ sep ∨ ∃ p ∈ parts, c ∈ p := by
  cases parts with
  | nil => cases h
  | cons a parts =>
      rw [join_cons_eq_flatMap, List.mem_append, List.mem_flatMap] at h
      rcases h with h | ⟨p, hp, h⟩
      · exact Or.inr ⟨a, List.mem_cons_self .., h⟩
      · rcases List.mem_append.mp h with h | h
        · exact Or.inl h
        · exact Or.inr ⟨p, List.mem_cons_of_mem a hp, h⟩

/-- A separator followed by more is a separator whose parts, but for the
first, begin with more. -/
theorem join_cons_eq_join_singleton (c : Char) (more a : List Char)
    (parts : List (List Char)) :
    join (c :: more) (a :: parts) = join [c] (a :: parts.map (more ++ ·)) := by
  rw [join_cons_eq_flatMap, join_cons_eq_flatMap, List.flatMap_map]
  rfl

-- ========================================================= both ways

/-- A text is the join of its pieces. -/
theorem join_pieces (sep : Char) (s : List Char) :
    join [sep] (pieces sep s) = s := by
  rw [pieces_eq_splitOn]
  exact List.intercalate_splitOn sep

/-- Parts without the separator are read back from their join. -/
theorem pieces_join {sep : Char} {parts : List (List Char)}
    (hne : parts ≠ []) (h : ∀ p ∈ parts, sep ∉ p) :
    pieces sep (join [sep] parts) = parts := by
  rw [pieces_eq_splitOn]
  exact List.splitOn_intercalate sep h hne

-- ============================================= the first occurrence

/-- A text without the character is not cut. -/
theorem cutAt_of_not_mem {sep : Char} {s : List Char} (h : sep ∉ s) :
    cutAt sep s = (s, none) := by
  induction s with
  | nil => rfl
  | cons c r ih =>
      rw [List.mem_cons, not_or] at h
      rw [cutAt, if_neg (Ne.symm h.1), ih h.2]

/-- A text is cut at the first of its separators. -/
theorem cutAt_append_cons {sep : Char} {a : List Char} (h : sep ∉ a) (b : List Char) :
    cutAt sep (a ++ sep :: b) = (a, some b) := by
  induction a with
  | nil => rw [List.nil_append, cutAt, if_pos rfl]
  | cons c a ih =>
      rw [List.mem_cons, not_or] at h
      rw [List.cons_append, cutAt, if_neg (Ne.symm h.1), ih h.2]

/-- The text before the first separator. -/
theorem cutAt_fst (sep : Char) (s : List Char) :
    (cutAt sep s).1 = s.takeWhile fun c => decide (c ≠ sep) := by
  induction s with
  | nil => rfl
  | cons c r ih =>
      rw [cutAt]
      by_cases hc : c = sep
      · simp [hc]
      · simp [hc, ih]

/-- The text behind the first separator, empty if there is none. -/
theorem cutAt_snd_getD (sep : Char) (s : List Char) :
    (cutAt sep s).2.getD [] = (s.dropWhile fun c => decide (c ≠ sep)).drop 1 := by
  induction s with
  | nil => rfl
  | cons c r ih =>
      rw [cutAt]
      by_cases hc : c = sep
      · simp [hc]
      · simp [hc, ih]

/-- A text without the phrase is not cut. -/
theorem cutPhrase_of_not_infix {phrase s : List Char} (h : ¬ phrase <:+: s) :
    cutPhrase phrase s = (s, none) := by
  induction s with
  | nil =>
      have hne : phrase.isEmpty = false := by
        cases phrase with
        | nil => exact absurd (List.nil_infix) h
        | cons c r => rfl
      simp [cutPhrase, hne]
  | cons c r ih =>
      rw [List.infix_cons_iff, not_or] at h
      have hhead : phrase.isPrefixOf (c :: r) = false := by
        rw [← Bool.not_eq_true, List.isPrefixOf_iff_prefix]
        exact h.1
      rw [cutPhrase, hhead, ih h.2]
      rfl

/-- Nothing is lost where a text is cut. -/
theorem append_of_cutPhrase {phrase s a b : List Char}
    (h : cutPhrase phrase s = (a, some b)) : s = a ++ phrase ++ b := by
  induction s generalizing a with
  | nil =>
      rw [cutPhrase] at h
      split at h
      case isTrue hempty =>
        cases h
        rw [List.isEmpty_iff.mp hempty]
        rfl
      case isFalse => cases h
  | cons c r ih =>
      rw [cutPhrase] at h
      split at h
      case isTrue hhead =>
        cases h
        exact (List.prefix_iff_eq_append.mp (List.isPrefixOf_iff_prefix.mp hhead)).symm
      case isFalse =>
        obtain ⟨rfl, hb⟩ := Prod.mk.inj h
        exact congrArg (c :: ·) (ih (Prod.ext rfl hb))

/-- A text is cut at a phrase that does not end any earlier, not even
within itself. -/
theorem cutPhrase_append {phrase a : List Char} (hne : phrase ≠ [])
    (h : ¬ phrase <:+: a ++ phrase.dropLast) (b : List Char) :
    cutPhrase phrase (a ++ phrase ++ b) = (a, some b) := by
  induction a with
  | nil =>
      obtain ⟨c, r, rfl⟩ := List.exists_cons_of_ne_nil hne
      have hhead : (c :: r).isPrefixOf (c :: (r ++ b)) = true := by
        rw [List.isPrefixOf_iff_prefix]
        exact List.prefix_append (c :: r) b
      rw [List.nil_append, List.cons_append, cutPhrase, if_pos hhead]
      simp
  | cons c a ih =>
      rw [List.cons_append, List.infix_cons_iff, not_or] at h
      have hhead : phrase.isPrefixOf (c :: (a ++ phrase ++ b)) = false := by
        rw [← Bool.not_eq_true, List.isPrefixOf_iff_prefix]
        intro hearly
        -- the phrase would end before the last character of its place
        refine h.1 (List.prefix_of_prefix_length_le hearly ?_ ?_)
        · refine ⟨phrase.getLast hne :: b, ?_⟩
          conv => rhs; rw [← List.dropLast_concat_getLast hne]
          simp
        · have := List.length_pos_iff.mpr hne
          simp only [List.length_cons, List.length_append, List.length_dropLast]
          omega
      rw [List.cons_append, List.cons_append, cutPhrase, hhead, ih h.2]
      rfl

/-- A phrase whose first character does not come again in it does not
overlap with itself, so it is found behind any text without it. -/
theorem cutPhrase_append_of_head {c : Char} {r a : List Char} (hc : c ∉ r)
    (h : ¬ c :: r <:+: a) (b : List Char) :
    cutPhrase (c :: r) (a ++ c :: r ++ b) = (a, some b) := by
  refine cutPhrase_append (by simp) ?_ b
  have hlong : ¬ c :: r <:+: (c :: r).dropLast := by
    intro hinfix
    have hle := hinfix.length_le
    simp only [List.length_cons, List.length_dropLast] at hle
    omega
  intro hinfix
  rcases List.infix_append_iff.mp hinfix with hleft | hright | ⟨p, q, hsplit, hp, hq⟩
  · exact h hleft
  · exact hlong hright
  · -- the phrase would begin before its place and end within it
    cases p with
    | nil => exact hlong (hsplit ▸ hq.isInfix)
    | cons d p =>
        rw [List.cons_append] at hsplit
        obtain ⟨rfl, hr⟩ := List.cons.inj hsplit
        cases q with
        | nil =>
            rw [List.append_nil] at hr
            exact h (hr ▸ hp.isInfix)
        | cons x q =>
            have hne : r ≠ [] := by rw [hr]; simp
            rw [List.dropLast_cons_of_ne_nil hne] at hq
            obtain ⟨rfl, -⟩ := List.cons_prefix_cons.mp hq
            exact hc (by rw [hr]; simp)

/-- A phrase is in a text if it stands at some position. -/
theorem infix_iff_exists_drop {phrase s : List Char} :
    phrase <:+: s ↔ ∃ i, phrase <+: s.drop i := by
  rw [List.infix_iff_prefix_suffix]
  constructor
  · intro ⟨t, hphrase, ht⟩
    rw [List.suffix_iff_eq_drop.mp ht] at hphrase
    exact ⟨_, hphrase⟩
  · intro ⟨i, hphrase⟩
    exact ⟨s.drop i, hphrase, List.drop_suffix i s⟩

/-- A text is cut at the first position at which the phrase stands. -/
theorem cutPhrase_of_first {phrase s : List Char} {i : Nat} (h : phrase <+: s.drop i)
    (hfirst : ∀ k, k < i → ¬ phrase <+: s.drop k) :
    cutPhrase phrase s = (s.take i, some (s.drop (i + phrase.length))) := by
  induction s generalizing i with
  | nil =>
      obtain rfl : phrase = [] := List.prefix_nil.mp (by simpa using h)
      simp [cutPhrase]
  | cons c r ih =>
      cases i with
      | zero =>
          have hhead : phrase.isPrefixOf (c :: r) = true := List.isPrefixOf_iff_prefix.mpr h
          rw [cutPhrase, if_pos hhead, Nat.zero_add]
          rfl
      | succ i =>
          have hhead : ¬ phrase.isPrefixOf (c :: r) = true := by
            intro hphrase
            exact hfirst 0 (Nat.succ_pos i) (List.isPrefixOf_iff_prefix.mp hphrase)
          have hrest : ∀ k, k < i → ¬ phrase <+: r.drop k := by
            intro k hk
            exact hfirst (k + 1) (by omega)
          rw [cutPhrase, if_neg hhead, ih h hrest, Nat.succ_add]
          rfl

/-- A phrase does not reach over a character that is not in it. -/
theorem infix_append_cons_iff {phrase a b : List Char} {c : Char} (hc : c ∉ phrase)
    (hne : phrase ≠ []) : phrase <:+: a ++ c :: b ↔ phrase <:+: a ∨ phrase <:+: b := by
  have hhead : ∀ {p q : List Char}, p <+: c :: q → c ∉ p → p = [] := by
    intro p q hp hnot
    cases p with
    | nil => rfl
    | cons d p =>
        obtain ⟨rfl, -⟩ := List.cons_prefix_cons.mp hp
        exact absurd (List.mem_cons_self ..) hnot
  rw [List.infix_append_iff, List.infix_cons_iff]
  constructor
  · rintro (h | (h | h) | ⟨p, q, rfl, hp, hq⟩)
    · exact Or.inl h
    · exact absurd (hhead h hc) hne
    · exact Or.inr h
    · rw [List.mem_append, not_or] at hc
      rw [hhead hq hc.2, List.append_nil]
      exact Or.inl hp.isInfix
  · rintro (h | h)
    · exact Or.inl h
    · exact Or.inr (Or.inl (Or.inr h))

end KbDocs.Text
