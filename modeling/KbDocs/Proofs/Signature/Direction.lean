/-
Direction keywords. A keyword is matched letter by letter in any case,
so it can be written in finitely many ways; `spellings` lists them all.
Whatever a rule needs to know of a keyword as it stands in a text is
then a check of that list, and whatever it needs to know of the text
around it follows from one decomposition.

# The decomposition

`directionHead?_eq_some_iff`: a text begins with a direction exactly if
it is a spelling, white space, a colon and the rest. The three keywords
are tried in order and one is the beginning of another, but the reading
is unique (`direction_unique`): a spelling ends where white space or the
colon begins.

# The dotted capital

All spellings but those with the dotted capital i stay spellings in
lower case (`lower_spelling`). The dotted one becomes two characters, a
small i and a combining dot, and is no keyword any more
(`lower_dotted`); its upper case is no direction of the data model
either.
-/
import KbDocs.Proofs.Text.Blank
import KbDocs.Signature.ParmRule

namespace KbDocs.ParmRule

open KbDocs.Text

-- ========================================================== spellings

/-- The characters that count as a letter of a keyword. -/
def letterForms (letter : Char) : List Char :=
  if letter = 'i' then ['i', 'I', 'ı', 'İ'] else [letter, letter.toUpper]

/-- All ways to write a keyword. -/
def spellingsOf : List Char → List (List Char)
  | [] => [[]]
  | letter :: k =>
      (letterForms letter).flatMap fun c => (spellingsOf k).map (c :: ·)

/-- All ways to write a direction. -/
def spellings : List (List Char) :=
  directionWords.flatMap spellingsOf

theorem mem_letterForms {letter c : Char} :
    c ∈ letterForms letter ↔ matchesLetter letter c = true := by
  rw [letterForms, matchesLetter]
  by_cases h : letter = 'i'
  · subst h
    rw [if_pos rfl, show 'i'.toUpper = 'I' from rfl]
    simp [or_assoc]
  · simp [h]

/-- A keyword is found where one of its spellings stands. -/
theorem keyword?_eq_some_iff {k s word rest : List Char} :
    keyword? k s = some (word, rest) ↔ word ∈ spellingsOf k ∧ s = word ++ rest := by
  induction k generalizing s word with
  | nil =>
      simp only [keyword?, Option.some.injEq, Prod.mk.injEq, spellingsOf,
        List.mem_singleton]
      constructor
      · rintro ⟨rfl, rfl⟩
        exact ⟨rfl, rfl⟩
      · rintro ⟨rfl, rfl⟩
        exact ⟨rfl, rfl⟩
  | cons letter k ih =>
      simp only [spellingsOf, List.mem_flatMap, List.mem_map, mem_letterForms]
      cases s with
      | nil =>
          rw [keyword?]
          constructor
          · intro h
            cases h
          · rintro ⟨⟨c, -, w, -, rfl⟩, h⟩
            cases h
      | cons d r =>
          rw [keyword?]
          constructor
          · intro h
            split at h
            case isFalse => cases h
            case isTrue hd =>
              obtain ⟨⟨w, t⟩, hw, heq⟩ := Option.map_eq_some_iff.mp h
              cases heq
              obtain ⟨hmem, rfl⟩ := ih.mp hw
              exact ⟨⟨d, hd, w, hmem, rfl⟩, rfl⟩
          · rintro ⟨⟨c, hc, w, hmem, rfl⟩, h⟩
            rw [List.cons_append] at h
            obtain ⟨rfl, rfl⟩ := List.cons.inj h
            rw [if_pos hc, ih.mpr ⟨hmem, rfl⟩]
            rfl

-- ===================================================== single letters

/-- The characters that spellings are made of. -/
def keywordLetters : List Char :=
  ['i', 'I', 'ı', 'İ', 'n', 'N', 'o', 'O', 'u', 'U', 't', 'T']

/-- What the list of spellings shows of their letters, in one walk. -/
private theorem letters_of_spelling :
    ∀ word ∈ spellings, word ≠ [] ∧ word.all keywordLetters.contains = true := by
  decide +kernel

theorem mem_keywordLetters :
    ∀ word ∈ spellings, ∀ c ∈ word, c ∈ keywordLetters := by
  intro word h
  simpa using (letters_of_spelling word h).2

/-- Keyword letters belong to words, and none is white space or takes
part in the punctuation of a call. -/
theorem keywordLetter_facts :
    ∀ c ∈ keywordLetters, isWordChar c = true ∧ isBlank c = false ∧ c ≠ ':' := by
  have hall : keywordLetters.all (fun c => isWordChar c && (!isBlank c && c != ':'))
      = true := by
    decide +kernel
  simpa using hall

theorem isWordChar_of_spelling {word : List Char} (h : word ∈ spellings)
    {c : Char} (hc : c ∈ word) : isWordChar c = true :=
  (keywordLetter_facts c (mem_keywordLetters word h c hc)).1

theorem isBlank_of_spelling {word : List Char} (h : word ∈ spellings)
    {c : Char} (hc : c ∈ word) : isBlank c = false :=
  (keywordLetter_facts c (mem_keywordLetters word h c hc)).2.1

theorem ne_colon_of_spelling {word : List Char} (h : word ∈ spellings)
    {c : Char} (hc : c ∈ word) : c ≠ ':' :=
  (keywordLetter_facts c (mem_keywordLetters word h c hc)).2.2

theorem colon_not_mem_spelling {word : List Char} (h : word ∈ spellings) :
    ':' ∉ word :=
  fun hc => ne_colon_of_spelling h hc rfl

/-- A spelling has a first letter. -/
theorem exists_cons_of_spelling :
    ∀ word ∈ spellings, ∃ c r, word = c :: r := by
  intro word h
  exact List.exists_cons_of_ne_nil (letters_of_spelling word h).1

-- ================================================== the decomposition

/-- A spelling ends where white space or a colon begins, so a text can be
read in one way only. -/
theorem direction_unique {word word' w w' rest rest' : List Char}
    (hword : word ∈ spellings) (hword' : word' ∈ spellings)
    (hw : allBlank w = true) (hw' : allBlank w' = true)
    (h : word ++ w ++ ':' :: rest = word' ++ w' ++ ':' :: rest') :
    word = word' ∧ w = w' ∧ rest = rest' := by
  have hspan : ∀ (v u t : List Char), v ∈ spellings → allBlank u = true →
      (v ++ (u ++ ':' :: t)).takeWhile (fun c => !isBlank c && c != ':') = v := by
    intro v u t hv hu
    have hstop : (u ++ ':' :: t).takeWhile
        (fun c => !isBlank c && c != ':') = [] := by
      cases u with
      | nil => simp
      | cons c u => simp [isBlank_of_mem hu (List.mem_cons_self ..)]
    rw [List.takeWhile_append_of_pos, hstop, List.append_nil]
    intro c hc
    simp [isBlank_of_spelling hv hc, ne_colon_of_spelling hv hc]
  rw [List.append_assoc, List.append_assoc] at h
  have hwords : word = word' := by
    rw [← hspan word w rest hword hw, h, hspan word' w' rest' hword' hw']
  subst hwords
  have htail := List.append_cancel_left h
  have hcolon := congrArg trimLeft htail
  rw [trimLeft_blank_append hw, trimLeft_blank_append hw',
    trimLeft_cons_of_not_blank (by decide),
    trimLeft_cons_of_not_blank (by decide)] at hcolon
  obtain ⟨-, rfl⟩ := List.cons.inj hcolon
  exact ⟨rfl, List.append_cancel_right htail, rfl⟩

/-- The reader's step for one keyword, opened. -/
private theorem direction_of_step {k s word rest : List Char}
    (hk : k ∈ directionWords)
    (h : (match keyword? k s with
      | none => none
      | some (word, rest) =>
          match trimLeft rest with
          | ':' :: after => some (word, after)
          | _ => none) = some (word, rest)) :
    word ∈ spellings ∧ ∃ w, allBlank w = true ∧ s = word ++ w ++ ':' :: rest := by
  split at h
  case h_1 => cases h
  case h_2 v t hv =>
    split at h
    case h_2 => cases h
    case h_1 after hafter =>
      cases h
      obtain ⟨hmem, rfl⟩ := keyword?_eq_some_iff.mp hv
      obtain ⟨w, hw, ht⟩ := exists_trimLeft t
      rw [hafter] at ht
      exact ⟨List.mem_flatMap.mpr ⟨k, hk, hmem⟩, w, hw, by rw [ht]; simp⟩

/-- A text begins with a direction exactly if it is a spelling, white
space, a colon, and the rest. -/
theorem directionHead?_eq_some_iff {s word rest : List Char} :
    directionHead? s = some (word, rest)
      ↔ word ∈ spellings
        ∧ ∃ w, allBlank w = true ∧ s = word ++ w ++ ':' :: rest := by
  constructor
  · intro h
    obtain ⟨k, hk, hstep⟩ := List.exists_of_findSome?_eq_some h
    exact direction_of_step hk hstep
  · rintro ⟨hword, w, hw, rfl⟩
    obtain ⟨k, hk, hmem⟩ := List.mem_flatMap.mp hword
    have hkey : keyword? k (word ++ w ++ ':' :: rest) = some (word, w ++ ':' :: rest) :=
      keyword?_eq_some_iff.mpr ⟨hmem, by simp⟩
    -- one keyword succeeds, so the search does; the reading it returns is the same
    cases hfound : directionHead? (word ++ w ++ ':' :: rest) with
    | none =>
        rw [directionHead?, List.findSome?_eq_none_iff] at hfound
        have := hfound k hk
        rw [hkey] at this
        simp only [trimLeft_blank_append hw,
          trimLeft_cons_of_not_blank (show isBlank ':' = false by decide)] at this
        cases this
    | some found =>
        obtain ⟨word', rest'⟩ := found
        obtain ⟨k', hk', hstep⟩ := List.exists_of_findSome?_eq_some hfound
        obtain ⟨hword', w', hw', heq⟩ := direction_of_step hk' hstep
        obtain ⟨rfl, -, rfl⟩ := direction_unique hword hword' hw hw' heq
        rfl

/-- A direction at the head of a text stays one whatever is appended. -/
theorem directionHead?_append {s word rest : List Char}
    (h : directionHead? s = some (word, rest)) (t : List Char) :
    directionHead? (s ++ t) = some (word, rest ++ t) := by
  obtain ⟨hword, w, hw, rfl⟩ := directionHead?_eq_some_iff.mp h
  exact directionHead?_eq_some_iff.mpr ⟨hword, w, hw, by simp⟩

/-- No direction stands at the head of a text without a colon. -/
theorem directionHead?_of_no_colon {s : List Char} (h : ':' ∉ s) :
    directionHead? s = none := by
  cases hfound : directionHead? s with
  | none => rfl
  | some found =>
      obtain ⟨word, rest⟩ := found
      obtain ⟨-, w, -, rfl⟩ := directionHead?_eq_some_iff.mp hfound
      simp at h

/-- No direction stands at the head of a text whose first character is
no keyword letter. -/
theorem directionHead?_of_head {c : Char} (h : c ∉ keywordLetters)
    (s : List Char) : directionHead? (c :: s) = none := by
  cases hfound : directionHead? (c :: s) with
  | none => rfl
  | some found =>
      obtain ⟨word, rest⟩ := found
      obtain ⟨hword, w, -, heq⟩ := directionHead?_eq_some_iff.mp hfound
      obtain ⟨d, r, rfl⟩ := exists_cons_of_spelling word hword
      obtain ⟨rfl, -⟩ := List.cons.inj heq
      exact absurd (mem_keywordLetters _ hword c (List.mem_cons_self ..)) h

-- =============================================================== case

/-- The dotted capital i, the one keyword letter whose lower case is two
characters. -/
def dotted : Char :=
  'İ'

/-- The combining dot that the lower case of the dotted capital leaves
behind its i. -/
def combiningDot : Char :=
  '\u0307'

/-- The characters that directions in lower case are made of. -/
def loweredLetters : List Char :=
  ['i', 'ı', combiningDot, 'n', 'o', 'u', 't']

/-- What the list of spellings shows of their case, in one walk. -/
private theorem case_of_spelling :
    ∀ word ∈ spellings,
      (lower word ≠ [] ∧ (lower word).all loweredLetters.contains = true)
        ∧ (dotted ∉ word →
          lower word ∈ spellings ∧ lower (lower word) = lower word
            ∧ upper (lower word) = upper word)
        ∧ (dotted ∈ word →
          ((lower word = ['i', combiningDot, 'n']
            ∨ lower word = ['i', combiningDot, 'n', 'o', 'u', 't'])
            ∧ String.ofList (upper word) ∉ directions)
            ∧ (lower word).head? ≠ word.head?) := by
  decide +kernel

/-- Lower case keeps a spelling a spelling of the same direction, unless
it has the dotted capital. -/
theorem lower_spelling :
    ∀ word ∈ spellings, dotted ∉ word →
      lower word ∈ spellings ∧ lower (lower word) = lower word
        ∧ upper (lower word) = upper word :=
  fun word h => (case_of_spelling word h).2.1

/-- With the dotted capital, lower case is no spelling any more, and the
upper case is no direction. -/
theorem lower_dotted :
    ∀ word ∈ spellings, dotted ∈ word →
      (lower word = ['i', combiningDot, 'n']
        ∨ lower word = ['i', combiningDot, 'n', 'o', 'u', 't'])
        ∧ String.ofList (upper word) ∉ directions :=
  fun word h hdotted => ((case_of_spelling word h).2.2 hdotted).1

/-- The dotted capital itself does not survive. -/
theorem head_lower_dotted :
    ∀ word ∈ spellings, dotted ∈ word → (lower word).head? ≠ word.head? :=
  fun word h hdotted => ((case_of_spelling word h).2.2 hdotted).2

theorem mem_loweredLetters :
    ∀ word ∈ spellings, ∀ c ∈ lower word, c ∈ loweredLetters := by
  intro word h
  simpa using (case_of_spelling word h).1.2

/-- Lowered letters are neither white space nor punctuation of a call. -/
theorem loweredLetter_facts :
    ∀ c ∈ loweredLetters, isBlank c = false ∧ c ≠ ':' := by
  have hall : loweredLetters.all (fun c => !isBlank c && c != ':') = true := by
    decide
  simpa using hall

/-- The lower case of a spelling has a first letter. -/
theorem exists_cons_of_lower :
    ∀ word ∈ spellings, ∃ c r, lower word = c :: r := by
  intro word h
  exact List.exists_cons_of_ne_nil (case_of_spelling word h).1.1

/-- The dotted spelling in lower case does not begin a direction: a
combining dot follows its i. -/
theorem directionHead?_combiningDot (s : List Char) :
    directionHead? ('i' :: combiningDot :: s) = none := rfl

/-- No direction begins with an n. -/
theorem directionHead?_n (s : List Char) : directionHead? ('n' :: s) = none := rfl

end KbDocs.ParmRule
