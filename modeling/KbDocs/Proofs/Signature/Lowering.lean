/-
Lowering directions: what `lowerDirections` does to a text, read through
its one step.

# The step

At each position either a direction begins a word, and its spelling is
replaced by the lower case and the white space before its colon goes, or
the character passes. `lowering_induction` is the induction on this
step; no lemma below opens the definition again.

# What carries the proofs

The rewritten text is read backwards. A stretch of word characters, or
of white space up to a colon, in the result stands in the source as it
is (`passed_word`, `passed_blank`), because a rewritten direction begins
with a letter and a word is entered at its first character only. So a
direction found in the result was found in the source
(`directionHead?_of_lowered`), and a second pass changes nothing
(`lowerDirections_idem`). The dotted capital is the one spelling whose
lower case is not a direction again; the second pass walks over it
(`lowerDirections_dotted`).
-/
import KbDocs.Proofs.Signature.Direction

namespace KbDocs.ParmRule

open KbDocs.Text

-- =========================================================== the step

@[simp]
theorem lowerDirections_nil (b : Option Char) : lowerDirections b [] = [] := by
  rw [lowerDirections]

/-- A character passes where no direction begins a word. -/
theorem lowerDirections_pass {b : Option Char} {c : Char} {r : List Char}
    (h : startsWord b = true → directionHead? (c :: r) = none) :
    lowerDirections b (c :: r) = c :: lowerDirections (some c) r := by
  rw [lowerDirections]
  split
  case h_1 word rest heq =>
    split at heq
    case isTrue hb => rw [h hb] at heq; cases heq
    case isFalse => cases heq
  case h_2 => rfl

/-- A direction that begins a word is rewritten. -/
theorem lowerDirections_direction {b : Option Char} {s word rest : List Char}
    (hb : startsWord b = true) (h : directionHead? s = some (word, rest)) :
    lowerDirections b s = lower word ++ ':' :: lowerDirections (some ':') rest := by
  cases s with
  | nil => cases h
  | cons c r =>
      rw [lowerDirections]
      split
      case h_1 word' rest' heq =>
        rw [if_pos hb, h] at heq
        cases heq
        rfl
      case h_2 heq =>
        rw [if_pos hb, h] at heq
        cases heq

/-- Induction along the rewriting: nothing left, a direction, or a
character that passes. -/
theorem lowering_induction {P : Option Char → List Char → Prop}
    (nil : ∀ b, P b [])
    (direction : ∀ b s word rest, startsWord b = true →
      directionHead? s = some (word, rest) → P (some ':') rest → P b s)
    (pass : ∀ b c r, (startsWord b = true → directionHead? (c :: r) = none) →
      P (some c) r → P b (c :: r)) :
    ∀ b s, P b s := by
  intro b s
  induction b, s using lowerDirections.induct with
  | case1 b => exact nil b
  | case2 b c r word rest heq ih =>
      split at heq
      case isTrue hb => exact direction b _ word rest hb heq ih
      case isFalse => cases heq
  | case3 b c r heq ih =>
      refine pass b c r (fun hb => ?_) ih
      rw [dif_pos hb] at heq
      exact heq

/-- Only whether a word may begin counts of what was passed before. -/
theorem lowerDirections_congr {b b' : Option Char}
    (h : startsWord b = startsWord b') (s : List Char) :
    lowerDirections b s = lowerDirections b' s := by
  cases s with
  | nil => simp
  | cons c r =>
      by_cases hb : startsWord b = true
      · cases hd : directionHead? (c :: r) with
        | none =>
            rw [lowerDirections_pass fun _ => hd, lowerDirections_pass fun _ => hd]
        | some found =>
            rw [lowerDirections_direction hb hd,
              lowerDirections_direction (h ▸ hb) hd]
      · rw [lowerDirections_pass fun hb' => absurd hb' hb,
          lowerDirections_pass fun hb' => absurd (h ▸ hb') hb]

/-- Behind a character that belongs to no word, text is rewritten as at
its beginning. -/
theorem lowerDirections_separated {c : Char} (h : isWordChar c = false)
    (s : List Char) : lowerDirections (some c) s = lowerDirections none s := by
  refine lowerDirections_congr ?_ s
  show (!isWordChar c) = true
  rw [h]
  rfl

theorem startsWord_of_blank {c : Char} (h : isBlank c = true) :
    startsWord (some c) = true := by
  rw [startsWord, not_isWordChar_of_isBlank h]
  rfl

theorem not_startsWord {c : Char} (h : isWordChar c = true) :
    ¬ startsWord (some c) = true := by
  rw [startsWord, h]
  decide

-- ==================================================== plain stretches

/-- A text without a colon is not rewritten. -/
theorem lowerDirections_of_no_colon {s : List Char} (h : ':' ∉ s)
    (b : Option Char) : lowerDirections b s = s := by
  induction s generalizing b with
  | nil => simp
  | cons c r ih =>
      rw [lowerDirections_pass fun _ => directionHead?_of_no_colon h,
        ih (fun hr => h (List.mem_cons_of_mem c hr))]

/-- White space passes, and what follows it is rewritten as if a word
could begin there. -/
theorem lowerDirections_blank_append {b : Option Char} {w : List Char}
    (hb : startsWord b = true) (hw : allBlank w = true) (s : List Char) :
    lowerDirections b (w ++ s) = w ++ lowerDirections b s := by
  induction w generalizing b with
  | nil => rfl
  | cons c w ih =>
      rw [allBlank_cons, Bool.and_eq_true] at hw
      have hc : c ∉ keywordLetters := fun hmem => by
        rw [(keywordLetter_facts c hmem).2.1] at hw
        exact absurd hw.1 (by decide)
      have hstart := startsWord_of_blank hw.1
      rw [List.cons_append, lowerDirections_pass fun _ => directionHead?_of_head hc _,
        ih hstart hw.2, lowerDirections_congr (hstart.trans hb.symm)]
      rfl

/-- A character that is no part of a direction: neither a keyword letter
nor white space nor a colon. -/
def Separates (c : Char) : Prop :=
  c ∉ keywordLetters ∧ isBlank c = false ∧ c ≠ ':'

instance (c : Char) : Decidable (Separates c) :=
  inferInstanceAs (Decidable (_ ∧ _ ∧ _))

/-- A direction does not reach over a separating character. -/
theorem directionHead?_of_append {c : Char} (hc : Separates c)
    {s r word rest : List Char}
    (h : directionHead? (s ++ c :: r) = some (word, rest)) :
    ∃ t, directionHead? s = some (word, t) := by
  obtain ⟨hword, w, hw, heq⟩ := directionHead?_eq_some_iff.mp h
  have heq' : s ++ c :: r = (word ++ w ++ [':']) ++ rest := by simpa using heq
  rcases List.append_eq_append_iff.mp heq' with ⟨t, htake, htail⟩ | ⟨t, rfl, -⟩
  · -- the direction would end behind the separating character
    cases t with
    | nil =>
        rw [List.append_nil] at htake
        exact ⟨[], directionHead?_eq_some_iff.mpr ⟨hword, w, hw, htake.symm⟩⟩
    | cons d t =>
        obtain ⟨rfl, -⟩ := List.cons.inj htail
        have hmem : c ∈ word ++ w ++ [':'] := by rw [htake]; simp
        rw [List.mem_append, List.mem_append, List.mem_singleton] at hmem
        obtain ⟨hletter, hblank, hcolon⟩ := hc
        rcases hmem with (hmem | hmem) | hmem
        · exact absurd (mem_keywordLetters word hword c hmem) hletter
        · rw [isBlank_of_mem hw hmem] at hblank
          cases hblank
        · exact absurd hmem hcolon
  · exact ⟨t, directionHead?_eq_some_iff.mpr ⟨hword, w, hw, by simp⟩⟩

/-- The texts on the two sides of a separating character are rewritten on
their own. -/
theorem lowerDirections_append_cons {c : Char} (hc : Separates c)
    (b : Option Char) (s r : List Char) :
    lowerDirections b (s ++ c :: r)
      = lowerDirections b s ++ c :: lowerDirections (some c) r := by
  induction b, s using lowering_induction with
  | nil b =>
      rw [List.nil_append, lowerDirections_nil, List.nil_append]
      exact lowerDirections_pass fun _ => directionHead?_of_head hc.1 r
  | direction b s word rest hb hd ih =>
      rw [lowerDirections_direction hb hd,
        lowerDirections_direction hb (directionHead?_append hd (c :: r)), ih]
      simp
  | pass b d s hd ih =>
      have hd' : startsWord b = true → directionHead? (d :: (s ++ c :: r)) = none := by
        intro hb
        cases hfound : directionHead? (d :: (s ++ c :: r)) with
        | none => rfl
        | some found =>
            obtain ⟨word, rest⟩ := found
            obtain ⟨t, ht⟩ := directionHead?_of_append hc (s := d :: s) hfound
            rw [hd hb] at ht
            cases ht
      rw [List.cons_append, lowerDirections_pass hd', lowerDirections_pass hd, ih,
        List.cons_append]

/-- Rewriting brings in no characters but lowered letters and colons. -/
theorem mem_of_mem_lowerDirections {b : Option Char} {s : List Char} {c : Char}
    (h : c ∈ lowerDirections b s) : c ∈ s ∨ c = ':' ∨ c ∈ loweredLetters := by
  induction b, s using lowering_induction with
  | nil b => rw [lowerDirections_nil] at h; cases h
  | direction b s word rest hb hd ih =>
      rw [lowerDirections_direction hb hd, List.mem_append, List.mem_cons] at h
      obtain ⟨hword, w, -, rfl⟩ := directionHead?_eq_some_iff.mp hd
      rcases h with h | h | h
      · exact Or.inr (Or.inr (mem_loweredLetters word hword c h))
      · exact Or.inr (Or.inl h)
      · rcases ih h with h | h
        · exact Or.inl (by simp [h])
        · exact Or.inr h
  | pass b d s hd ih =>
      rw [lowerDirections_pass hd, List.mem_cons] at h
      rcases h with rfl | h
      · exact Or.inl (List.mem_cons_self ..)
      · rcases ih h with h | h
        · exact Or.inl (List.mem_cons_of_mem d h)
        · exact Or.inr h

-- ================================================== reading backwards

/-- Within a word everything passes: word characters at the head of the
result stand at the head of the source. -/
theorem passed_word {b : Option Char} {s u v : List Char}
    (hb : ¬ startsWord b = true) (hu : ∀ c ∈ u, isWordChar c = true)
    (h : lowerDirections b s = u ++ v) :
    ∃ t b', s = u ++ t ∧ v = lowerDirections b' t ∧ ¬ startsWord b' = true := by
  induction u generalizing b s with
  | nil => exact ⟨s, b, rfl, h.symm, hb⟩
  | cons c u ih =>
      cases s with
      | nil => rw [lowerDirections_nil] at h; cases h
      | cons d s =>
          rw [lowerDirections_pass fun hb' => absurd hb' hb, List.cons_append] at h
          obtain ⟨rfl, htail⟩ := List.cons.inj h
          obtain ⟨t, b', rfl, hv, hb'⟩ :=
            ih (not_startsWord (hu d (List.mem_cons_self ..)))
              (fun c hc => hu c (List.mem_cons_of_mem d hc)) htail
          exact ⟨t, b', rfl, hv, hb'⟩

/-- A rewritten direction begins with a lowered letter. -/
theorem lowered_head_ne {b : Option Char} {s v : List Char} {c : Char}
    (hc : c ∉ loweredLetters)
    (hd : ¬ (startsWord b = true → directionHead? s = none)) :
    lowerDirections b s ≠ c :: v := by
  intro h
  obtain ⟨hb, hd⟩ := Classical.not_imp.mp hd
  obtain ⟨⟨word, rest⟩, hd⟩ := Option.ne_none_iff_exists'.mp hd
  obtain ⟨hword, -⟩ := directionHead?_eq_some_iff.mp hd
  obtain ⟨d, r, hlower⟩ := exists_cons_of_lower word hword
  rw [lowerDirections_direction hb hd, hlower] at h
  obtain ⟨rfl, -⟩ := List.cons.inj h
  exact hc (mem_loweredLetters word hword d (by rw [hlower]; simp))

/-- White space up to a colon in the result stands in the source: a
rewritten direction would begin with a letter. -/
theorem passed_blank {b : Option Char} {s w v : List Char}
    (hw : allBlank w = true) (h : lowerDirections b s = w ++ ':' :: v) :
    ∃ t, s = w ++ ':' :: t := by
  induction w generalizing b s with
  | nil =>
      cases s with
      | nil => rw [lowerDirections_nil] at h; cases h
      | cons d s =>
          by_cases hd : startsWord b = true → directionHead? (d :: s) = none
          · rw [lowerDirections_pass hd] at h
            obtain ⟨rfl, -⟩ := List.cons.inj h
            exact ⟨s, rfl⟩
          · exact absurd h (lowered_head_ne (by decide) hd)
  | cons c w ih =>
      rw [allBlank_cons, Bool.and_eq_true] at hw
      cases s with
      | nil => rw [lowerDirections_nil] at h; cases h
      | cons d s =>
          by_cases hd : startsWord b = true → directionHead? (d :: s) = none
          · rw [lowerDirections_pass hd] at h
            obtain ⟨rfl, htail⟩ := List.cons.inj h
            obtain ⟨t, rfl⟩ := ih hw.2 htail
            exact ⟨t, rfl⟩
          · refine absurd h (lowered_head_ne ?_ hd)
            intro hc
            rw [(loweredLetter_facts c hc).1] at hw
            exact absurd hw.1 (by decide)

/-- A direction that begins where a character passed was a direction in
the source. -/
theorem directionHead?_of_lowered {c : Char} {r word rest : List Char}
    (h : directionHead? (c :: lowerDirections (some c) r) = some (word, rest)) :
    ∃ t, directionHead? (c :: r) = some (word, t) := by
  obtain ⟨hword, w, hw, heq⟩ := directionHead?_eq_some_iff.mp h
  obtain ⟨d, u, rfl⟩ := exists_cons_of_spelling word hword
  rw [List.append_assoc, List.cons_append] at heq
  obtain ⟨rfl, htail⟩ := List.cons.inj heq
  have hletters : ∀ x ∈ c :: u, isWordChar x = true := fun x hx =>
    isWordChar_of_spelling hword hx
  obtain ⟨t, b', rfl, ht, -⟩ :=
    passed_word (not_startsWord (hletters c (List.mem_cons_self ..)))
      (fun x hx => hletters x (List.mem_cons_of_mem c hx)) htail
  obtain ⟨t', rfl⟩ := passed_blank hw ht.symm
  exact ⟨t', directionHead?_eq_some_iff.mpr ⟨hword, w, hw, by simp⟩⟩

-- ====================================================== a second pass

/-- The dotted spelling in lower case is walked over: its i is followed
by the combining dot, and no keyword begins with an n. -/
theorem lowerDirections_dotted {word : List Char} (hword : word ∈ spellings)
    (hdot : dotted ∈ word) (b : Option Char) (s : List Char) :
    lowerDirections b (lower word ++ ':' :: s)
      = lower word ++ ':' :: lowerDirections (some ':') s := by
  have hi : ¬ startsWord (some 'i') = true := not_startsWord (by decide)
  have hn : ¬ startsWord (some 'n') = true := not_startsWord (by decide)
  have ho : ¬ startsWord (some 'o') = true := not_startsWord (by decide)
  have hu : ¬ startsWord (some 'u') = true := not_startsWord (by decide)
  have ht : ¬ startsWord (some 't') = true := not_startsWord (by decide)
  rcases (lower_dotted word hword hdot).1 with h | h <;> rw [h]
  · simp only [List.cons_append, List.nil_append]
    rw [lowerDirections_pass fun _ => directionHead?_combiningDot _,
      lowerDirections_pass fun hb => absurd hb hi,
      lowerDirections_pass fun _ => directionHead?_n _,
      lowerDirections_pass fun hb => absurd hb hn]
  · simp only [List.cons_append, List.nil_append]
    rw [lowerDirections_pass fun _ => directionHead?_combiningDot _,
      lowerDirections_pass fun hb => absurd hb hi,
      lowerDirections_pass fun _ => directionHead?_n _,
      lowerDirections_pass fun hb => absurd hb hn,
      lowerDirections_pass fun hb => absurd hb ho,
      lowerDirections_pass fun hb => absurd hb hu,
      lowerDirections_pass fun hb => absurd hb ht]

/-- A second pass leaves a rewritten direction as it is. -/
theorem lowerDirections_lower {word : List Char} (hword : word ∈ spellings)
    {b : Option Char} (hb : startsWord b = true) (s : List Char) :
    lowerDirections b (lower word ++ ':' :: s)
      = lower word ++ ':' :: lowerDirections (some ':') s := by
  by_cases hdot : dotted ∈ word
  · exact lowerDirections_dotted hword hdot b s
  · obtain ⟨hmem, hidem, -⟩ := lower_spelling word hword hdot
    have hd : directionHead? (lower word ++ ':' :: s) = some (lower word, s) :=
      directionHead?_eq_some_iff.mpr ⟨hmem, [], rfl, by simp⟩
    rw [lowerDirections_direction hb hd, hidem]

/-- Lowering directions a second time changes nothing. -/
theorem lowerDirections_idem (b : Option Char) (s : List Char) :
    lowerDirections b (lowerDirections b s) = lowerDirections b s := by
  induction b, s using lowering_induction with
  | nil b => simp
  | direction b s word rest hb hd ih =>
      have hword := (directionHead?_eq_some_iff.mp hd).1
      rw [lowerDirections_direction hb hd, lowerDirections_lower hword hb, ih]
  | pass b c r hd ih =>
      have hd' : startsWord b = true →
          directionHead? (c :: lowerDirections (some c) r) = none := by
        intro hb
        cases hfound : directionHead? (c :: lowerDirections (some c) r) with
        | none => rfl
        | some found =>
            obtain ⟨word, rest⟩ := found
            obtain ⟨t, ht⟩ := directionHead?_of_lowered hfound
            rw [hd hb] at ht
            cases ht
      rw [lowerDirections_pass hd, lowerDirections_pass hd', ih]

end KbDocs.ParmRule
