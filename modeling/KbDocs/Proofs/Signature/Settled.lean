/-
Texts that the rewriting of calls leaves as they are, and what becomes of
the name in a call.

The name of a procedure is put in front of the arguments before the three
passes of the rewriting, so they go over it as well. None of them reaches
over the opening parenthesis: a call is rewritten on both of its sides
(`normalizeCall_of_trimmed`), and what becomes of the name is a question
about the name alone.

# Position by position

`Settled` says of every position of a text that no pass has anything to
do there. For lowering and tightening, that is the same as being a fixed
point (`lowerDirections_eq_self_iff`, `tightenColons_eq_self_iff`): a
fixed point is one from any position on, so the question is only what
happens at the beginning.

# Why a name that is changed shows

The name could be changed and the call still begin with the letters of
the name. That it cannot is no matter of lengths: a rewritten call is
settled at every position, since no pass undoes another
(`lowerDirections_spaceCommas`, `tightenColons_spaceCommas`). If it
begins with the name and a parenthesis, then the name is settled, too
(`callName_iff_settled`).
-/
import KbDocs.Proofs.Signature.Normal

namespace KbDocs.ParmRule

open KbDocs.Text

-- ===================================================== spacing commas

theorem spaceCommas_comma (r : List Char) :
    spaceCommas (',' :: r) = ',' :: ' ' :: trimLeft (spaceCommas r) := by
  rw [spaceCommas, if_pos rfl]

theorem spaceCommas_cons_of_ne {c : Char} (h : c ≠ ',') (r : List Char) :
    spaceCommas (c :: r) = c :: spaceCommas r := by
  rw [spaceCommas, if_neg h]

/-- The texts on the two sides of a visible character, other than a
comma, are spaced on their own. -/
theorem spaceCommas_append_cons {c : Char} (hblank : isBlank c = false)
    (hcomma : c ≠ ',') (s r : List Char) :
    spaceCommas (s ++ c :: r) = spaceCommas s ++ c :: spaceCommas r := by
  induction s with
  | nil => exact spaceCommas_cons_of_ne hcomma r
  | cons d s ih =>
      by_cases hd : d = ','
      · subst hd
        rw [List.cons_append, spaceCommas_comma, ih, trimLeft_append_cons hblank,
          spaceCommas_comma]
        rfl
      · rw [List.cons_append, spaceCommas_cons_of_ne hd, ih, spaceCommas_cons_of_ne hd]
        rfl

/-- White space contains no comma. -/
theorem comma_not_mem_blank {w : List Char} (hw : allBlank w = true) : ',' ∉ w := by
  intro h
  exact absurd (isBlank_of_mem hw h) (by decide)

/-- Spacing and trimming on the left do not interfere. -/
theorem spaceCommas_trimLeft (s : List Char) :
    spaceCommas (trimLeft s) = trimLeft (spaceCommas s) := by
  obtain ⟨w, hw, hs⟩ := exists_trimLeft s
  have hpass : spaceCommas s = w ++ spaceCommas (trimLeft s) := by
    conv => lhs; rw [hs]
    exact spaceCommas_append_of_no_comma (comma_not_mem_blank hw) _
  rw [hpass, trimLeft_blank_append hw]
  cases h : trimLeft s with
  | nil => rfl
  | cons c r =>
      have hc := isBlank_head_trimLeft h
      by_cases hcomma : c = ','
      · subst hcomma
        rw [spaceCommas_comma, trimLeft_cons_of_not_blank hc]
      · rw [spaceCommas_cons_of_ne hcomma, trimLeft_cons_of_not_blank hc]

/-- Behind a comma of spaced text there is a space and no further white
space. -/
theorem space_of_spaced {s pre post : List Char} (h : spaceCommas s = pre ++ ',' :: post) :
    ∃ t, post = ' ' :: trimLeft t := by
  induction s generalizing pre with
  | nil =>
      rw [spaceCommas] at h
      simp at h
  | cons c r ih =>
      by_cases hc : c = ','
      · subst hc
        rw [spaceCommas_comma] at h
        rcases pre with _ | ⟨d, _ | ⟨e, pre⟩⟩
        · obtain ⟨-, rfl⟩ := List.cons.inj h
          exact ⟨_, rfl⟩
        · obtain ⟨-, h⟩ := List.cons.inj h
          exact absurd (List.cons.inj h).1 (by decide)
        · obtain ⟨w, -, hw⟩ := exists_trimLeft (spaceCommas r)
          have htail : trimLeft (spaceCommas r) = pre ++ ',' :: post :=
            (List.cons.inj (List.cons.inj h).2).2
          rw [htail, ← List.append_assoc] at hw
          exact ih hw
      · rw [spaceCommas_cons_of_ne hc] at h
        cases pre with
        | nil => exact absurd (List.cons.inj h).1 hc
        | cons d pre => exact ih (List.cons.inj h).2

/-- Up to its first comma, spaced text stands in the source. -/
theorem passed_comma {s u v : List Char} (hu : ',' ∉ u) (h : spaceCommas s = u ++ v) :
    ∃ t, s = u ++ t := by
  induction u generalizing s with
  | nil => exact ⟨s, rfl⟩
  | cons d u ih =>
      cases s with
      | nil => cases h
      | cons c r =>
          have hcomma : c ≠ ',' := by
            rintro rfl
            rw [spaceCommas_comma] at h
            exact hu (by rw [(List.cons.inj h).1]; exact List.mem_cons_self)
          rw [spaceCommas_cons_of_ne hcomma] at h
          obtain ⟨rfl, htail⟩ := List.cons.inj h
          obtain ⟨t, rfl⟩ := ih (fun hmem => hu (List.mem_cons_of_mem c hmem)) htail
          exact ⟨t, rfl⟩

-- ============================================== no pass undoes another

/-- A direction at the head of spaced text stood there before. -/
theorem directionHead?_of_spaced {s word rest : List Char}
    (h : directionHead? (spaceCommas s) = some (word, rest)) :
    ∃ t, directionHead? s = some (word, t) := by
  obtain ⟨hword, w, hw, heq⟩ := directionHead?_eq_some_iff.mp h
  have hcomma : ',' ∉ word ++ w ++ [':'] := by
    simp only [List.mem_append, not_or]
    refine ⟨⟨fun hmem => ?_, comma_not_mem_blank hw⟩, by decide⟩
    exact absurd (mem_keywordLetters word hword ',' hmem) (by decide)
  have hspaced : spaceCommas s = (word ++ w ++ [':']) ++ rest := by
    rw [heq]
    simp
  obtain ⟨t, rfl⟩ := passed_comma hcomma hspaced
  exact ⟨t, directionHead?_eq_some_iff.mpr ⟨hword, w, hw, by simp⟩⟩

/-- Lowered text stays lowered when its commas are spaced. -/
theorem lowerDirections_spaceCommas {b : Option Char} {s : List Char}
    (h : lowerDirections b s = s) :
    lowerDirections b (spaceCommas s) = spaceCommas s := by
  induction b, s using lowering_induction with
  | nil b => exact lowerDirections_nil b
  | direction b s word rest hb hd ih =>
      have hword := (directionHead?_eq_some_iff.mp hd).1
      obtain ⟨rfl, hlower, hrest⟩ := direction_of_lowered hb h hd
      have hcomma : ',' ∉ word := fun hmem =>
        absurd (mem_keywordLetters word hword ',' hmem) (by decide)
      have hstep := lowerDirections_lower hword hb (spaceCommas rest)
      rw [hlower] at hstep
      rw [spaceCommas_append_of_no_comma hcomma, spaceCommas_cons_of_ne (by decide), hstep,
        ih hrest]
  | pass b c r hd ih =>
      rw [lowerDirections_pass hd] at h
      obtain ⟨-, hr⟩ := List.cons.inj h
      by_cases hc : c = ','
      · subst hc
        -- the comma and the space pass, and a word may begin behind both
        have hsame : startsWord (some ' ') = startsWord (some ',') := by decide
        have hspace : lowerDirections (some ' ') (trimLeft (spaceCommas r))
            = trimLeft (spaceCommas r) := by
          rw [lowerDirections_congr hsame, lowerDirections_trimLeft (by decide), ih hr]
        rw [spaceCommas_comma,
          lowerDirections_pass fun _ => directionHead?_of_head (by decide) _,
          lowerDirections_pass fun _ => directionHead?_of_head (by decide) _, hspace]
      · have hd' : startsWord b = true → directionHead? (c :: spaceCommas r) = none := by
          intro hb
          cases hfound : directionHead? (c :: spaceCommas r) with
          | none => rfl
          | some found =>
              obtain ⟨word, rest⟩ := found
              rw [← spaceCommas_cons_of_ne hc] at hfound
              obtain ⟨t, ht⟩ := directionHead?_of_spaced hfound
              rw [hd hb] at ht
              cases ht
        rw [spaceCommas_cons_of_ne hc, lowerDirections_pass hd', ih hr]

/-- What stands behind a character of tightened text is tightened, and
closed up behind a colon. -/
theorem tightened_tail {c : Char} {r : List Char} (h : tightenColons (c :: r) = c :: r) :
    tightenColons r = r ∧ (c = ':' → closeUp r = r) := by
  by_cases hc : c = ':'
  · subst hc
    rw [tightenColons_colon] at h
    obtain ⟨-, hr⟩ := List.cons.inj h
    have htight : tightenColons r = r := by
      rcases closeUp_cases (tightenColons r) with hclose | hclose
      · rw [hclose] at hr
        rw [← hr, tightenColons_trimLeft, tightenColons_idem]
      · rw [← hclose, hr]
    rw [htight] at hr
    exact ⟨htight, fun _ => hr⟩
  · rw [tightenColons_cons_of_ne hc] at h
    exact ⟨(List.cons.inj h).2, fun hcolon => absurd hcolon hc⟩

theorem head?_spaceCommas (s : List Char) : (spaceCommas s).head? = s.head? := by
  cases s with
  | nil => rfl
  | cons c r =>
      by_cases hc : c = ','
      · subst hc
        rw [spaceCommas_comma]
        rfl
      · rw [spaceCommas_cons_of_ne hc]
        rfl

/-- Tightened text stays tightened when its commas are spaced. -/
theorem tightenColons_spaceCommas {s : List Char} (h : tightenColons s = s) :
    tightenColons (spaceCommas s) = spaceCommas s := by
  induction s with
  | nil => rfl
  | cons c r ih =>
      obtain ⟨hr, hclose⟩ := tightened_tail h
      by_cases hcomma : c = ','
      · subst hcomma
        rw [spaceCommas_comma, tightenColons_cons_of_ne (by decide),
          tightenColons_cons_of_ne (by decide), tightenColons_trimLeft, ih hr]
      · rw [spaceCommas_cons_of_ne hcomma]
        by_cases hcolon : c = ':'
        · -- an ampersand behind the colon stands there in the source
          have hsame : closeUp (spaceCommas r) = spaceCommas r := by
            have hsource := hclose hcolon
            rw [closeUp, ← spaceCommas_trimLeft, head?_spaceCommas]
            rw [closeUp] at hsource
            split at hsource
            case isTrue => rw [hsource, ite_self]
            case isFalse hamp => rw [if_neg hamp]
          rw [hcolon, tightenColons_colon, ih hr, hsame]
        · rw [tightenColons_cons_of_ne hcolon, ih hr]

-- ================================================ position by position

/-- In a text behind `before`, every direction that begins a word is in
lower case and touches its colon. -/
def LoweredBehind (before : Option Char) (s : List Char) : Prop :=
  ∀ pre word blanks post, s = pre ++ (word ++ blanks ++ ':' :: post) →
    startsWord (pre.getLast?.or before) = true → word ∈ spellings →
    allBlank blanks = true → blanks = [] ∧ lower word = word

/-- What stands last before a position, behind one character more. -/
private theorem last_cons_or (c : Char) (pre : List Char) (before : Option Char) :
    (c :: pre).getLast?.or before = pre.getLast?.or (some c) := by
  rw [List.getLast?_cons]
  cases pre.getLast? <;> rfl

theorem LoweredBehind.tail {before : Option Char} {c : Char} {r : List Char}
    (h : LoweredBehind before (c :: r)) : LoweredBehind (some c) r := by
  intro pre word blanks post heq hstart
  refine h (c :: pre) word blanks post (by rw [heq]; rfl) ?_
  rwa [last_cons_or]

theorem LoweredBehind.drop {before : Option Char} {u r : List Char} {c : Char}
    (h : LoweredBehind before (u ++ c :: r)) : LoweredBehind (some c) r := by
  induction u generalizing before with
  | nil => exact h.tail
  | cons d u ih => exact ih h.tail

/-- Within a word nothing is lowered. -/
theorem lowerDirections_word_append {b : Option Char} {u : List Char}
    (hb : ¬ startsWord b = true) (hu : ∀ c ∈ u, isWordChar c = true) (s : List Char) :
    lowerDirections b (u ++ ':' :: s) = u ++ ':' :: lowerDirections (some ':') s := by
  induction u generalizing b with
  | nil => exact lowerDirections_pass fun _ => directionHead?_of_head (by decide) s
  | cons c u ih =>
      obtain ⟨hc, hu⟩ := List.forall_mem_cons.mp hu
      rw [List.cons_append, lowerDirections_pass fun hb' => absurd hb' hb,
        ih (not_startsWord hc) hu]
      rfl

/-- What stands behind a character of lowered text is lowered. -/
theorem lowered_tail {b : Option Char} {c : Char} {r : List Char}
    (h : lowerDirections b (c :: r) = c :: r) : lowerDirections (some c) r = r := by
  by_cases hd : startsWord b = true → directionHead? (c :: r) = none
  · rw [lowerDirections_pass hd] at h
    exact (List.cons.inj h).2
  · obtain ⟨hb, hd⟩ := Classical.not_imp.mp hd
    obtain ⟨⟨word, rest⟩, hd⟩ := Option.ne_none_iff_exists'.mp hd
    have hword := (directionHead?_eq_some_iff.mp hd).1
    obtain ⟨heq, -, hrest⟩ := direction_of_lowered hb h hd
    obtain ⟨d, u, rfl⟩ := exists_cons_of_spelling word hword
    obtain ⟨rfl, htail⟩ := List.cons.inj heq
    have hletters : ∀ x ∈ c :: u, isWordChar x = true :=
      fun x hx => isWordChar_of_spelling hword hx
    obtain ⟨hc, hu⟩ := List.forall_mem_cons.mp hletters
    have hr : r = u ++ ':' :: rest := htail
    rw [hr, lowerDirections_word_append (not_startsWord hc) hu, hrest]

/-- A text is lowered exactly if it is so at every position. -/
theorem lowerDirections_eq_self_iff {b : Option Char} {s : List Char} :
    lowerDirections b s = s ↔ LoweredBehind b s := by
  constructor
  · intro h pre
    induction pre generalizing b s with
    | nil =>
        intro word blanks post heq hstart hword hblanks
        have hd : directionHead? s = some (word, post) :=
          directionHead?_eq_some_iff.mpr ⟨hword, blanks, hblanks, heq⟩
        obtain ⟨htouch, hlower, -⟩ := direction_of_lowered hstart h hd
        have hsame : word ++ blanks ++ ':' :: post = word ++ [] ++ ':' :: post := by
          rw [List.append_nil, ← htouch, heq]
          rfl
        obtain ⟨-, hnone, -⟩ := direction_unique hword hword hblanks allBlank_nil hsame
        exact ⟨hnone, hlower⟩
    | cons c pre ih =>
        intro word blanks post heq hstart
        rw [List.cons_append] at heq
        rw [heq] at h
        rw [last_cons_or] at hstart
        exact ih (lowered_tail h) word blanks post rfl hstart
  · intro h
    induction b, s using lowering_induction with
    | nil b => exact lowerDirections_nil b
    | direction b s word rest hb hd ih =>
        obtain ⟨hword, blanks, hblanks, rfl⟩ := directionHead?_eq_some_iff.mp hd
        obtain ⟨rfl, hlower⟩ := h [] word blanks rest rfl hb hword hblanks
        rw [lowerDirections_direction hb hd, hlower, ih h.drop, List.append_nil]
    | pass b c r hd ih => rw [lowerDirections_pass hd, ih h.tail]

/-- A text is tightened exactly if no colon has white space and an
ampersand behind it. -/
theorem tightenColons_eq_self_iff {s : List Char} :
    tightenColons s = s
      ↔ ∀ pre blanks post, s = pre ++ ':' :: (blanks ++ '&' :: post) →
        allBlank blanks = true → blanks = [] := by
  constructor
  · intro h pre
    induction pre generalizing s with
    | nil =>
        intro blanks post heq hblanks
        subst heq
        have hclose := (tightened_tail h).2 rfl
        rw [closeUp_ampersand hblanks] at hclose
        exact List.append_cancel_right hclose.symm
    | cons c pre ih =>
        intro blanks post heq
        subst heq
        exact ih (tightened_tail h).1 blanks post rfl
  · intro h
    induction s with
    | nil => rfl
    | cons c r ih =>
        have hr : tightenColons r = r := by
          refine ih fun pre blanks post heq => h (c :: pre) blanks post ?_
          rw [heq]
          rfl
        by_cases hc : c = ':'
        · subst hc
          rw [tightenColons_colon, hr, closeUp]
          split
          case isFalse => rfl
          case isTrue hamp =>
            obtain ⟨post, hpost⟩ := List.head?_eq_some_iff.mp hamp
            obtain ⟨blanks, hblanks, hsplit⟩ := exists_trimLeft r
            rw [hpost] at hsplit
            have hnone := h [] blanks post (by rw [hsplit]; rfl) hblanks
            rw [hpost, hsplit, hnone]
            rfl
        · rw [tightenColons_cons_of_ne hc, hr]

/-- A text whose commas, but for a last character, have one space and then
something visible behind them is spaced but for that comma. -/
theorem spaceCommas_of_spaced_within {s : List Char}
    (h : ∀ pre post, s = pre ++ ',' :: post → post ≠ [] →
      ∃ c rest, post = ' ' :: c :: rest ∧ isBlank c = false) :
    spaceCommas s = if s.getLast? = some ',' then s ++ [' '] else s := by
  induction s with
  | nil => rfl
  | cons c r ih =>
      have hr := ih fun pre post heq => h (c :: pre) post (by rw [heq]; rfl)
      by_cases hnil : r = []
      · subst hnil
        by_cases hc : c = ','
        · subst hc
          rfl
        · rw [spaceCommas_cons_of_ne hc, if_neg (by simpa using hc)]
          rfl
      · -- what the text ends with is in the rest, and so is the space to come
        have hlast : (c :: r).getLast? = r.getLast? := by
          rw [List.getLast?_cons, List.getLast?_eq_some_getLast hnil]
          rfl
        rw [hlast]
        by_cases hc : c = ','
        · subst hc
          obtain ⟨d, rest, rfl, hd⟩ := h [] r rfl hnil
          have hspace : isBlank ' ' = true := by decide
          rw [spaceCommas_comma, hr]
          split
          case isTrue =>
            rw [List.cons_append, trimLeft_cons_of_blank hspace, List.cons_append,
              trimLeft_cons_of_not_blank hd]
            rfl
          case isFalse =>
            rw [trimLeft_cons_of_blank hspace, trimLeft_cons_of_not_blank hd]
        · rw [spaceCommas_cons_of_ne hc, hr]
          split
          case isTrue => rfl
          case isFalse => rfl

/-- A text whose commas all have one space and then something visible
behind them is spaced. -/
theorem spaceCommas_of_spaced {s : List Char}
    (h : ∀ pre post, s = pre ++ ',' :: post →
      ∃ c rest, post = ' ' :: c :: rest ∧ isBlank c = false) :
    spaceCommas s = s := by
  rw [spaceCommas_of_spaced_within fun pre post heq _ => h pre post heq, if_neg]
  intro hlast
  obtain ⟨pre, heq⟩ := List.getLast?_eq_some_iff.mp hlast
  obtain ⟨c, rest, hpost, -⟩ := h pre [] heq
  cases hpost

/-- A text in which the rewriting of calls finds nothing to do: every
direction that begins a word is in lower case and touches its colon; no
colon has white space and an ampersand behind it; and every comma has one
space and then something visible behind it. -/
structure Settled (s : List Char) : Prop where
  directions : ∀ pre word blanks post, s = pre ++ (word ++ blanks ++ ':' :: post) →
    startsWord pre.getLast? = true → word ∈ spellings → allBlank blanks = true →
    blanks = [] ∧ lower word = word
  colons : ∀ pre blanks post, s = pre ++ ':' :: (blanks ++ '&' :: post) →
    allBlank blanks = true → blanks = []
  commas : ∀ pre post, s = pre ++ ',' :: post →
    ∃ c rest, post = ' ' :: c :: rest ∧ isBlank c = false

/-- The three passes, one after another. -/
def respell (s : List Char) : List Char :=
  spaceCommas (tightenColons (lowerDirections none s))

/-- Settled text is not changed. -/
theorem Settled.respell_eq {s : List Char} (h : Settled s) : respell s = s := by
  have hlowered : lowerDirections none s = s := by
    refine lowerDirections_eq_self_iff.mpr fun pre word blanks post heq hstart => ?_
    rw [Option.or_none] at hstart
    exact h.directions pre word blanks post heq hstart
  rw [respell, hlowered, tightenColons_eq_self_iff.mpr h.colons, spaceCommas_of_spaced h.commas]

-- ================================================ the name in a call

/-- A call is rewritten on the two sides of its opening parenthesis. -/
theorem respell_call (name arguments : List Char) :
    respell (name ++ '(' :: (arguments ++ [')']))
      = respell name ++ '(' :: (respell arguments ++ [')']) := by
  rw [respell, lowerDirections_append_cons (by decide),
    lowerDirections_separated (by decide), lowerDirections_append_cons (by decide),
    lowerDirections_nil, tightenColons_append_cons (by decide) (by decide) (by decide),
    tightenColons_append_cons (by decide) (by decide) (by decide), tightenColons_nil,
    spaceCommas_append_cons (by decide) (by decide),
    spaceCommas_append_cons (by decide) (by decide)]
  rfl

/-- With a trimmed name there is nothing to trim afterwards. -/
theorem normalizeCall_of_trimmed {name : List Char} (hname : Trimmed name)
    (arguments : List Char) :
    normalizeCall (name ++ '(' :: arguments ++ [')'])
      = respell (name ++ '(' :: (arguments ++ [')'])) := by
  have hleft : trimLeft (respell name) = respell name := by
    rw [respell, ← spaceCommas_trimLeft, ← tightenColons_trimLeft,
      ← lowerDirections_trimLeft rfl, trimLeft_of_trimmed hname]
  rw [List.append_assoc, List.cons_append, normalizeCall, ← respell, trim, respell_call,
    trimLeft_append_cons (by decide), hleft, ← List.cons_append, ← List.append_assoc,
    trimRight_append_cons (by decide), trimRight_nil]

/-- Rewritten text is lowered and tightened. -/
theorem respell_fixed (s : List Char) :
    lowerDirections none (respell s) = respell s
      ∧ tightenColons (respell s) = respell s := by
  have hlowered : lowerDirections none (tightenColons (lowerDirections none s))
      = tightenColons (lowerDirections none s) :=
    lowerDirections_tightenColons (lowerDirections_idem none s)
  exact ⟨lowerDirections_spaceCommas hlowered,
    tightenColons_spaceCommas (tightenColons_idem _)⟩

/-- A comma in trimmed text that is part of rewritten text has one space
and then something visible behind it, unless it ends the part. -/
theorem comma_of_respell {s w t v pre post : List Char} (ht : Trimmed t)
    (h : respell s = w ++ t ++ v) (heq : t = pre ++ ',' :: post) :
    (∃ c rest, post = ' ' :: c :: rest ∧ isBlank c = false)
      ∨ post = [] ∧ ∃ u, v = ' ' :: trimLeft u := by
  have hcomma : respell s = (w ++ pre) ++ ',' :: (post ++ v) := by
    rw [h, heq]
    simp
  obtain ⟨u, hu⟩ := space_of_spaced hcomma
  cases post with
  | nil => exact Or.inr ⟨rfl, u, hu⟩
  | cons d post =>
      obtain ⟨rfl, hpost⟩ := List.cons.inj hu
      cases post with
      | nil =>
          -- trimmed text does not end in a space
          have hlast : t.getLast? = some ' ' := by
            rw [heq]
            simp
          exact absurd ((trimmed_iff.mp ht).2 ' ' hlast) (by decide)
      | cons c rest => exact Or.inl ⟨c, rest, rfl, isBlank_head_trimLeft hpost.symm⟩

/-- A trimmed name that rewritten text begins with, up to a parenthesis,
is settled. -/
theorem settled_of_respell {name s t : List Char} (hname : Trimmed name)
    (h : respell s = name ++ '(' :: t) : Settled name := by
  obtain ⟨hlowered, htight⟩ := respell_fixed s
  rw [h] at hlowered htight
  refine ⟨fun pre word blanks post heq hstart => ?_, fun pre blanks post heq => ?_,
    fun pre post heq => ?_⟩
  · refine lowerDirections_eq_self_iff.mp hlowered pre word blanks (post ++ '(' :: t) ?_ ?_
    · rw [heq]
      simp
    · rwa [Option.or_none]
  · refine tightenColons_eq_self_iff.mp htight pre blanks (post ++ '(' :: t) ?_
    rw [heq]
    simp
  · rcases comma_of_respell (w := []) hname h heq with hspaced | ⟨-, u, hu⟩
    · exact hspaced
    · exact absurd (List.cons.inj hu).1 (by decide)

/-- A rewritten call begins with the name as it is exactly if the name is
settled. -/
theorem callName_iff_settled {name : List Char} (hname : Trimmed name)
    (arguments : List Char) :
    (∃ a, normalizeCall (name ++ '(' :: arguments ++ [')']) = name ++ '(' :: a ++ [')'])
      ↔ Settled name := by
  rw [normalizeCall_of_trimmed hname]
  constructor
  · rintro ⟨a, ha⟩
    rw [List.append_assoc] at ha
    exact settled_of_respell hname ha
  · intro h
    refine ⟨respell arguments, ?_⟩
    rw [respell_call, h.respell_eq, List.append_assoc]
    rfl

end KbDocs.ParmRule
