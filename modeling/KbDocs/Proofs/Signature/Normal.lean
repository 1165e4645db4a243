/-
The normal form of a call text, segment by segment. Normalising rewrites
the whole text between the name and the closing parenthesis in three
passes; none of them looks across a comma, so the result is the name and
the normal forms of the segments, with one space after each comma
(`normalizeCall_call`). Normal arguments are their own normal form
(`normalArguments_idem`).

# The passes

- `lowerDirections` is local to a segment because commas and
  parentheses separate (Lowering.lean).
- `tightenColons` looks from a colon over white space to an ampersand;
  everything else passes. Read backwards, a text up to its first colon
  stands in the source (`passed_colon`), so tightening neither makes nor
  breaks a direction, and lowered text stays lowered
  (`lowerDirections_tightenColons`).
- `spaceCommas` takes the white space off the left end of every segment
  but the first.

# The normal form of a segment

`normalSegment` is the first two passes on one segment. Applying it to
its own result, with or without white space in front, changes nothing
(`normalSegment_idem`, `normalSegment_space`).
-/
import KbDocs.Proofs.Signature.Lowering
import KbDocs.Proofs.Text.Cut

namespace KbDocs.ParmRule

open KbDocs.Text

-- ================================================== tightening colons

/-- A text without the white space before an ampersand that begins it. -/
def closeUp (s : List Char) : List Char :=
  if (trimLeft s).head? = some '&' then trimLeft s else s

/-- Closing up is trimming on the left, or nothing. -/
theorem closeUp_cases (s : List Char) :
    closeUp s = trimLeft s ∨ closeUp s = s := by
  rw [closeUp]
  split
  · exact Or.inl rfl
  · exact Or.inr rfl

theorem trimLeft_closeUp (s : List Char) : trimLeft (closeUp s) = trimLeft s := by
  rcases closeUp_cases s with h | h
  · rw [h, trimLeft_idem]
  · rw [h]

theorem closeUp_idem (s : List Char) : closeUp (closeUp s) = closeUp s := by
  rw [closeUp, trimLeft_closeUp]
  split
  case isTrue h => rw [closeUp, if_pos h]
  case isFalse => rfl

/-- A text that begins with an ampersand behind white space is closed
up. -/
theorem closeUp_ampersand {w : List Char} (hw : allBlank w = true)
    (s : List Char) : closeUp (w ++ '&' :: s) = '&' :: s := by
  have htrim : trimLeft (w ++ '&' :: s) = '&' :: s := by
    rw [trimLeft_blank_append hw, trimLeft_cons_of_not_blank (by decide)]
  rw [closeUp, htrim, List.head?_cons, if_pos rfl]

/-- What stands behind a visible character, other than an ampersand, has
no part in closing up. -/
theorem closeUp_append_cons {c : Char} (hblank : isBlank c = false)
    (hamp : c ≠ '&') (s r : List Char) :
    closeUp (s ++ c :: r) = closeUp s ++ c :: r := by
  rw [closeUp, closeUp, trimLeft_append_cons hblank]
  cases trimLeft s with
  | nil => simp [hamp]
  | cons d t =>
      by_cases hd : d = '&'
      · simp [hd]
      · simp [hd]

@[simp]
theorem tightenColons_nil : tightenColons [] = [] := rfl

theorem tightenColons_cons_of_ne {c : Char} (h : c ≠ ':') (r : List Char) :
    tightenColons (c :: r) = c :: tightenColons r := by
  rw [tightenColons, if_neg h]

theorem tightenColons_colon (r : List Char) :
    tightenColons (':' :: r) = ':' :: closeUp (tightenColons r) := by
  rw [tightenColons, if_pos rfl, closeUp]
  dsimp only
  split
  case h_1 rest h => rw [h, List.head?_cons, if_pos rfl]
  case h_2 h =>
    rw [if_neg]
    intro hhead
    obtain ⟨rest, hrest⟩ := List.head?_eq_some_iff.mp hhead
    exact h rest hrest

/-- A stretch without a colon passes. -/
theorem tightenColons_append_of_no_colon {u : List Char} (h : ':' ∉ u)
    (s : List Char) : tightenColons (u ++ s) = u ++ tightenColons s := by
  induction u with
  | nil => rfl
  | cons c u ih =>
      have hc : c ≠ ':' := fun hc => h (by simp [hc])
      rw [List.cons_append, tightenColons_cons_of_ne hc,
        ih (fun hu => h (List.mem_cons_of_mem c hu)), List.cons_append]

theorem tightenColons_of_no_colon {u : List Char} (h : ':' ∉ u) :
    tightenColons u = u := by
  have := tightenColons_append_of_no_colon h []
  simpa using this

/-- The texts on the two sides of a visible character, other than an
ampersand or a colon, are tightened on their own. -/
theorem tightenColons_append_cons {c : Char} (hblank : isBlank c = false)
    (hamp : c ≠ '&') (hcolon : c ≠ ':') (s r : List Char) :
    tightenColons (s ++ c :: r) = tightenColons s ++ c :: tightenColons r := by
  induction s with
  | nil =>
      rw [List.nil_append, tightenColons_cons_of_ne hcolon]
      rfl
  | cons d s ih =>
      by_cases hd : d = ':'
      · subst hd
        rw [List.cons_append, tightenColons_colon, ih,
          closeUp_append_cons hblank hamp, tightenColons_colon, List.cons_append]
      · rw [List.cons_append, tightenColons_cons_of_ne hd, ih,
          tightenColons_cons_of_ne hd, List.cons_append]

/-- Tightening only takes characters away. -/
theorem mem_of_mem_tightenColons {s : List Char} {c : Char}
    (h : c ∈ tightenColons s) : c ∈ s := by
  induction s with
  | nil => exact h
  | cons d r ih =>
      by_cases hd : d = ':'
      · subst hd
        rw [tightenColons_colon, List.mem_cons] at h
        rcases h with rfl | h
        · exact List.mem_cons_self ..
        · refine List.mem_cons_of_mem _ (ih ?_)
          rcases closeUp_cases (tightenColons r) with hclose | hclose
          · rw [hclose] at h
            exact (List.dropWhile_sublist isBlank).subset h
          · rwa [hclose] at h
      · rw [tightenColons_cons_of_ne hd, List.mem_cons] at h
        rcases h with rfl | h
        · exact List.mem_cons_self ..
        · exact List.mem_cons_of_mem _ (ih h)

/-- White space contains no colon. -/
theorem colon_not_mem_blank {w : List Char} (hw : allBlank w = true) :
    ':' ∉ w := by
  intro h
  have := isBlank_of_mem hw h
  exact absurd this (by decide)

/-- Tightening and trimming on the left do not interfere. -/
theorem tightenColons_trimLeft (s : List Char) :
    tightenColons (trimLeft s) = trimLeft (tightenColons s) := by
  obtain ⟨w, hw, hs⟩ := exists_trimLeft s
  have hpass : tightenColons s = w ++ tightenColons (trimLeft s) := by
    conv => lhs; rw [hs]
    exact tightenColons_append_of_no_colon (colon_not_mem_blank hw) _
  rw [hpass, trimLeft_blank_append hw]
  cases h : trimLeft s with
  | nil => rfl
  | cons c r =>
      have hc := isBlank_head_trimLeft h
      by_cases hcolon : c = ':'
      · subst hcolon
        rw [tightenColons_colon, trimLeft_cons_of_not_blank hc]
      · rw [tightenColons_cons_of_ne hcolon, trimLeft_cons_of_not_blank hc]

/-- Tightening a second time changes nothing. -/
theorem tightenColons_idem (s : List Char) :
    tightenColons (tightenColons s) = tightenColons s := by
  induction s with
  | nil => rfl
  | cons c r ih =>
      by_cases hc : c = ':'
      · subst hc
        have hclose : tightenColons (closeUp (tightenColons r))
            = closeUp (tightenColons r) := by
          rcases closeUp_cases (tightenColons r) with h | h
          · rw [h, tightenColons_trimLeft, ih]
          · rw [h, ih]
        rw [tightenColons_colon, tightenColons_colon, hclose, closeUp_idem]
      · rw [tightenColons_cons_of_ne hc, tightenColons_cons_of_ne hc, ih]

-- ===================================== lowered text stays lowered

/-- Up to its first colon, tightened text stands in the source. -/
theorem passed_colon {s u v : List Char} (hu : ':' ∉ u)
    (h : tightenColons s = u ++ ':' :: v) : ∃ t, s = u ++ ':' :: t := by
  induction u generalizing s with
  | nil =>
      cases s with
      | nil => cases h
      | cons c r =>
          by_cases hc : c = ':'
          · exact ⟨r, by rw [hc]; rfl⟩
          · rw [tightenColons_cons_of_ne hc] at h
            obtain ⟨rfl, -⟩ := List.cons.inj h
            exact absurd rfl hc
  | cons d u ih =>
      cases s with
      | nil => cases h
      | cons c r =>
          by_cases hc : c = ':'
          · subst hc
            rw [tightenColons_colon] at h
            obtain ⟨rfl, -⟩ := List.cons.inj h
            exact absurd (List.mem_cons_self ..) hu
          · rw [tightenColons_cons_of_ne hc] at h
            obtain ⟨rfl, htail⟩ := List.cons.inj h
            obtain ⟨t, rfl⟩ := ih (fun hmem => hu (List.mem_cons_of_mem c hmem)) htail
            exact ⟨t, rfl⟩

/-- A direction at the head of tightened text stood there before. -/
theorem directionHead?_of_tightened {s word rest : List Char}
    (h : directionHead? (tightenColons s) = some (word, rest)) :
    ∃ t, directionHead? s = some (word, t) := by
  obtain ⟨hword, w, hw, heq⟩ := directionHead?_eq_some_iff.mp h
  have hcolon : ':' ∉ word ++ w := by
    rw [List.mem_append, not_or]
    exact ⟨colon_not_mem_spelling hword, colon_not_mem_blank hw⟩
  obtain ⟨t, ht⟩ := passed_colon hcolon heq
  exact ⟨t, directionHead?_eq_some_iff.mpr ⟨hword, w, hw, ht⟩⟩

/-- In lowered text a direction is in lower case and touches its colon. -/
theorem direction_of_lowered {b : Option Char} {s word rest : List Char}
    (hb : startsWord b = true) (hs : lowerDirections b s = s)
    (hd : directionHead? s = some (word, rest)) :
    s = word ++ ':' :: rest ∧ lower word = word
      ∧ lowerDirections (some ':') rest = rest := by
  obtain ⟨hword, w, hw, heq⟩ := directionHead?_eq_some_iff.mp hd
  rw [lowerDirections_direction hb hd] at hs
  by_cases hdot : dotted ∈ word
  · -- the dotted capital never stands at the head of lowered text
    obtain ⟨c, r, hcr⟩ := exists_cons_of_spelling word hword
    obtain ⟨d, t, hdt⟩ := exists_cons_of_lower word hword
    have hsame := hs.trans heq
    rw [hdt, hcr] at hsame
    obtain ⟨hdc, -⟩ := List.cons.inj hsame
    have hne := head_lower_dotted word hword hdot
    rw [hdt, hcr, List.head?_cons, List.head?_cons, hdc] at hne
    exact absurd rfl hne
  · obtain ⟨hmem, -, -⟩ := lower_spelling word hword hdot
    have hsame : lower word ++ [] ++ ':' :: lowerDirections (some ':') rest
        = word ++ w ++ ':' :: rest := by
      rw [List.append_nil, hs, heq]
    obtain ⟨hlower, hw', hrest⟩ := direction_unique hmem hword allBlank_nil hw hsame
    refine ⟨?_, hlower, hrest⟩
    rw [heq, ← hw', List.append_nil]

/-- Rewriting of what stands behind white space is rewriting of the
whole. -/
theorem lowerDirections_trimLeft {b : Option Char} (hb : startsWord b = true)
    (s : List Char) : lowerDirections b (trimLeft s) = trimLeft (lowerDirections b s) := by
  obtain ⟨w, hw, hs⟩ := exists_trimLeft s
  have hpass : lowerDirections b s = w ++ lowerDirections b (trimLeft s) := by
    conv => lhs; rw [hs]
    exact lowerDirections_blank_append hb hw _
  rw [hpass, trimLeft_blank_append hw]
  cases h : trimLeft s with
  | nil => rw [lowerDirections_nil]; rfl
  | cons c r =>
      have hc := isBlank_head_trimLeft h
      cases hd : directionHead? (c :: r) with
      | none =>
          rw [lowerDirections_pass fun _ => hd, trimLeft_cons_of_not_blank hc]
      | some found =>
          obtain ⟨word, rest⟩ := found
          have hword := (directionHead?_eq_some_iff.mp hd).1
          obtain ⟨d, t, hlower⟩ := exists_cons_of_lower word hword
          have hletter := mem_loweredLetters word hword d (by rw [hlower]; simp)
          rw [lowerDirections_direction hb hd, hlower, List.cons_append,
            trimLeft_cons_of_not_blank (loweredLetter_facts d hletter).1]

/-- Lowered text stays lowered when its colons are tightened. -/
theorem lowerDirections_tightenColons {b : Option Char} {s : List Char}
    (h : lowerDirections b s = s) :
    lowerDirections b (tightenColons s) = tightenColons s := by
  -- behind a colon the text is tightened and perhaps closed up
  have hclose : ∀ t : List Char,
      lowerDirections (some ':') (tightenColons t) = tightenColons t →
      lowerDirections (some ':') (closeUp (tightenColons t))
        = closeUp (tightenColons t) := by
    intro t ht
    rcases closeUp_cases (tightenColons t) with hc | hc
    · rw [hc, lowerDirections_trimLeft (by decide), ht]
    · rw [hc, ht]
  induction b, s using lowering_induction with
  | nil b => simp
  | direction b s word rest hb hd ih =>
      have hword := (directionHead?_eq_some_iff.mp hd).1
      obtain ⟨rfl, hlower, hrest⟩ := direction_of_lowered hb h hd
      rw [tightenColons_append_of_no_colon (colon_not_mem_spelling hword),
        tightenColons_colon]
      have hstep := lowerDirections_lower hword hb (closeUp (tightenColons rest))
      rw [hlower] at hstep
      rw [hstep, hclose rest (ih hrest)]
  | pass b c r hd ih =>
      rw [lowerDirections_pass hd] at h
      obtain ⟨-, hr⟩ := List.cons.inj h
      by_cases hc : c = ':'
      · subst hc
        rw [tightenColons_colon,
          lowerDirections_pass fun _ => directionHead?_of_head (by decide) _,
          hclose r (ih hr)]
      · have hd' : startsWord b = true →
            directionHead? (c :: tightenColons r) = none := by
          intro hb
          cases hfound : directionHead? (c :: tightenColons r) with
          | none => rfl
          | some found =>
              obtain ⟨word, rest⟩ := found
              rw [← tightenColons_cons_of_ne hc] at hfound
              obtain ⟨t, ht⟩ := directionHead?_of_tightened hfound
              rw [hd hb] at ht
              cases ht
        rw [tightenColons_cons_of_ne hc, lowerDirections_pass hd', ih hr]

-- =================================================== normal segments

/-- The normal form of one argument segment. -/
def normalSegment (s : List Char) : List Char :=
  tightenColons (lowerDirections none s)

/-- A normal segment is its own normal form. -/
theorem normalSegment_idem (s : List Char) :
    normalSegment (normalSegment s) = normalSegment s := by
  rw [normalSegment, normalSegment,
    lowerDirections_tightenColons (lowerDirections_idem none s), tightenColons_idem]

/-- White space in front of a segment is kept. -/
theorem normalSegment_blank_append {w : List Char} (hw : allBlank w = true)
    (s : List Char) : normalSegment (w ++ s) = w ++ normalSegment s := by
  rw [normalSegment, lowerDirections_blank_append rfl hw,
    tightenColons_append_of_no_colon (colon_not_mem_blank hw), normalSegment]

theorem normalSegment_trimLeft (s : List Char) :
    normalSegment (trimLeft s) = trimLeft (normalSegment s) := by
  rw [normalSegment, lowerDirections_trimLeft rfl, tightenColons_trimLeft,
    normalSegment]

/-- A segment as it stands behind a comma, one space in front of it, is
its own normal form. -/
theorem normalSegment_space (s : List Char) :
    normalSegment (' ' :: trimLeft (normalSegment s))
      = ' ' :: trimLeft (normalSegment s) := by
  have := normalSegment_blank_append (w := [' ']) (by decide)
    (trimLeft (normalSegment s))
  rw [normalSegment_trimLeft, normalSegment_idem] at this
  exact this

/-- A segment without a colon is its own normal form. -/
theorem normalSegment_of_no_colon {s : List Char} (h : ':' ∉ s) :
    normalSegment s = s := by
  rw [normalSegment, lowerDirections_of_no_colon h, tightenColons_of_no_colon h]

/-- Normalising brings no punctuation into a segment but colons. -/
theorem not_mem_normalSegment {s : List Char} {c : Char} (h : c ∉ s)
    (hcolon : c ≠ ':') (hletter : c ∉ loweredLetters) : c ∉ normalSegment s := by
  intro hmem
  rcases mem_of_mem_lowerDirections (mem_of_mem_tightenColons hmem) with hc | hc | hc
  · exact h hc
  · exact hcolon hc
  · exact hletter hc

-- ==================================================== the whole call

/-- Segments joined by commas are lowered one by one. -/
theorem lowerDirections_join (a : List Char) (segments : List (List Char)) :
    lowerDirections none (join [','] (a :: segments))
      = join [','] ((a :: segments).map (lowerDirections none)) := by
  induction segments generalizing a with
  | nil => simp
  | cons b segments ih =>
      rw [join_cons_cons, List.append_assoc, List.singleton_append,
        lowerDirections_append_cons (by decide), lowerDirections_separated (by decide),
        ih]
      simp

/-- Segments joined by commas are tightened one by one. -/
theorem tightenColons_join (a : List Char) (segments : List (List Char)) :
    tightenColons (join [','] (a :: segments))
      = join [','] ((a :: segments).map tightenColons) := by
  induction segments generalizing a with
  | nil => simp
  | cons b segments ih =>
      rw [join_cons_cons, List.append_assoc, List.singleton_append,
        tightenColons_append_cons (by decide) (by decide) (by decide), ih]
      simp

/-- A stretch without a comma passes. -/
theorem spaceCommas_append_of_no_comma {u : List Char} (h : ',' ∉ u)
    (s : List Char) : spaceCommas (u ++ s) = u ++ spaceCommas s := by
  induction u with
  | nil => rfl
  | cons c u ih =>
      have hc : c ≠ ',' := fun hc => h (by simp [hc])
      rw [List.cons_append, spaceCommas, if_neg hc,
        ih (fun hu => h (List.mem_cons_of_mem c hu)), List.cons_append]

/-- Spacing takes the white space off the left end of every segment but
the first, and puts one space there. -/
theorem spaceCommas_join {a : List Char} {segments : List (List Char)}
    (h : ∀ s ∈ a :: segments, ',' ∉ s) :
    spaceCommas (join [','] (a :: segments) ++ [')'])
      = join [',', ' '] (a :: segments.map trimLeft) ++ [')'] := by
  induction segments generalizing a with
  | nil =>
      rw [join_singleton, spaceCommas_append_of_no_comma (h a (by simp)),
        List.map_nil, join_singleton]
      rfl
  | cons b segments ih =>
      have hrest : ∀ s ∈ b :: segments, ',' ∉ s :=
        fun s hs => h s (List.mem_cons_of_mem a hs)
      have htrim : trimLeft (join [',', ' '] (b :: segments.map trimLeft) ++ [')'])
          = join [',', ' '] (trimLeft b :: segments.map trimLeft) ++ [')'] := by
        rw [join_cons_eq_flatMap, join_cons_eq_flatMap]
        cases segments with
        | nil => simpa using trimLeft_append_cons (by decide) b []
        | cons d segments => simpa using trimLeft_append_cons (by decide) b _
      rw [join_cons_cons, List.append_assoc, List.append_assoc, List.singleton_append,
        spaceCommas_append_of_no_comma (h a (by simp)), spaceCommas, if_pos rfl,
        ih hrest, htrim, List.map_cons, join_cons_cons]
      simp

/-- A call with a trimmed name has no white space at its ends. -/
theorem trim_call {name : List Char} (hname : Trimmed name) (arguments : List Char) :
    trim (name ++ '(' :: arguments ++ [')']) = name ++ '(' :: arguments ++ [')'] := by
  refine trim_eq_self ?_ ?_
  · intro c hc
    cases name with
    | nil =>
        cases hc
        decide
    | cons d r =>
        cases hc
        exact (trimmed_iff.mp hname).1 c rfl
  · intro c hc
    rw [List.getLast?_append] at hc
    cases hc
    decide

/-- The normal form of an argument text: its segments in normal form, and
one space after each comma. -/
def normalArguments (arguments : List Char) : List Char :=
  match pieces ',' arguments with
  | [] => []
  | a :: segments =>
      join [',', ' ']
        (normalSegment a :: segments.map fun s => trimLeft (normalSegment s))

/-- The normal form of a call: the name as it is, and the arguments in
normal form. -/
theorem normalizeCall_call {name : List Char} (hname : Trimmed name)
    (hcomma : ',' ∉ name) (hcolon : ':' ∉ name) (arguments : List Char) :
    normalizeCall (name ++ '(' :: arguments ++ [')'])
      = name ++ '(' :: normalArguments arguments ++ [')'] := by
  obtain ⟨a, segments, hpieces⟩ := exists_pieces ',' arguments
  have harguments : arguments = join [','] (a :: segments) := by
    rw [← hpieces, join_pieces]
  have hlower : lowerDirections none (name ++ '(' :: arguments ++ [')'])
      = name ++ '(' :: join [','] ((a :: segments).map (lowerDirections none))
        ++ [')'] := by
    rw [lowerDirections_append_cons (by decide), lowerDirections_append_cons (by decide),
      lowerDirections_of_no_colon hcolon, lowerDirections_separated (by decide),
      harguments, lowerDirections_join, lowerDirections_nil]
  have htight : tightenColons
        (name ++ '(' :: join [','] ((a :: segments).map (lowerDirections none)) ++ [')'])
      = name ++ '(' :: (join [','] ((a :: segments).map normalSegment) ++ [')']) := by
    rw [tightenColons_append_cons (by decide) (by decide) (by decide),
      tightenColons_append_cons (by decide) (by decide) (by decide),
      tightenColons_of_no_colon hcolon, tightenColons_nil, List.map_cons,
      tightenColons_join, ← List.map_cons, List.map_map, List.append_assoc,
      List.cons_append]
    rfl
  have hnormal : ∀ s ∈ normalSegment a :: segments.map normalSegment, ',' ∉ s := by
    intro s hs
    rw [← List.map_cons, ← hpieces, List.mem_map] at hs
    obtain ⟨t, ht, rfl⟩ := hs
    exact not_mem_normalSegment (not_mem_of_mem_pieces t ht) (by decide) (by decide)
  have hspaced : spaceCommas
        (name ++ '(' :: (join [','] ((a :: segments).map normalSegment) ++ [')']))
      = name ++ '(' :: normalArguments arguments ++ [')'] := by
    rw [spaceCommas_append_of_no_comma hcomma, spaceCommas, if_neg (by decide),
      List.map_cons, spaceCommas_join hnormal, List.map_map, normalArguments, hpieces]
    simp [Function.comp_def]
  rw [normalizeCall, hlower, htight, hspaced, trim_call hname]

/-- The segments of normal arguments. -/
theorem pieces_normalArguments {arguments a : List Char} {segments : List (List Char)}
    (h : pieces ',' arguments = a :: segments) :
    pieces ',' (normalArguments arguments)
      = normalSegment a :: segments.map fun s => ' ' :: trimLeft (normalSegment s) := by
  have hcomma : ∀ t ∈ pieces ',' arguments, ',' ∉ normalSegment t := fun t ht =>
    not_mem_normalSegment (not_mem_of_mem_pieces t ht) (by decide) (by decide)
  rw [h] at hcomma
  simp only [normalArguments, h]
  rw [join_cons_eq_join_singleton, List.map_map, pieces_join (by simp)]
  · rfl
  · intro s hs
    rcases List.mem_cons.mp hs with rfl | hs
    · exact hcomma a (List.mem_cons_self ..)
    · obtain ⟨t, ht, rfl⟩ := List.mem_map.mp hs
      intro hmem
      rcases List.mem_cons.mp hmem with hcon | hmem
      · exact absurd hcon (by decide)
      · exact hcomma t (List.mem_cons_of_mem a ht)
          ((List.dropWhile_sublist isBlank).subset hmem)

/-- Normal arguments are their own normal form. -/
theorem normalArguments_idem (arguments : List Char) :
    normalArguments (normalArguments arguments) = normalArguments arguments := by
  obtain ⟨a, segments, h⟩ := exists_pieces ',' arguments
  have hpieces := pieces_normalArguments h
  have hspace : isBlank ' ' = true := by decide
  rw [normalArguments, hpieces]
  simp only [normalArguments, h, normalSegment_idem, List.map_map, Function.comp_def,
    normalSegment_space, trimLeft_cons_of_blank hspace, trimLeft_idem]

/-- Normal arguments hold no punctuation that the arguments do not, but
for colons and what belongs to the spacing. -/
theorem not_mem_normalArguments {arguments : List Char} {c : Char}
    (h : c ∉ arguments) (hcomma : c ≠ ',') (hspace : c ≠ ' ') (hcolon : c ≠ ':')
    (hletter : c ∉ loweredLetters) : c ∉ normalArguments arguments := by
  obtain ⟨a, segments, hpieces⟩ := exists_pieces ',' arguments
  have hsegment : ∀ t ∈ a :: segments, c ∉ normalSegment t := by
    intro t ht
    refine not_mem_normalSegment (fun hmem => h ?_) hcolon hletter
    rw [← join_pieces ',' arguments, hpieces]
    exact mem_join_of_mem ht hmem
  simp only [normalArguments, hpieces]
  intro hmem
  rcases mem_join hmem with hsep | ⟨s, hs, hc⟩
  · simp only [List.mem_cons, List.not_mem_nil, or_false] at hsep
    rcases hsep with hc | hc
    · exact hcomma hc
    · exact hspace hc
  · rcases List.mem_cons.mp hs with rfl | hs
    · exact hsegment a (List.mem_cons_self ..) hc
    · obtain ⟨t, ht, rfl⟩ := List.mem_map.mp hs
      exact hsegment t (List.mem_cons_of_mem a ht)
        ((List.dropWhile_sublist isBlank).subset hc)

end KbDocs.ParmRule
