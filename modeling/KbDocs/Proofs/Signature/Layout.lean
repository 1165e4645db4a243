/-
The layout of a `parm` rule. White space may follow every comma of an
argument list; this file says which of it matters.

White space that stays on the line does not: the segments are trimmed
before they are read, and the call text has one space after a comma
whatever stood there (`signature?_compact`).

A line break does. The arguments of a call stand on one line, so a rule
that is broken behind a comma is read from its last line alone
(`findCall?_lastLine`). No call begins before that line. Its parenthesis
would have to be closed on the line where it is opened, and the only one
that closes is at the very end; and a keyword at the end of a line, whose
parenthesis opens the next one, is ruled out because lines are broken
behind commas only (`Hanging`).

What the last line says is never what the whole rule says. It can hold a
call of its own, as in a rule whose second segment is `parm(in:&B`, but
the argument text of that one has fewer opening parentheses than the
argument text of the rule, and normalising a call keeps them all
(`count_normalizeCall`).
-/
import KbDocs.Proofs.Signature.Reference
import KbDocs.Proofs.Signature.Settled

namespace KbDocs.ParmRule

open KbDocs.Text

-- ========================================================== the texts

/-- A segment of an argument text: nothing in it ends the segment, the
arguments or the line. -/
structure Segment where
  text : List Char
  no_comma : ',' ∉ text
  no_paren : ')' ∉ text
  no_line : '\n' ∉ text

/-- A segment with the white space that stands between it and the comma
before it. -/
structure Spaced extends Segment where
  gap : List Char
  blank : allBlank gap = true

/-- The gap and the segment behind it. -/
def Spaced.spelled (r : Spaced) : List Char :=
  r.gap ++ r.text

/-- An argument text: a first segment, and further ones with gaps. -/
def laidOut (first : Segment) (rest : List Spaced) : List Char :=
  join [','] (first.text :: rest.map Spaced.spelled)

/-- The same segments without gaps. -/
def compact (rest : List Spaced) : List Spaced :=
  rest.map fun r => { r with gap := [], blank := rfl }

/-- The rule with an argument text. -/
def ruleText (arguments : List Char) : String :=
  String.ofList (keyword ++ '(' :: arguments ++ [')', ';'])

/-- What stands behind the last line feed. -/
def lastLine (s : List Char) : List Char :=
  (lines s).getLastD []

theorem laidOut_eq_flatMap (first : Segment) (rest : List Spaced) :
    laidOut first rest = first.text ++ rest.flatMap fun r => ',' :: (r.gap ++ r.text) := by
  rw [laidOut, join_cons_eq_flatMap, List.flatMap_map]
  rfl

@[simp]
theorem map_text_compact (rest : List Spaced) :
    (compact rest).map (·.text) = rest.map (·.text) := by
  simp [compact]

/-- A character that stands in no segment and no gap, and is no comma. -/
theorem not_mem_laidOut {first : Segment} {rest : List Spaced} {c : Char} (hc : c ≠ ',')
    (hfirst : c ∉ first.text) (hgap : ∀ r ∈ rest, c ∉ r.gap)
    (hrest : ∀ r ∈ rest, c ∉ r.text) : c ∉ laidOut first rest := by
  rw [laidOut_eq_flatMap, List.mem_append, not_or, List.mem_flatMap]
  refine ⟨hfirst, ?_⟩
  rintro ⟨r, hr, hmem⟩
  rcases List.mem_cons.mp hmem with hmem | hmem
  · exact hc hmem
  · rcases List.mem_append.mp hmem with hmem | hmem
    · exact hgap r hr hmem
    · exact hrest r hr hmem

theorem paren_not_mem_laidOut (first : Segment) (rest : List Spaced) :
    ')' ∉ laidOut first rest :=
  not_mem_laidOut (by decide) first.no_paren
    (fun r _ h => absurd (isBlank_of_mem r.blank h) (by decide)) fun r _ => r.no_paren

/-- Without a line feed in a gap, the arguments stand on one line. -/
theorem line_not_mem_laidOut {first : Segment} {rest : List Spaced}
    (h : ∀ r ∈ rest, '\n' ∉ r.gap) : '\n' ∉ laidOut first rest :=
  not_mem_laidOut (by decide) first.no_line h fun r _ => r.no_line

theorem line_not_mem_compact (first : Segment) (rest : List Spaced) :
    '\n' ∉ laidOut first (compact rest) := by
  refine line_not_mem_laidOut fun r hr => ?_
  obtain ⟨r', -, rfl⟩ := List.mem_map.mp hr
  exact List.not_mem_nil

-- ============================================== gaps within the line

theorem comma_not_mem_segments (first : Segment) (rest : List Spaced) :
    ∀ s ∈ first.text :: rest.map Spaced.spelled, ',' ∉ s := by
  intro s hs
  rcases List.mem_cons.mp hs with rfl | hs
  · exact first.no_comma
  · obtain ⟨r, -, rfl⟩ := List.mem_map.mp hs
    rw [Spaced.spelled, List.mem_append, not_or]
    exact ⟨comma_not_mem_blank r.blank, r.no_comma⟩

/-- Only a single segment can be blank. -/
theorem allBlank_laidOut (first : Segment) (rest : List Spaced) :
    allBlank (laidOut first rest) = (allBlank first.text && rest.isEmpty) := by
  rw [laidOut_eq_flatMap]
  cases rest with
  | nil => simp
  | cons r rest => simp [show isBlank ',' = false by decide]

/-- What the segments declare, whatever stands in the gaps. -/
theorem argumentParameters_laidOut (first : Segment) (rest : List Spaced) :
    argumentParameters (laidOut first rest)
      = (first.text :: rest.map (·.text)).filterMap fun s => segmentParameter? (trim s) := by
  have htrim : ∀ r : Spaced, trim r.spelled = trim r.text := by
    intro r
    have := trim_blank_append_append r.blank allBlank_nil r.text
    rwa [List.append_nil] at this
  rw [argumentParameters, laidOut, pieces_join (by simp) (comma_not_mem_segments first rest),
    List.filterMap_cons, List.filterMap_cons, List.filterMap_map, List.filterMap_map]
  simp only [Function.comp_def, htrim]

/-- The argument text in a call text, whatever stands in the gaps. -/
theorem respell_laidOut (first : Segment) (rest : List Spaced) :
    respell (laidOut first rest)
      = join [',', ' '] (normalSegment first.text
          :: (rest.map (·.text)).map fun s => trimLeft (normalSegment s)) := by
  have hnormal : ∀ s ∈ normalSegment first.text
      :: (rest.map Spaced.spelled).map normalSegment, ',' ∉ s := by
    intro s hs
    rw [← List.map_cons, List.mem_map] at hs
    obtain ⟨t, ht, rfl⟩ := hs
    exact not_mem_normalSegment (comma_not_mem_segments first rest t ht) (by decide) (by decide)
  have hpasses : tightenColons (lowerDirections none (laidOut first rest))
      = join [','] (normalSegment first.text
          :: (rest.map Spaced.spelled).map normalSegment) := by
    rw [laidOut, lowerDirections_join, List.map_cons, tightenColons_join, ← List.map_cons,
      List.map_map]
    rfl
  have hgap : ∀ r : Spaced,
      trimLeft (normalSegment r.spelled) = trimLeft (normalSegment r.text) := by
    intro r
    rw [Spaced.spelled, normalSegment_blank_append r.blank, trimLeft_blank_append r.blank]
  -- a closing parenthesis behind the segments comes through unchanged
  have hspaced := spaceCommas_join hnormal
  rw [spaceCommas_append_cons (by decide) (by decide)] at hspaced
  rw [respell, hpasses, List.append_cancel_right hspaced, List.map_map, List.map_map,
    List.map_map]
  simp only [Function.comp_def, hgap]

/-- The signature of a rule on one line. -/
theorem signature?_ruleText {a : List Char} (hparen : ')' ∉ a) (hline : '\n' ∉ a)
    (procedure : String) :
    signature? (ruleText a) procedure
      = if allBlank a then some { parameters := [], callText := canonicalCall procedure [] }
        else if argumentParameters a = [] then none
        else some { parameters := argumentParameters a
                    callText := String.ofList (trim (respell procedure.toList
                      ++ '(' :: (respell a ++ [')'])) ++ [';']) } := by
  have hnormal : normalizeCall (procedure.toList ++ '(' :: a ++ [')'])
      = trim (respell procedure.toList ++ '(' :: (respell a ++ [')'])) := by
    rw [List.append_assoc, List.cons_append, normalizeCall, ← respell, respell_call]
  rw [signature?, ruleText, String.toList_ofList, findCall?_keyword hparen hline]
  dsimp only
  rw [hnormal]
  cases argumentParameters a <;> simp

/-- Gaps within the line do not matter. -/
theorem signature?_compact {first : Segment} {rest : List Spaced}
    (h : ∀ r ∈ rest, '\n' ∉ r.gap) (procedure : String) :
    signature? (ruleText (laidOut first rest)) procedure
      = signature? (ruleText (laidOut first (compact rest))) procedure := by
  rw [signature?_ruleText (paren_not_mem_laidOut first rest) (line_not_mem_laidOut h),
    signature?_ruleText (paren_not_mem_laidOut first _) (line_not_mem_compact first rest),
    allBlank_laidOut, allBlank_laidOut, argumentParameters_laidOut, argumentParameters_laidOut,
    respell_laidOut, respell_laidOut, map_text_compact]
  simp [compact]

-- ================================================= the last of the lines

/-- A line that is broken behind a comma, or was blank to begin with. -/
structure Hanging (s : List Char) : Prop where
  no_paren : ')' ∉ s
  no_line : '\n' ∉ s
  comma : ∀ c ∈ (trimRight s).getLast?, c = ','

theorem hanging_nil : Hanging [] :=
  ⟨List.not_mem_nil, List.not_mem_nil, fun _ hc => by cases hc⟩

theorem hanging_concat_comma {s : List Char} (hparen : ')' ∉ s) (hline : '\n' ∉ s) :
    Hanging (s ++ [',']) := by
  refine ⟨by simp [hparen], by simp [hline], fun c hc => ?_⟩
  rw [trimRight_append_cons (by decide), trimRight_nil, List.getLast?_concat] at hc
  cases hc
  rfl

/-- White space may follow the comma. -/
theorem Hanging.concat {s : List Char} (h : Hanging s) {c : Char} (hblank : isBlank c = true)
    (hline : c ≠ '\n') : Hanging (s ++ [c]) := by
  have hparen : c ≠ ')' := by
    rintro rfl
    exact absurd hblank (by decide)
  refine ⟨?_, ?_, ?_⟩
  · simp [h.no_paren, hparen.symm]
  · simp [h.no_line, hline.symm]
  · rw [trimRight_append_blank (by simp [hblank])]
    exact h.comma

theorem Hanging.tail {c : Char} {s : List Char} (h : Hanging (c :: s)) : Hanging s := by
  refine ⟨fun hmem => h.no_paren (List.mem_cons_of_mem c hmem),
    fun hmem => h.no_line (List.mem_cons_of_mem c hmem), fun d hd => h.comma d ?_⟩
  have hne : trimRight s ≠ [] := by
    intro hnil
    rw [hnil] at hd
    cases hd
  obtain ⟨e, t, het⟩ := List.exists_cons_of_ne_nil hne
  rw [trimRight_cons, if_neg hne, het, List.getLast?_cons_cons, ← het]
  exact hd

/-- Two cuts of one text at different characters: one lies in front of
the other. -/
private theorem cut_or_cut {p q r s : List Char} {c d : Char} (hcd : c ≠ d)
    (h : p ++ c :: q = r ++ d :: s) :
    (∃ m, r = p ++ c :: m ∧ q = m ++ d :: s) ∨ ∃ m, p = r ++ d :: m := by
  rcases List.append_eq_append_iff.mp h with ⟨m, hr, hm⟩ | ⟨m, hp, hm⟩
  · cases m with
    | nil => exact absurd (List.cons.inj hm).1 hcd
    | cons e m =>
        obtain ⟨rfl, hq⟩ := List.cons.inj hm
        exact Or.inl ⟨m, hr, hq⟩
  · cases m with
    | nil => exact absurd (List.cons.inj hm).1.symm hcd
    | cons e m =>
        obtain ⟨rfl, -⟩ := List.cons.inj hm
        exact Or.inr ⟨m, hp⟩

/-- The keyword does not end in white space or a comma, and holds no line
feed. -/
theorem keyword_facts :
    ∀ word ∈ spellingsOf "parm".toList, '\n' ∉ word ∧ trimRight word = word
      ∧ word.getLast?.isSome = true ∧ word.getLast? ≠ some ',' := by
  decide +kernel

/-- No call begins in a line that hangs: its parenthesis is neither
closed in the line nor opened behind it. -/
theorem callHead?_hanging {s : List Char} (h : Hanging s) (below : List Char) :
    callHead? (s ++ '\n' :: below) = none := by
  cases hcall : callHead? (s ++ '\n' :: below) with
  | none => rfl
  | some a =>
      obtain ⟨word, blanks, rest, heq, hword, hblanks, -, hline⟩ :=
        callHead?_eq_some_iff.mp hcall
      obtain ⟨hwordLine, htrim, hlast, hcomma⟩ := keyword_facts word hword
      rw [List.drop_zero, ← List.cons_append, ← List.append_assoc] at heq
      rcases cut_or_cut (by decide) heq.symm with ⟨m, hs, -⟩ | ⟨m, hhead⟩
      · exact absurd (by rw [hs]; simp) h.no_paren
      rcases cut_or_cut (by decide) hhead with ⟨m', -, ha⟩ | ⟨m', hgap⟩
      · exact absurd (by rw [ha]; simp) hline
      -- the line ends between the keyword and its parenthesis
      have hsplit : ∃ w, allBlank w = true ∧ s = word ++ w := by
        rcases List.append_eq_append_iff.mp hgap with ⟨w, hs, hw⟩ | ⟨w, hw, hs⟩
        · rw [hw, allBlank_append, Bool.and_eq_true] at hblanks
          exact ⟨w, hblanks.1, hs⟩
        · cases w with
          | nil => exact ⟨[], rfl, by simpa using hw.symm⟩
          | cons c w =>
              obtain ⟨rfl, -⟩ := List.cons.inj hs
              exact absurd (by rw [hw]; simp) hwordLine
      obtain ⟨w, hw, rfl⟩ := hsplit
      obtain ⟨c, hc⟩ := Option.isSome_iff_exists.mp hlast
      have hwant := h.comma c (by rw [trimRight_append_blank hw, htrim]; exact hc)
      rw [hwant] at hc
      exact absurd hc hcomma

/-- A line that hangs is passed by the search for a call. -/
theorem findCall?_hanging {s : List Char} (h : Hanging s) (below : List Char) :
    findCall? (s ++ '\n' :: below) = findCall? below := by
  induction s with
  | nil => rw [List.nil_append, findCall?, ← List.nil_append ('\n' :: below), callHead?_hanging h]
  | cons c s ih =>
      rw [List.cons_append, findCall?, ← List.cons_append, callHead?_hanging h]
      exact ih h.tail

/-- And so are any number of them. -/
theorem findCall?_join_hanging {front : List (List Char)} (h : ∀ s ∈ front, Hanging s)
    (last : List Char) : findCall? (join ['\n'] (front ++ [last])) = findCall? last := by
  induction front with
  | nil => simp
  | cons s front ih =>
      have hne : front ++ [last] ≠ [] := by simp
      obtain ⟨t, below, hbelow⟩ := List.exists_cons_of_ne_nil hne
      rw [List.cons_append, hbelow, join_cons_cons, List.append_assoc, List.singleton_append,
        findCall?_hanging (h s (List.mem_cons_self ..)), ← hbelow]
      exact ih fun s' hs' => h s' (List.mem_cons_of_mem s hs')

/-- There is no call without a closing parenthesis. -/
theorem findCall?_of_no_paren {s : List Char} (h : ')' ∉ s) : findCall? s = none := by
  rw [findCall?_eq_none_iff]
  rintro ⟨i, a, word, blanks, rest, heq, -⟩
  refine h (List.mem_of_mem_drop (i := i) ?_)
  rw [heq]
  simp

/-- A text whose lines hang, all but the last, is read from that one. -/
theorem findCall?_of_lines {s last : List Char} {front : List (List Char)}
    (hlines : lines s = front ++ [last]) (hfront : ∀ l ∈ front, Hanging l)
    (hlast : '\n' ∉ last) :
    findCall? (dropCommentLines s) = findCall? (dropCommentLines last) := by
  have hkept : ∀ l ∈ front.filter (fun l => !isCommentLine l), Hanging l := fun l hl =>
    hfront l (List.mem_of_mem_filter hl)
  rw [dropCommentLines, dropCommentLines, hlines, lines, pieces_of_not_mem hlast,
    List.filter_append]
  cases hcomment : isCommentLine last with
  | false =>
      rw [List.filter_singleton, hcomment]
      exact (findCall?_join_hanging hkept last).trans (by simp)
  | true =>
      -- the only parenthesis that closes is in the comment
      rw [List.filter_singleton, hcomment]
      refine (findCall?_of_no_paren fun hmem => ?_).trans rfl
      rcases mem_join hmem with hmem | ⟨l, hl, hmem⟩
      · exact absurd (List.mem_singleton.mp hmem) (by decide)
      · rw [Bool.not_true, cond_false, List.append_nil] at hl
        exact (hkept l hl).no_paren hmem

/-- A gap ends the lines that it breaks, and they hang. -/
theorem lines_gap {s gap : List Char} (hs : Hanging s) (hgap : allBlank gap = true)
    (t : List Char) :
    ∃ front s', lines (s ++ gap ++ t) = front ++ lines (s' ++ t)
      ∧ (∀ l ∈ front, Hanging l) ∧ Hanging s' := by
  induction gap generalizing s with
  | nil => exact ⟨[], s, by simp, by simp, hs⟩
  | cons c gap ih =>
      rw [allBlank_cons, Bool.and_eq_true] at hgap
      by_cases hc : c = '\n'
      · subst hc
        obtain ⟨front, s', hlines, hfront, hs'⟩ := ih hanging_nil hgap.2
        refine ⟨s :: front, s', ?_, ?_, hs'⟩
        · rw [List.append_assoc, List.cons_append, lines, pieces_append_cons,
            pieces_of_not_mem hs.no_line]
          exact congrArg (s :: ·) hlines
        · simpa using ⟨hs, hfront⟩
      · obtain ⟨front, s', hlines, hrest⟩ := ih (hs.concat hgap.1 hc) hgap.2
        exact ⟨front, s', by simpa using hlines, hrest⟩

/-- Behind a text on one line, spaced segments break lines that hang. -/
theorem lines_spaced (rest : List Spaced) {s : List Char} (hparen : ')' ∉ s)
    (hline : '\n' ∉ s) (t : List Char) :
    ∃ front s', lines (s ++ (rest.flatMap fun r => ',' :: (r.gap ++ r.text)) ++ t)
        = front ++ lines (s' ++ t)
      ∧ (∀ l ∈ front, Hanging l) ∧ '\n' ∉ s' := by
  induction rest generalizing s with
  | nil => exact ⟨[], s, by simp, by simp, hline⟩
  | cons r rest ih =>
      obtain ⟨front, k, hlines, hfront, hk⟩ :=
        lines_gap (hanging_concat_comma hparen hline) r.blank
          (r.text ++ (rest.flatMap fun r => ',' :: (r.gap ++ r.text)) ++ t)
      obtain ⟨more, s', hmore, hhanging, hs'⟩ :=
        ih (s := k ++ r.text) (by simp [hk.no_paren, r.no_paren])
          (by simp [hk.no_line, r.no_line])
      refine ⟨front ++ more, s', ?_, ?_, hs'⟩
      · rw [List.append_assoc front, ← hmore]
        simpa using hlines
      · intro l hl
        rcases List.mem_append.mp hl with hl | hl
        · exact hfront l hl
        · exact hhanging l hl

/-- A rule is read from its last line. -/
theorem findCall?_lastLine (first : Segment) (rest : List Spaced) :
    findCall? (dropCommentLines (ruleText (laidOut first rest)).toList)
      = findCall? (dropCommentLines (lastLine (ruleText (laidOut first rest)).toList)) := by
  obtain ⟨front, s, hlines, hfront, hs⟩ :=
    lines_spaced rest (s := keyword ++ '(' :: first.text)
      (by simp [keyword, first.no_paren]) (by simp [keyword, first.no_line]) [')', ';']
  have hline : '\n' ∉ s ++ [')', ';'] := by simp [hs]
  have htext : (ruleText (laidOut first rest)).toList
      = keyword ++ '(' :: first.text
        ++ (rest.flatMap fun r => ',' :: (r.gap ++ r.text)) ++ [')', ';'] := by
    rw [ruleText, String.toList_ofList, laidOut_eq_flatMap]
    simp
  rw [← htext, lines, lines, pieces_of_not_mem hline, ← lines] at hlines
  rw [lastLine, hlines, List.getLastD_concat]
  exact findCall?_of_lines hlines hfront hline

-- ==================================================== the parentheses

theorem count_blank {c : Char} (h : isBlank c = false) {w : List Char}
    (hw : allBlank w = true) : w.count c = 0 := by
  refine List.count_eq_zero_of_not_mem fun hmem => ?_
  rw [isBlank_of_mem hw hmem] at h
  cases h

/-- Visible characters are not lost at the left end of a text. -/
theorem count_trimLeft {c : Char} (h : isBlank c = false) (s : List Char) :
    (trimLeft s).count c = s.count c := by
  obtain ⟨w, hw, hs⟩ := exists_trimLeft s
  conv => rhs; rw [hs, List.count_append, count_blank h hw, Nat.zero_add]

/-- Nor at the two ends of it. -/
theorem count_trim {c : Char} (h : isBlank c = false) (s : List Char) :
    (trim s).count c = s.count c := by
  obtain ⟨w, v, hw, hv, hs⟩ := exists_trim s
  conv =>
    rhs
    rw [hs, List.count_append, List.count_append, count_blank h hw, count_blank h hv,
      Nat.zero_add, Nat.add_zero]

theorem count_lowerDirections {c : Char} (hc : Separates c) (hlowered : c ∉ loweredLetters)
    (b : Option Char) (s : List Char) : (lowerDirections b s).count c = s.count c := by
  induction b, s using lowering_induction with
  | nil b => rw [lowerDirections_nil]
  | direction b s word rest hb hd ih =>
      obtain ⟨hword, w, hw, rfl⟩ := directionHead?_eq_some_iff.mp hd
      have hnot : c ∉ word := fun hmem => hc.1 (mem_keywordLetters word hword c hmem)
      have hnot' : c ∉ lower word := fun hmem =>
        hlowered (mem_loweredLetters word hword c hmem)
      rw [lowerDirections_direction hb hd, List.count_append, List.count_append,
        List.count_append, List.count_cons, List.count_cons, ih,
        List.count_eq_zero_of_not_mem hnot, List.count_eq_zero_of_not_mem hnot',
        count_blank hc.2.1 hw]
  | pass b c' r hd ih => rw [lowerDirections_pass hd, List.count_cons, List.count_cons, ih]

theorem count_tightenColons {c : Char} (h : isBlank c = false) (s : List Char) :
    (tightenColons s).count c = s.count c := by
  induction s with
  | nil => rfl
  | cons d r ih =>
      by_cases hd : d = ':'
      · have hclose : (closeUp (tightenColons r)).count c = (tightenColons r).count c := by
          rcases closeUp_cases (tightenColons r) with hcase | hcase
          · rw [hcase, count_trimLeft h]
          · rw [hcase]
        rw [hd, tightenColons_colon, List.count_cons, List.count_cons, hclose, ih]
      · rw [tightenColons_cons_of_ne hd, List.count_cons, List.count_cons, ih]

theorem count_spaceCommas {c : Char} (h : isBlank c = false) (s : List Char) :
    (spaceCommas s).count c = s.count c := by
  have hspace : ' ' ≠ c := by
    rintro rfl
    exact absurd h (by decide)
  induction s with
  | nil => rfl
  | cons d r ih =>
      by_cases hd : d = ','
      · rw [hd, spaceCommas_comma, List.count_cons, List.count_cons_of_ne hspace,
          count_trimLeft h, ih, List.count_cons]
      · rw [spaceCommas_cons_of_ne hd, List.count_cons, List.count_cons, ih]

/-- Normalising a call loses no parenthesis, and brings none in. -/
theorem count_normalizeCall (s : List Char) : (normalizeCall s).count '(' = s.count '(' := by
  rw [normalizeCall, count_trim (by decide), count_spaceCommas (by decide),
    count_tightenColons (by decide), count_lowerDirections (by decide) (by decide)]

/-- Calls in one call text have the same number of parentheses in their
arguments. -/
theorem count_of_normalizeCall_eq {name a b : List Char}
    (h : normalizeCall (name ++ '(' :: a ++ [')']) = normalizeCall (name ++ '(' :: b ++ [')'])) :
    a.count '(' = b.count '(' := by
  have hcount := congrArg (List.count '(') h
  rw [count_normalizeCall, count_normalizeCall] at hcount
  simpa using hcount

/-- The arguments of a call have one parenthesis less than the text that
the call stands in. -/
theorem count_lt_of_findCall? {s a : List Char} (h : findCall? s = some a) :
    a.count '(' < s.count '(' := by
  obtain ⟨i, ⟨word, blanks, rest, heq, -⟩, -⟩ := findCall?_eq_some_iff.mp h
  have hle := (List.drop_sublist i s).count_le '('
  rw [heq] at hle
  simp at hle
  omega

theorem count_dropCommentLines_le {s : List Char} (h : '\n' ∉ s) (c : Char) :
    (dropCommentLines s).count c ≤ s.count c := by
  rw [dropCommentLines, lines, pieces_of_not_mem h, List.filter_singleton]
  cases isCommentLine s <;> simp

-- ============================================================ the rule

theorem lines_eq_concat (s : List Char) : ∃ front, lines s = front ++ [lastLine s] := by
  rcases List.eq_nil_or_concat (lines s) with hnil | ⟨front, last, hlines⟩
  · obtain ⟨p, ps, hpieces⟩ := exists_pieces '\n' s
    rw [lines, hpieces] at hnil
    cases hnil
  · rw [List.concat_eq_append] at hlines
    refine ⟨front, ?_⟩
    rw [lastLine, hlines, List.getLastD_concat]

theorem line_not_mem_lastLine (s : List Char) : '\n' ∉ lastLine s := by
  obtain ⟨front, hlines⟩ := lines_eq_concat s
  refine not_mem_of_mem_pieces (lastLine s) (s := s) ?_
  rw [← lines, hlines]
  simp

/-- The last line stands at the end of a text. -/
theorem lastLine_suffix (s : List Char) : List.IsSuffix (lastLine s) s := by
  obtain ⟨front, hlines⟩ := lines_eq_concat s
  obtain ⟨head, hjoin⟩ := exists_join_concat ['\n'] front
  refine ⟨head, ?_⟩
  rw [← hjoin, ← hlines, lines, join_pieces]

/-- Nothing in front of a line feed is in the last line. -/
theorem lastLine_append_cons (s t : List Char) : lastLine (s ++ '\n' :: t) = lastLine t := by
  obtain ⟨front, hlines⟩ := lines_eq_concat t
  rw [lastLine, lines, pieces_append_cons, ← lines, ← lines, hlines, ← List.append_assoc,
    List.getLastD_concat]

/-- Gaps hold no parentheses. -/
theorem count_compact (first : Segment) (rest : List Spaced) :
    (laidOut first (compact rest)).count '(' = (laidOut first rest).count '(' := by
  rw [laidOut_eq_flatMap, laidOut_eq_flatMap, List.count_append, List.count_append, compact,
    List.flatMap_map]
  congr 1
  induction rest with
  | nil => rfl
  | cons r rest ih =>
      rw [List.flatMap_cons, List.flatMap_cons, List.count_append, List.count_append, ih,
        List.count_cons, List.count_cons, List.count_append, List.count_append,
        count_blank (by decide) r.blank, List.count_nil]

/-- The first parenthesis of a broken rule is not in its last line. -/
theorem count_lastLine_le (first : Segment) {rest : List Spaced}
    (h : ∃ r ∈ rest, '\n' ∈ r.gap) :
    (lastLine (ruleText (laidOut first rest)).toList).count '('
      ≤ (laidOut first (compact rest)).count '(' := by
  have hmem : '\n' ∈ laidOut first rest := by
    obtain ⟨r, hr, hline⟩ := h
    rw [laidOut_eq_flatMap]
    exact List.mem_append_right _ (List.mem_flatMap.mpr ⟨r, hr, by simp [hline]⟩)
  obtain ⟨above, below, hcut⟩ := List.append_of_mem hmem
  have htext : (ruleText (laidOut first rest)).toList
      = (keyword ++ '(' :: above) ++ '\n' :: (below ++ [')', ';']) := by
    rw [ruleText, String.toList_ofList, hcut]
    simp
  calc (lastLine (ruleText (laidOut first rest)).toList).count '('
      = (lastLine (below ++ [')', ';'])).count '(' := by rw [htext, lastLine_append_cons]
    _ ≤ (below ++ [')', ';']).count '(' := (lastLine_suffix _).sublist.count_le '('
    _ = below.count '(' := by simp
    _ ≤ (laidOut first rest).count '(' := by
        rw [hcut, List.count_append, List.count_cons]
        omega
    _ = (laidOut first (compact rest)).count '(' := (count_compact first rest).symm

/-- A broken rule with a declaration in it is not read as the rule on one
line is. -/
theorem signature?_ne_compact {first : Segment} {rest : List Spaced}
    (hbroken : ∃ r ∈ rest, '\n' ∈ r.gap)
    (hdeclares : ∃ s ∈ first.text :: rest.map (·.text), IsDeclaration s) (procedure : String) :
    signature? (ruleText (laidOut first rest)) procedure
      ≠ signature? (ruleText (laidOut first (compact rest))) procedure := by
  have hnonempty : argumentParameters (laidOut first (compact rest)) ≠ [] := by
    obtain ⟨s, hs, hdeclares⟩ := hdeclares
    obtain ⟨p, hp⟩ := Option.isSome_iff_exists.mp (isDeclaration_iff.mp hdeclares)
    rw [argumentParameters_laidOut, map_text_compact]
    exact List.ne_nil_of_mem (List.mem_filterMap.mpr ⟨s, hs, hp⟩)
  have hcompact : findCall? (dropCommentLines (ruleText (laidOut first (compact rest))).toList)
      = some (laidOut first (compact rest)) := by
    rw [ruleText, String.toList_ofList]
    exact findCall?_keyword (paren_not_mem_laidOut first _) (line_not_mem_compact first rest)
  have hvisible : allBlank (laidOut first (compact rest)) = false := by
    rw [← Bool.not_eq_true]
    exact fun hblank => hnonempty (argumentParameters_of_blank hblank)
  intro hsame
  rw [signature?_eq_some_iff.mpr ⟨_, hcompact, Or.inr ⟨hvisible, hnonempty, rfl⟩⟩,
    signature?_eq_some_iff] at hsame
  obtain ⟨a, hcall, ⟨-, hempty⟩ | ⟨-, -, hsame⟩⟩ := hsame
  · exact hnonempty (congrArg Signature.parameters hempty)
  · -- a call in the last line has too few parentheses in its arguments
    have htexts := String.ofList_injective (congrArg Signature.callText hsame)
    have hcount := count_of_normalizeCall_eq (List.append_cancel_right htexts)
    rw [findCall?_lastLine] at hcall
    have hfewer := count_lt_of_findCall? hcall
    have hline := count_dropCommentLines_le
      (line_not_mem_lastLine (ruleText (laidOut first rest)).toList) '('
    have hlast := count_lastLine_le first hbroken
    omega

/-- A rule is read from its last line. White space behind the commas does
not matter as long as it breaks no line. Where it breaks one, a rule with
a declaration in it is read differently from the rule on one line. -/
theorem signature?_layout (first : Segment) (rest : List Spaced) (procedure : String) :
    signature? (ruleText (laidOut first rest)) procedure
        = signature? (String.ofList (lastLine (ruleText (laidOut first rest)).toList)) procedure
      ∧ ((∀ r ∈ rest, '\n' ∉ r.gap) →
        signature? (ruleText (laidOut first rest)) procedure
          = signature? (ruleText (laidOut first (compact rest))) procedure)
      ∧ ((∃ r ∈ rest, '\n' ∈ r.gap) →
        (∃ s ∈ first.text :: rest.map (·.text), IsDeclaration s) →
        signature? (ruleText (laidOut first rest)) procedure
          ≠ signature? (ruleText (laidOut first (compact rest))) procedure) := by
  refine ⟨?_, fun hline => signature?_compact hline procedure,
    fun hbroken hdeclares => signature?_ne_compact hbroken hdeclares procedure⟩
  rw [signature?, signature?, String.toList_ofList, findCall?_lastLine]

/-- The first segment of a small rule. -/
def incoming : Segment :=
  { text := "in:&A".toList, no_comma := by decide, no_paren := by decide, no_line := by decide }

/-- Its second segment, behind a gap. -/
def outgoing (gap : List Char) (blank : allBlank gap = true) : Spaced :=
  { text := "out:&B".toList, no_comma := by decide, no_paren := by decide, no_line := by decide,
    gap := gap, blank := blank }

/-- A gap of a tab and an ideographic space, and a gap that breaks the
line. -/
theorem signature?_layout_gaps :
    signature? "parm(in:&A,\t\u3000out:&B);" "P" = signature? "parm(in:&A,out:&B);" "P"
      ∧ signature? "parm(in:&A,\n out:&B);" "P" = signature? " out:&B);" "P"
      ∧ signature? "parm(in:&A,\n out:&B);" "P" ≠ signature? "parm(in:&A,out:&B);" "P" := by
  have hspaced := signature?_layout incoming [outgoing "\t\u3000".toList (by decide)] "P"
  have hbroken := signature?_layout incoming [outgoing "\n ".toList (by decide)] "P"
  exact ⟨hspaced.2.1 (by decide), hbroken.1, hbroken.2.2 (by decide) (by decide +kernel)⟩

/-- Broken behind its comma, the small rule declares nothing. -/
theorem signature?_broken :
    ruleText (laidOut incoming [outgoing ['\n'] rfl]) = "parm(in:&A,\nout:&B);"
      ∧ ruleText (laidOut incoming (compact [outgoing ['\n'] rfl])) = "parm(in:&A,out:&B);"
      ∧ signature? "parm(in:&A,\nout:&B);" "P" = none
      ∧ signature? "parm(in:&A,out:&B);" "P"
        = some { parameters := [{ name := "A" }, { name := "B", direction := "OUT" }]
                 callText := "P(in:&A, out:&B);" } := by
  decide +kernel

end KbDocs.ParmRule
