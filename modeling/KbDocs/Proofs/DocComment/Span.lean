/-
Where the block of a source stands.

There are three ways to tell, and they find the same text:

- `body?` cuts the source at an opener, and what is behind it at a
  closer;
- `span?` names positions: the first one of an opener, and the first one
  of a closer that does not overlap with it;
- `readings` searches and may go back: at every position in turn it tries
  an opener, white space, a text, white space and a closer, with as much
  white space and as little text as there can be first.

# Why the search does not go back

A closer does not begin with white space. So white space before a closer
is read in one way only (`flatMap_afterBlanks`), and the shortest text in
front of it is what stands before the first closer, without white space
at its end (`head?_readingsUpTo`). Less white space behind the opener
would only make that text longer (`head?_flatMap_afterBlanks`). Where an
opener has no closer behind it, no later opener has one either
(`body?_eq_head?_readings`).
-/
import KbDocs.DocComment.Tag
import KbDocs.Proofs.DocComment.Block
import Mathlib.Data.List.Infix

namespace KbDocs

open KbDocs.Text

namespace DocBlock

-- ======================================================== the two cuts

/-- The text before the first closer. -/
def closed? (s : List Char) : Option (List Char) :=
  (cutPhrase closer s).2.map fun _ => (cutPhrase closer s).1

theorem body?_eq_bind (s : List Char) :
    body? s = ((cutPhrase opener s).2.bind closed?).map trim := by
  unfold body? closed?
  cases (cutPhrase opener s).2 with
  | none => rfl
  | some rest =>
      dsimp only [Option.bind_some]
      cases cutPhrase closer rest with
      | mk inside after => cases after <;> rfl

theorem closed?_cons (c : Char) (r : List Char) :
    closed? (c :: r)
      = if closer.isPrefixOf (c :: r) then some [] else (closed? r).map (c :: ·) := by
  unfold closed?
  rw [cutPhrase]
  split
  · rfl
  · rw [Option.map_map]
    rfl

theorem closed?_eq_none_iff {s : List Char} : closed? s = none ↔ ¬ closer <:+: s := by
  induction s with
  | nil => decide
  | cons c r ih =>
      rw [closed?_cons, List.infix_cons_iff, not_or, ← ih, ← List.isPrefixOf_iff_prefix]
      split
      case isTrue hhead => simp [hhead]
      case isFalse hhead => simp [hhead]

/-- A text is not searched at all before its first opener. -/
theorem body?_cons (c : Char) (r : List Char) :
    body? (c :: r)
      = if opener.isPrefixOf (c :: r) then (closed? (r.drop 2)).map trim else body? r := by
  rw [body?_eq_bind, body?_eq_bind, cutPhrase]
  split <;> rfl

/-- A block has its closer behind the three characters of its opener. -/
theorem infix_of_body? {s b : List Char} (h : body? s = some b) : closer <:+: s.drop 3 := by
  induction s with
  | nil => cases h
  | cons c r ih =>
      rw [body?_cons] at h
      show closer <:+: r.drop 2
      split at h
      · by_contra hnone
        rw [closed?_eq_none_iff.mpr hnone] at h
        cases h
      · have hsuffix : r.drop 3 <:+ r.drop 2 := List.drop_suffix_drop_left r (by omega)
        exact (ih h).trans hsuffix.isInfix

-- ======================================================= positions

/-- The first position from `start` on at which a phrase stands in a
text. -/
def firstFrom? (phrase : List Char) (start : Nat) (s : List Char) : Option Nat :=
  (List.range s.length).find? fun i => decide (start ≤ i) && phrase.isPrefixOf (s.drop i)

/-- Where the inside of a block begins, behind the first opener, and
where it ends, at the first closer from there on. -/
def span? (s : List Char) : Option (Nat × Nat) :=
  match firstFrom? opener 0 s with
  | none => none
  | some i => (firstFrom? closer (i + 3) s).map fun j => (i + 3, j)

section Positions

variable {phrase s : List Char} (hne : phrase ≠ []) {start i : Nat}

include hne

theorem length_of_prefix_drop (h : phrase <+: s.drop i) : i + phrase.length ≤ s.length := by
  have hlength := h.length_le
  have hpos := List.length_pos_iff.mpr hne
  rw [List.length_drop] at hlength
  omega

theorem firstFrom?_eq_some_iff :
    firstFrom? phrase start s = some i
      ↔ start ≤ i ∧ phrase <+: s.drop i
        ∧ ∀ k, start ≤ k → k < i → ¬ phrase <+: s.drop k := by
  unfold firstFrom?
  rw [List.find?_range_eq_some]
  simp only [Bool.and_eq_true, decide_eq_true_eq, List.isPrefixOf_iff_prefix, List.mem_range,
    Bool.not_eq_true', Bool.and_eq_false_iff, decide_eq_false_iff_not]
  constructor
  · intro ⟨⟨hstart, hi⟩, _, hfirst⟩
    refine ⟨hstart, hi, fun k hstart hk hphrase => ?_⟩
    rcases hfirst k hk with hk | hk
    · exact hk hstart
    · rw [List.isPrefixOf_iff_prefix.mpr hphrase] at hk
      cases hk
  · intro ⟨hstart, hi, hfirst⟩
    have hlength := length_of_prefix_drop hne hi
    have hpos := List.length_pos_iff.mpr hne
    refine ⟨⟨hstart, hi⟩, by omega, fun k hk => ?_⟩
    by_cases hk' : start ≤ k
    · refine Or.inr ?_
      rw [← Bool.not_eq_true, List.isPrefixOf_iff_prefix]
      exact hfirst k hk' hk
    · exact Or.inl hk'

theorem firstFrom?_eq_none_iff :
    firstFrom? phrase start s = none ↔ ∀ k, start ≤ k → ¬ phrase <+: s.drop k := by
  unfold firstFrom?
  rw [List.find?_eq_none]
  simp only [Bool.and_eq_true, decide_eq_true_eq, List.isPrefixOf_iff_prefix, List.mem_range]
  constructor
  · intro h k hstart hphrase
    have hlength := length_of_prefix_drop hne hphrase
    have hpos := List.length_pos_iff.mpr hne
    exact h k (by omega) ⟨hstart, hphrase⟩
  · intro h k _ hk
    exact h k hk.1 hk.2

/-- A cut behind a start falls at the first position from there on. -/
theorem cutPhrase_drop (h : firstFrom? phrase start s = some i) :
    cutPhrase phrase (s.drop start)
      = (s.extract start i, some (s.drop (i + phrase.length))) := by
  obtain ⟨hstart, hi, hfirst⟩ := (firstFrom?_eq_some_iff hne).mp h
  have hat : phrase <+: (s.drop start).drop (i - start) := by
    rw [List.drop_drop, Nat.add_sub_cancel' hstart]
    exact hi
  have hbefore : ∀ k, k < i - start → ¬ phrase <+: (s.drop start).drop k := by
    intro k hk
    rw [List.drop_drop]
    exact hfirst (start + k) (by omega) (by omega)
  rw [cutPhrase_of_first hat hbefore, List.extract_eq_take_drop, List.drop_drop]
  congr 3
  omega

/-- There is no cut behind a start if the phrase stands nowhere from
there on. -/
theorem not_infix_drop (h : firstFrom? phrase start s = none) : ¬ phrase <:+: s.drop start := by
  intro hinfix
  obtain ⟨k, hk⟩ := infix_iff_exists_drop.mp hinfix
  rw [List.drop_drop] at hk
  exact (firstFrom?_eq_none_iff hne).mp h (start + k) (by omega) hk

/-- More text at the end does not move a first position. -/
theorem firstFrom?_append (h : firstFrom? phrase start s = some i) (t : List Char) :
    firstFrom? phrase start (s ++ t) = some i := by
  obtain ⟨hstart, hi, hfirst⟩ := (firstFrom?_eq_some_iff hne).mp h
  have hlength := length_of_prefix_drop hne hi
  rw [firstFrom?_eq_some_iff hne]
  refine ⟨hstart, ?_, fun k hstart hk hphrase => hfirst k hstart hk ?_⟩
  · rw [List.drop_append_of_le_length (by omega)]
    exact hi.trans (List.prefix_append _ t)
  · rw [List.drop_append_of_le_length (by omega)] at hphrase
    refine List.prefix_of_prefix_length_le hphrase (List.prefix_append _ t) ?_
    rw [List.length_drop]
    omega

end Positions

theorem opener_ne : opener ≠ [] := by decide

theorem closer_ne : closer ≠ [] := by decide

/-- The block stands at its positions. -/
theorem body?_eq_span (s : List Char) :
    body? s = (span? s).map fun p => trim (s.extract p.1 p.2) := by
  rw [body?_eq_bind]
  unfold span?
  cases hopen : firstFrom? opener 0 s with
  | none =>
      have hnone : ¬ opener <:+: s := not_infix_drop opener_ne hopen
      rw [ cutPhrase_of_not_infix hnone]
      rfl
  | some i =>
      have hcut := cutPhrase_drop opener_ne hopen
      rw [List.drop_zero] at hcut
      rw [hcut]
      show (closed? (s.drop (i + 3))).map trim = _
      dsimp only
      cases hclose : firstFrom? closer (i + 3) s with
      | none =>
          rw [closed?_eq_none_iff.mpr (not_infix_drop closer_ne hclose)]
          rfl
      | some j =>
          rw [closed?, cutPhrase_drop closer_ne hclose]
          rfl

theorem span?_eq_some_iff {s : List Char} {a b : Nat} :
    span? s = some (a, b)
      ↔ ∃ i, firstFrom? opener 0 s = some i ∧ i + 3 = a ∧ firstFrom? closer a s = some b := by
  unfold span?
  cases firstFrom? opener 0 s with
  | none => simp
  | some i =>
      simp only [Option.map_eq_some_iff, Prod.mk.injEq, Option.some.injEq, exists_eq_left']
      constructor
      · intro ⟨j, hclose, ha, hb⟩
        rw [← ha, ← hb]
        exact ⟨rfl, hclose⟩
      · intro ⟨ha, hclose⟩
        rw [← ha] at hclose
        exact ⟨b, hclose, ha, rfl⟩

/-- There is a block if a closer follows any opener at all. It need not
be the first opener: the closer follows that one, too. -/
theorem isSome_span?_iff {s : List Char} :
    (span? s).isSome ↔ ∃ i j, opener <+: s.drop i ∧ i + 3 ≤ j ∧ closer <+: s.drop j := by
  rw [Option.isSome_iff_exists]
  constructor
  · intro ⟨⟨a, b⟩, hspan⟩
    obtain ⟨i, hopen, ha, hclose⟩ := span?_eq_some_iff.mp hspan
    obtain ⟨-, hi, -⟩ := (firstFrom?_eq_some_iff opener_ne).mp hopen
    obtain ⟨hab, hb, -⟩ := (firstFrom?_eq_some_iff closer_ne).mp hclose
    exact ⟨i, b, hi, by omega, hb⟩
  · intro ⟨i, j, hi, hij, hj⟩
    cases hopen : firstFrom? opener 0 s with
    | none => exact absurd hi ((firstFrom?_eq_none_iff opener_ne).mp hopen i (Nat.zero_le i))
    | some k =>
        obtain ⟨-, -, hfirst⟩ := (firstFrom?_eq_some_iff opener_ne).mp hopen
        have hki : k ≤ i := by
          by_contra hlt
          exact hfirst i (Nat.zero_le i) (by omega) hi
        cases hclose : firstFrom? closer (k + 3) s with
        | none => exact absurd hj ((firstFrom?_eq_none_iff closer_ne).mp hclose j (by omega))
        | some b => exact ⟨(k + 3, b), span?_eq_some_iff.mpr ⟨k, hopen, rfl, hclose⟩⟩

/-- What follows a block does not matter: positions are counted from the
front. -/
theorem body?_append_right {s : List Char} (h : (span? s).isSome) (t : List Char) :
    body? (s ++ t) = body? s := by
  obtain ⟨⟨a, b⟩, hspan⟩ := Option.isSome_iff_exists.mp h
  obtain ⟨i, hopen, ha, hclose⟩ := span?_eq_some_iff.mp hspan
  have hspan' : span? (s ++ t) = some (a, b) :=
    span?_eq_some_iff.mpr
      ⟨i, firstFrom?_append opener_ne hopen t, ha, firstFrom?_append closer_ne hclose t⟩
  obtain ⟨hab, hb, -⟩ := (firstFrom?_eq_some_iff closer_ne).mp hclose
  have hlength := length_of_prefix_drop closer_ne hb
  have hextract : (s ++ t).extract a b = s.extract a b := by
    rw [List.extract_eq_take_drop, List.extract_eq_take_drop,
      List.drop_append_of_le_length (by omega), List.take_append_of_le_length]
    rw [List.length_drop]
    omega
  rw [body?_eq_span, body?_eq_span, hspan, hspan', Option.map_some, hextract, Option.map_some]

-- ========================================================== the search

/-- What follows a phrase that stands at the head of a text. -/
def afterPhrase (phrase s : List Char) : List (List Char) :=
  if phrase.isPrefixOf s then [s.drop phrase.length] else []

/-- What can follow white space at the head of a text, the most white
space first. -/
def afterBlanks : List Char → List (List Char)
  | [] => [[]]
  | c :: r => if isBlank c then afterBlanks r ++ [c :: r] else [c :: r]

/-- The ways to divide a text, the shortest first part first. -/
def divisions : List Char → List (List Char × List Char)
  | [] => [([], [])]
  | c :: r => ([], c :: r) :: (divisions r).map fun d => (c :: d.1, d.2)

/-- The texts that can be read up to white space and a closer. -/
def readingsUpTo (s : List Char) : List (List Char) :=
  (divisions s).flatMap fun d =>
    ((afterBlanks d.2).flatMap (afterPhrase closer)).map fun _ => d.1

/-- The texts that can be read as the inside of a block, in the order in
which a search that goes back comes upon them. -/
def readings (s : List Char) : List (List Char) :=
  s.tails.flatMap fun t =>
    ((afterPhrase opener t).flatMap afterBlanks).flatMap readingsUpTo

/-- A closer does not begin with white space. -/
theorem closer_not_isPrefixOf {c : Char} (h : isBlank c = true) (r : List Char) :
    closer.isPrefixOf (c :: r) = false := by
  have hasterisk : isBlank '*' = false := by decide
  rw [← Bool.not_eq_true, List.isPrefixOf_iff_prefix]
  intro hcloser
  obtain ⟨hc, -⟩ := List.cons_prefix_cons.mp (show ['*', '/'] <+: c :: r from hcloser)
  rw [← hc, hasterisk] at h
  cases h

/-- The white space before a closer is read in one way only. -/
theorem flatMap_afterBlanks (s : List Char) :
    (afterBlanks s).flatMap (afterPhrase closer) = afterPhrase closer (trimLeft s) := by
  induction s with
  | nil => rfl
  | cons c r ih =>
      rw [afterBlanks]
      cases hc : isBlank c with
      | true =>
          have hrest : afterPhrase closer (c :: r) = [] := by
            rw [afterPhrase, closer_not_isPrefixOf hc]
            rfl
          rw [if_pos rfl, List.flatMap_append, ih, List.flatMap_singleton, hrest,
            List.append_nil, trimLeft_cons_of_blank hc]
      | false => simp [trimLeft_cons_of_not_blank hc]

/-- The first reading of a text is empty if only white space stands
before a closer, and else begins with its first character. -/
theorem head?_readingsUpTo_cons (c : Char) (r : List Char) :
    (readingsUpTo (c :: r)).head?
      = if closer.isPrefixOf (trimLeft (c :: r)) then some []
        else (readingsUpTo r).head?.map (c :: ·) := by
  have htail : ((divisions r).map fun d => (c :: d.1, d.2)).flatMap (fun d =>
        ((afterBlanks d.2).flatMap (afterPhrase closer)).map fun _ => d.1)
      = (readingsUpTo r).map (c :: ·) := by
    rw [readingsUpTo, List.flatMap_map, List.map_flatMap]
    simp only [List.map_map]
    rfl
  rw [readingsUpTo, divisions, List.flatMap_cons, htail, flatMap_afterBlanks, afterPhrase]
  split
  · rfl
  · rw [List.map_nil, List.nil_append, List.head?_map]

/-- If white space and a closer come first, the first reading is
empty. -/
theorem head?_readingsUpTo_of_blank {s : List Char} (h : closer <+: trimLeft s) :
    (readingsUpTo s).head? = some [] := by
  cases s with
  | nil => exact absurd h (by decide)
  | cons c r => rw [head?_readingsUpTo_cons, if_pos (List.isPrefixOf_iff_prefix.mpr h)]

/-- White space and then the first closer: a closer is all that is left
when white space is dropped. -/
theorem prefix_trimLeft_of_closed? {s a : List Char} (h : closed? s = some a)
    (ha : allBlank a = true) : closer <+: trimLeft s := by
  unfold closed? at h
  obtain ⟨b, hb, hcut⟩ := Option.map_eq_some_iff.mp h
  have hs := append_of_cutPhrase (Prod.ext hcut hb)
  have hasterisk : isBlank '*' = false := by decide
  rw [hs, List.append_assoc, trimLeft_blank_append ha]
  show closer <+: trimLeft ('*' :: '/' :: b)
  rw [trimLeft_cons_of_not_blank hasterisk]
  exact List.prefix_append closer b

/-- The first reading is the text before the first closer, without the
white space at its end. -/
theorem head?_readingsUpTo (s : List Char) :
    (readingsUpTo s).head? = (closed? s).map trimRight := by
  induction s with
  | nil => rfl
  | cons c r ih =>
      rw [head?_readingsUpTo_cons, closed?_cons]
      by_cases hhead : closer <+: c :: r
      · -- a closer comes first, so there is nothing to read
        have hc : isBlank c = false := by
          cases hc : isBlank c with
          | false => rfl
          | true =>
              rw [← List.isPrefixOf_iff_prefix, closer_not_isPrefixOf hc] at hhead
              cases hhead
        rw [trimLeft_cons_of_not_blank hc, if_pos (List.isPrefixOf_iff_prefix.mpr hhead),
          if_pos (List.isPrefixOf_iff_prefix.mpr hhead)]
        rfl
      rw [if_neg (show ¬ closer.isPrefixOf (c :: r) = true by rwa [List.isPrefixOf_iff_prefix])]
      by_cases hblank : closer <+: trimLeft (c :: r)
      · -- `c` belongs to the white space before the closer
        have hc : isBlank c = true := by
          cases hc : isBlank c with
          | true => rfl
          | false =>
              rw [trimLeft_cons_of_not_blank hc] at hblank
              exact absurd hblank hhead
        rw [if_pos (List.isPrefixOf_iff_prefix.mpr hblank)]
        rw [trimLeft_cons_of_blank hc] at hblank
        rw [head?_readingsUpTo_of_blank hblank] at ih
        obtain ⟨inside, hinside, hnil⟩ := Option.map_eq_some_iff.mp ih.symm
        rw [hinside]
        show some [] = some (trimRight (c :: inside))
        rw [trimRight_cons, if_pos hnil, if_pos hc]
      · -- `c` is read, and with it all white space behind it
        rw [if_neg (show ¬ closer.isPrefixOf (trimLeft (c :: r)) = true by
          rwa [List.isPrefixOf_iff_prefix]), ih]
        cases hinside : closed? r with
        | none => rfl
        | some inside =>
            show some (c :: trimRight inside) = some (trimRight (c :: inside))
            rw [trimRight_cons]
            by_cases hnil : trimRight inside = []
            · have hc : isBlank c = false := by
                cases hc : isBlank c with
                | false => rfl
                | true =>
                    rw [trimLeft_cons_of_blank hc] at hblank
                    exact absurd
                      (prefix_trimLeft_of_closed? hinside (trimRight_eq_nil_iff.mp hnil)) hblank
              rw [if_pos hnil, hnil, hc]
              rfl
            · rw [if_neg hnil]

/-- Behind an opener, the first reading is all that stands before the
first closer, trimmed: with all white space dropped at its front there is
a reading if there is any. -/
theorem head?_flatMap_afterBlanks (s : List Char) :
    ((afterBlanks s).flatMap readingsUpTo).head? = (closed? s).map trim := by
  induction s with
  | nil => rfl
  | cons c r ih =>
      rw [afterBlanks]
      cases hc : isBlank c with
      | true =>
          rw [if_pos rfl, List.flatMap_append, List.head?_append, ih, List.flatMap_singleton,
            head?_readingsUpTo, closed?_cons, closer_not_isPrefixOf hc]
          cases closed? r with
          | none => rfl
          | some inside =>
              show some (trim inside) = some (trim (c :: inside))
              rw [trim, trim, trimLeft_cons_of_blank hc]
      | false =>
          have htrim : ∀ inside, closed? (c :: r) = some inside →
              trimRight inside = trim inside := by
            intro inside hinside
            rw [closed?_cons] at hinside
            split at hinside
            · cases hinside
              rfl
            · obtain ⟨rest, -, rfl⟩ := Option.map_eq_some_iff.mp hinside
              rw [trim, trimLeft_cons_of_not_blank hc]
          rw [if_neg (by decide), List.flatMap_singleton, head?_readingsUpTo]
          exact Option.map_congr htrim

/-- The search comes upon the block first. -/
theorem body?_eq_head?_readings (s : List Char) : body? s = (readings s).head? := by
  induction s with
  | nil => rfl
  | cons c r ih =>
      have hcons : readings (c :: r)
          = ((afterPhrase opener (c :: r)).flatMap afterBlanks).flatMap readingsUpTo
            ++ readings r := by
        rw [readings, List.tails_cons, List.flatMap_cons]
        rfl
      rw [hcons, List.head?_append, body?_cons, ← ih, afterPhrase]
      split
      case isFalse => rfl
      case isTrue =>
        rw [List.flatMap_singleton, head?_flatMap_afterBlanks]
        show (closed? (r.drop 2)).map trim = ((closed? (r.drop 2)).map trim).or (body? r)
        cases hclosed : closed? (r.drop 2) with
        | some inside => rfl
        | none =>
            -- no later opener has a closer either
            cases hlater : body? r with
            | none => rfl
            | some b =>
                have hsuffix : r.drop 3 <:+ r.drop 2 := List.drop_suffix_drop_left r (by omega)
                exact absurd ((infix_of_body? hlater).trans hsuffix.isInfix)
                  (closed?_eq_none_iff.mp hclosed)

-- ===================================================== the closed form

/-- A line without white space at its ends, then without one asterisk at
its head, and without white space again. -/
def bareLine (line : List Char) : List Char :=
  trim (if (trim line).head? = some '*' then (trim line).tail else trim line)

theorem cleanLine_eq_bareLine (line : List Char) : cleanLine line = bareLine line := by
  unfold cleanLine bareLine
  have hagain : trim (trim line) = trim line := trimmed_trim line
  split
  case h_1 rest heq => rw [heq]; rfl
  case h_2 hplain =>
    have hhead : (trim line).head? ≠ some '*' := by
      intro hhead
      obtain ⟨rest, hrest⟩ := List.head?_eq_some_iff.mp hhead
      exact hplain rest hrest
    rw [if_neg hhead, hagain]

/-- The text of a block by its positions: the bare lines between them. -/
def textAt (s : List Char) : Option (Nat × Nat) → List Char
  | none => []
  | some (a, b) => ['\n'].intercalate (((trim (s.extract a b)).splitOn '\n').map bareLine)

theorem cleanLines_congr {s t : List Char} (h : body? s = body? t) :
    cleanLines s = cleanLines t := by
  unfold cleanLines
  rw [h]

theorem join_cleanLines (s : List Char) : join ['\n'] (cleanLines s) = textAt s (span? s) := by
  unfold cleanLines
  rw [body?_eq_span]
  cases span? s with
  | none => rfl
  | some p =>
      show join ['\n'] ((lines (trim (s.extract p.1 p.2))).map cleanLine) = _
      rw [lines, pieces_eq_splitOn, List.map_congr_left fun line _ => cleanLine_eq_bareLine line]
      rfl

end DocBlock

open DocBlock

/-- The documentation in a source is a matter of its block alone. -/
theorem DocComment.ofSource?_congr {s t : String} (h : body? s.toList = body? t.toList) :
    ofSource? s = ofSource? t := by
  unfold ofSource? DocBlock.text
  rw [cleanLines_congr h]

/-- The text of a block has a closed form: with `i` the first position of
an opener and `j` the first one from `i + 3` on of a closer, it is made of
the bare lines between `i + 3` and `j`, and empty if there are no such
positions. The same block is the first that a search with backtracking
comes upon, and with a block in a source nothing behind it matters. -/
theorem DocBlock.text_closedForm (source : String) :
    DocBlock.text source = String.ofList (textAt source.toList (span? source.toList))
    ∧ body? source.toList = (readings source.toList).head?
    ∧ ∀ more, (span? source.toList).isSome →
      DocComment.ofSource? (source ++ more) = DocComment.ofSource? source := by
  refine ⟨?_, body?_eq_head?_readings _, ?_⟩
  · unfold DocBlock.text
    rw [join_cleanLines]
  · intro more hspan
    apply DocComment.ofSource?_congr
    rw [String.toList_append]
    exact body?_append_right hspan _

/-- A closer in front of the block, one that shares its asterisk with the
opener, one with an asterisk of the last line before it, and a second
block behind. -/
theorem DocBlock.text_closedForm_overlapping :
    span? "*//**/\n * @summary x\r\n * * @tag y **/".toList = some (5, 35)
      ∧ DocBlock.text "*//**/\n * @summary x\r\n * * @tag y **/" = "/\n@summary x\n* @tag y *"
      ∧ DocComment.ofSource? ("*//**/\n * @summary x\r\n * * @tag y **/" ++ "/** @tag z */")
        = some { summary := "x" } := by
  have hspan : span? "*//**/\n * @summary x\r\n * * @tag y **/".toList = some (5, 35) := by
    decide +kernel
  obtain ⟨htext, -, hmore⟩ := text_closedForm "*//**/\n * @summary x\r\n * * @tag y **/"
  refine ⟨hspan, ?_, ?_⟩
  · rw [htext, hspan]
    decide +kernel
  · rw [hmore _ (by rw [hspan]; rfl)]
    decide +kernel

end KbDocs
