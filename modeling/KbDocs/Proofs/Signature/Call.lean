/-
Reading a `parm` call: the argument text between its parentheses, and
the parameter that one segment of it declares.

Both readers get a declarative form. An argument text is whatever stands
up to the first closing parenthesis, on one line
(`upToParen_eq_some_iff`); a segment declares a parameter exactly if it
is a direction, a colon, an ampersand and a name, with white space where
the rule allows it (`segmentParameter?_eq_some_iff`).

# Segments and their normal forms

Normalising a segment does not change the parameter it declares
(`segmentParameter?_normalSegment`). The two directions are different in
kind. A declared parameter is carried forward through the rewriting,
which leaves its name alone as long as that holds no colon. A segment
that declares none is safe from the other side: a parameter found in the
normal form is traced back, pass by pass, to the place in the source
that declares it.
-/
import KbDocs.Proofs.Signature.Normal

namespace KbDocs.ParmRule

open KbDocs.Text

-- =========================================================== the call

/-- The text up to a closing parenthesis holds neither that nor a line
feed. -/
theorem upToParen_eq_some_iff {s a : List Char} :
    upToParen s = some a
      ↔ (')' ∉ a ∧ '\n' ∉ a) ∧ ∃ t, s = a ++ ')' :: t := by
  induction s generalizing a with
  | nil => simp [upToParen]
  | cons c r ih =>
      rw [upToParen]
      by_cases hparen : c = ')'
      · subst hparen
        rw [if_pos rfl]
        constructor
        · intro h
          cases h
          exact ⟨⟨List.not_mem_nil, List.not_mem_nil⟩, r, rfl⟩
        · rintro ⟨⟨hparen, -⟩, t, ht⟩
          cases a with
          | nil => rfl
          | cons d a =>
              obtain ⟨rfl, -⟩ := List.cons.inj ht
              exact absurd (List.mem_cons_self ..) hparen
      · rw [if_neg hparen]
        by_cases hline : c = '\n'
        · subst hline
          rw [if_pos rfl]
          constructor
          · intro h
            cases h
          · rintro ⟨⟨-, hline⟩, t, ht⟩
            cases a with
            | nil => cases ht
            | cons d a =>
                obtain ⟨rfl, -⟩ := List.cons.inj ht
                exact absurd (List.mem_cons_self ..) hline
        · rw [if_neg hline, Option.map_eq_some_iff]
          constructor
          · rintro ⟨a', ha', rfl⟩
            obtain ⟨⟨h1, h2⟩, t, rfl⟩ := ih.mp ha'
            refine ⟨⟨?_, ?_⟩, t, rfl⟩
            · rw [List.mem_cons, not_or]
              exact ⟨fun h => hparen h.symm, h1⟩
            · rw [List.mem_cons, not_or]
              exact ⟨fun h => hline h.symm, h2⟩
          · rintro ⟨⟨h1, h2⟩, t, ht⟩
            cases a with
            | nil =>
                obtain ⟨rfl, -⟩ := List.cons.inj ht
                exact absurd rfl hparen
            | cons d a =>
                rw [List.cons_append] at ht
                obtain ⟨rfl, rfl⟩ := List.cons.inj ht
                refine ⟨a, ih.mpr ⟨⟨?_, ?_⟩, t, rfl⟩, rfl⟩
                · exact fun h => h1 (List.mem_cons_of_mem c h)
                · exact fun h => h2 (List.mem_cons_of_mem c h)

/-- An argument text is on one line and holds no closing parenthesis. -/
theorem findCall?_arguments {s a : List Char} (h : findCall? s = some a) :
    ')' ∉ a ∧ '\n' ∉ a := by
  induction s with
  | nil => cases h
  | cons c r ih =>
      rw [findCall?] at h
      split at h
      case h_2 => exact ih h
      case h_1 a' hcall =>
        cases h
        rw [callHead?] at hcall
        split at hcall
        case h_1 => cases hcall
        case h_2 =>
          split at hcall
          case h_1 => exact (upToParen_eq_some_iff.mp hcall).1
          case h_2 => cases hcall

/-- A call that starts a text is the first one in it. -/
theorem findCall?_of_callHead? {s a : List Char} (h : callHead? s = some a) :
    findCall? s = some a := by
  cases s with
  | nil => cases h
  | cons c r => rw [findCall?, h]

/-- One line that is no comment stays as it is. -/
theorem dropCommentLines_line {s : List Char} (hline : '\n' ∉ s)
    (hcomment : isCommentLine s = false) : dropCommentLines s = s := by
  rw [dropCommentLines, lines, pieces_of_not_mem hline]
  simp [hcomment]

/-- The name that call texts of the rule itself begin with. -/
def keyword : List Char :=
  ['p', 'a', 'r', 'm']

/-- A call under the keyword, written on one line, is found with its
arguments. -/
theorem findCall?_keyword {a : List Char} (hparen : ')' ∉ a) (hline : '\n' ∉ a) :
    findCall? (dropCommentLines (keyword ++ '(' :: a ++ [')', ';'])) = some a := by
  have hdrop : dropCommentLines (keyword ++ '(' :: a ++ [')', ';'])
      = keyword ++ '(' :: a ++ [')', ';'] := by
    refine dropCommentLines_line ?_ ?_
    · simp [keyword, hline]
    · rw [isCommentLine, trim_eq_self]
      · rfl
      · intro c hc
        cases hc
        decide
      · intro c hc
        rw [List.getLast?_append] at hc
        cases hc
        decide
  have hcall : callHead? (keyword ++ '(' :: a ++ [')', ';']) = some a := by
    have hkey : keyword? "parm".toList (keyword ++ '(' :: a ++ [')', ';'])
        = some (keyword, '(' :: a ++ [')', ';']) := rfl
    rw [callHead?, hkey]
    simp only [List.cons_append]
    rw [trimLeft_cons_of_not_blank (by decide)]
    exact upToParen_eq_some_iff.mpr ⟨⟨hparen, hline⟩, [';'], rfl⟩
  rw [hdrop]
  exact findCall?_of_callHead? hcall

-- ======================================================= the segments

/-- A segment declares a parameter exactly if it is a direction, a colon,
an ampersand and a name. -/
theorem segmentParameter?_eq_some_iff {s : List Char} {p : Parameter} :
    segmentParameter? s = some p
      ↔ ∃ word w v c name, word ∈ spellings ∧ allBlank w = true
        ∧ allBlank v = true ∧ s = word ++ w ++ ':' :: (v ++ '&' :: c :: name)
        ∧ p = { name := String.ofList (trim (c :: name))
                direction := String.ofList (upper word) } := by
  rw [segmentParameter?]
  constructor
  · intro h
    split at h
    case h_1 => cases h
    case h_2 word rest hd =>
      obtain ⟨hword, w, hw, rfl⟩ := directionHead?_eq_some_iff.mp hd
      split at h
      case h_2 => cases h
      case h_1 c name hname =>
        cases h
        obtain ⟨v, hv, hrest⟩ := exists_trimLeft rest
        rw [hname] at hrest
        exact ⟨word, w, v, c, name, hword, hw, hv, by rw [← hrest], rfl⟩
  · rintro ⟨word, w, v, c, name, hword, hw, hv, rfl, rfl⟩
    have hd : directionHead? (word ++ w ++ ':' :: (v ++ '&' :: c :: name))
        = some (word, v ++ '&' :: c :: name) :=
      directionHead?_eq_some_iff.mpr ⟨hword, w, hw, rfl⟩
    rw [hd]
    simp only [trimLeft_blank_append hv,
      trimLeft_cons_of_not_blank (show isBlank '&' = false by decide)]

-- ============================================ through the rewriting

/-- A direction in lower case declares its parameter as it is. -/
theorem normalSegment_declaration {word w v tail : List Char}
    (hword : word ∈ spellings) (hw : allBlank w = true) (hv : allBlank v = true)
    (htail : ':' ∉ tail) :
    normalSegment (word ++ w ++ ':' :: (v ++ '&' :: tail))
      = lower word ++ ':' :: '&' :: tail := by
  have hcolon : ':' ∉ v ++ '&' :: tail := by
    simp [colon_not_mem_blank hv, htail]
  have hlower : ':' ∉ lower word := fun h =>
    (loweredLetter_facts ':' (mem_loweredLetters word hword ':' h)).2 rfl
  have hd : directionHead? (word ++ w ++ ':' :: (v ++ '&' :: tail))
      = some (word, v ++ '&' :: tail) :=
    directionHead?_eq_some_iff.mpr ⟨hword, w, hw, rfl⟩
  rw [normalSegment, lowerDirections_direction rfl hd,
    lowerDirections_of_no_colon hcolon, tightenColons_append_of_no_colon hlower,
    tightenColons_colon, tightenColons_of_no_colon hcolon, closeUp_ampersand hv]

/-- A declared parameter is still declared by the normal form, if its
name has no colon and its direction is one of the data model. -/
theorem segmentParameter?_normal {s : List Char} {p : Parameter}
    (h : segmentParameter? (trim s) = some p) (hname : ':' ∉ p.name.toList)
    (hdirection : p.direction ∈ directions) :
    segmentParameter? (trim (normalSegment s)) = some p := by
  obtain ⟨word, w, v, c, name, hword, hw, hv, htrim, rfl⟩ :=
    segmentParameter?_eq_some_iff.mp h
  rw [String.toList_ofList, mem_trim (by decide)] at hname
  have hdot : dotted ∉ word := fun hdot =>
    (lower_dotted word hword hdot).2 hdirection
  obtain ⟨hmem, -, hupper⟩ := lower_spelling word hword hdot
  obtain ⟨l, r, hl, hr, hs⟩ := exists_trim s
  -- the segment without the white space around it, in normal form
  have hnormal : normalSegment s
      = l ++ (lower word ++ ':' :: '&' :: c :: name) ++ r := by
    have htail : ':' ∉ (c :: name) ++ r := by
      rw [List.mem_append, not_or]
      exact ⟨hname, colon_not_mem_blank hr⟩
    have hsource : s = l ++ (word ++ w ++ ':' :: (v ++ '&' :: (c :: name ++ r))) := by
      rw [hs, htrim]
      simp
    rw [hsource, normalSegment_blank_append hl, normalSegment_declaration hword hw hv htail]
    simp
  have hends : trim (lower word ++ ':' :: '&' :: c :: name)
      = lower word ++ ':' :: '&' :: c :: name := by
    obtain ⟨d, t, hlower⟩ := exists_cons_of_lower word hword
    have hlast := (trimmed_iff.mp (trimmed_trim s)).2
    rw [htrim] at hlast
    refine trim_eq_self ?_ ?_
    · intro x hx
      rw [hlower] at hx
      cases hx
      exact (loweredLetter_facts d
        (mem_loweredLetters word hword d (by rw [hlower]; simp))).1
    · intro x hx
      refine hlast x ?_
      simpa [List.getLast?_append, List.getLast?_cons] using hx
  rw [hnormal, trim_blank_append_append hl hr, hends]
  refine segmentParameter?_eq_some_iff.mpr
    ⟨lower word, [], [], c, name, hmem, rfl, rfl, by simp, ?_⟩
  rw [hupper]

/-- An ampersand at the head of a normal segment stands there in the
source. -/
theorem normalSegment_eq_ampersand {s t : List Char}
    (h : normalSegment s = '&' :: t) : ∃ r, s = '&' :: r ∧ normalSegment r = t := by
  cases s with
  | nil =>
      rw [normalSegment, lowerDirections_nil] at h
      cases h
  | cons d r =>
      rw [normalSegment] at h
      cases hd : directionHead? (d :: r) with
      | none =>
          rw [lowerDirections_pass fun _ => hd] at h
          by_cases hcolon : d = ':'
          · rw [hcolon, tightenColons_colon] at h
            obtain ⟨hcon, -⟩ := List.cons.inj h
            exact absurd hcon (by decide)
          · rw [tightenColons_cons_of_ne hcolon] at h
            obtain ⟨rfl, htail⟩ := List.cons.inj h
            rw [lowerDirections_separated (by decide)] at htail
            exact ⟨r, rfl, htail⟩
      | some found =>
          obtain ⟨word, rest⟩ := found
          have hword := (directionHead?_eq_some_iff.mp hd).1
          obtain ⟨c, u, hlower⟩ := exists_cons_of_lower word hword
          have hletter := mem_loweredLetters word hword c (by rw [hlower]; simp)
          rw [lowerDirections_direction rfl hd, hlower, List.cons_append,
            tightenColons_cons_of_ne (loweredLetter_facts c hletter).2] at h
          obtain ⟨rfl, -⟩ := List.cons.inj h
          exact absurd hletter (by decide)

/-- A direction at the head of a normal segment goes back to one in the
source; what follows its colon is normal, too. -/
theorem directionHead?_of_normalSegment {s word rest : List Char}
    (h : directionHead? (normalSegment s) = some (word, rest)) :
    ∃ word' t, directionHead? s = some (word', t)
      ∧ trimLeft rest = normalSegment (trimLeft t) := by
  obtain ⟨t₁, hlowered⟩ := directionHead?_of_tightened h
  cases s with
  | nil =>
      rw [lowerDirections_nil] at hlowered
      cases hlowered
  | cons d r =>
      cases hd : directionHead? (d :: r) with
      | none =>
          rw [lowerDirections_pass fun _ => hd] at hlowered
          obtain ⟨t, ht⟩ := directionHead?_of_lowered hlowered
          rw [hd] at ht
          cases ht
      | some found =>
          obtain ⟨word', t⟩ := found
          refine ⟨word', t, rfl, ?_⟩
          have hword' := (directionHead?_eq_some_iff.mp hd).1
          rw [lowerDirections_direction rfl hd] at hlowered
          by_cases hdot : dotted ∈ word'
          · -- the dotted spelling in lower case is no direction
            rcases (lower_dotted word' hword' hdot).1 with hlower | hlower
            · rw [hlower] at hlowered
              cases hlowered
            · rw [hlower] at hlowered
              cases hlowered
          · obtain ⟨hmem, -, -⟩ := lower_spelling word' hword' hdot
            obtain ⟨hword, w, hw, heq⟩ := directionHead?_eq_some_iff.mp h
            rw [normalSegment, lowerDirections_direction rfl hd,
              tightenColons_append_of_no_colon (colon_not_mem_spelling hmem),
              tightenColons_colon, lowerDirections_separated (by decide),
              ← normalSegment] at heq
            have heq' : lower word' ++ [] ++ ':' :: closeUp (normalSegment t)
                = word ++ w ++ ':' :: rest := by
              rw [List.append_nil]
              exact heq
            obtain ⟨-, -, hrest⟩ := direction_unique hmem hword allBlank_nil hw heq'
            rw [← hrest, trimLeft_closeUp, normalSegment_trimLeft]

/-- A parameter found in the normal form of a segment goes back to one
that the segment declares. -/
theorem segmentParameter?_of_normal {s : List Char} {q : Parameter}
    (h : segmentParameter? (trim (normalSegment s)) = some q) :
    ∃ p, segmentParameter? (trim s) = some p := by
  obtain ⟨word, w, v, c, name, hword, hw, hv, htrim, -⟩ :=
    segmentParameter?_eq_some_iff.mp h
  have hlast := (trimmed_iff.mp (trimmed_trim (normalSegment s))).2
  rw [htrim] at hlast
  rw [trim, ← normalSegment_trimLeft] at htrim
  obtain ⟨r, hr, hnormal⟩ := exists_trimRight (normalSegment (trimLeft s))
  rw [htrim] at hnormal
  -- back to the direction, then to the ampersand behind its colon
  have hd : directionHead? (normalSegment (trimLeft s))
      = some (word, v ++ '&' :: (c :: name ++ r)) :=
    directionHead?_eq_some_iff.mpr ⟨hword, w, hw, by rw [hnormal]; simp⟩
  obtain ⟨word', t, hsource, hrest⟩ := directionHead?_of_normalSegment hd
  rw [trimLeft_blank_append hv, trimLeft_cons_of_not_blank (by decide)] at hrest
  obtain ⟨tail, htail, hnormalTail⟩ := normalSegment_eq_ampersand hrest.symm
  obtain ⟨hword', w', hw', hs⟩ := directionHead?_eq_some_iff.mp hsource
  obtain ⟨v', hv', ht⟩ := exists_trimLeft t
  rw [htail] at ht
  -- the name is not blank, since the normal form of a blank text is blank
  have hvisible : allBlank tail = false := by
    cases hblank : allBlank tail with
    | false => rfl
    | true =>
        rw [normalSegment_of_no_colon (colon_not_mem_blank hblank)] at hnormalTail
        rw [hnormalTail, allBlank_append, Bool.and_eq_true] at hblank
        obtain ⟨x, hx⟩ : ∃ x, (c :: name).getLast? = some x :=
          ⟨_, List.getLast?_eq_some_getLast (by simp)⟩
        have hxblank := isBlank_of_mem hblank.1 (List.mem_of_getLast? hx)
        rw [hlast x (by simpa [List.getLast?_append, List.getLast?_cons] using hx)]
          at hxblank
        cases hxblank
  obtain ⟨d, u, hdu⟩ : ∃ d u, trimRight tail = d :: u := by
    refine List.exists_cons_of_ne_nil ?_
    rw [Ne, trimRight_eq_nil_iff, hvisible]
    decide
  refine ⟨_, segmentParameter?_eq_some_iff.mpr
    ⟨word', w', v', d, u, hword', hw', hv', ?_, rfl⟩⟩
  have hassoc : word' ++ w' ++ ':' :: (v' ++ '&' :: tail)
      = (word' ++ w' ++ ':' :: v') ++ '&' :: tail := by simp
  rw [trim, hs, ht, hassoc, trimRight_append_cons (by decide), hdu]
  simp

/-- Normalising a segment does not change what it declares. -/
theorem segmentParameter?_normalSegment {s : List Char}
    (h : ∀ p, segmentParameter? (trim s) = some p →
      ':' ∉ p.name.toList ∧ p.direction ∈ directions) :
    segmentParameter? (trim (normalSegment s)) = segmentParameter? (trim s) := by
  cases hs : segmentParameter? (trim s) with
  | some p =>
      obtain ⟨hname, hdirection⟩ := h p hs
      exact segmentParameter?_normal hs hname hdirection
  | none =>
      cases hn : segmentParameter? (trim (normalSegment s)) with
      | none => rfl
      | some q =>
          obtain ⟨p, hp⟩ := segmentParameter?_of_normal hn
          rw [hs] at hp
          cases hp

end KbDocs.ParmRule
