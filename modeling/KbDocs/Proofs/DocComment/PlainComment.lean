/-
Comments that are not documentation.

A comment `/*…*/` whose body does not begin with an asterisk is plain: it
opens no block of its own. The reader of blocks knows nothing of other
comments, though. It goes for the first opener, and that may begin in a
plain comment in three ways: within the body, at the end of the body when
`/*` stands there or nothing at all (the asterisk that closes the comment
then belongs to the opener, as in `/**/`), and at the slash that ends the
comment, when two asterisks follow.

A body that rules out the first two is `Sealed`. A sealed comment is read
as the slash at its end (`body?_plainComment`), so before a source that
does not begin with two asterisks it has no effect. Both conditions are
needed: once an opener begins in a comment, some source behind it is
misread (`exists_misread`), because a closer at its head ends the block
and hides whatever comes next.
-/
import KbDocs.Proofs.DocComment.Span

namespace KbDocs

open KbDocs.Text

namespace DocBlock

-- ======================================================== what is in front

/-- A text in which no opener begins can be left out. An opener is three
characters long, so two of what follows are enough to tell. -/
theorem body?_append_left {c s : List Char} (h : ¬ opener <:+: c ++ s.take 2) :
    body? (c ++ s) = body? s := by
  induction c with
  | nil => rfl
  | cons d c ih =>
      rw [List.cons_append, List.infix_cons_iff, not_or] at h
      have hhead : ¬ opener.isPrefixOf (d :: (c ++ s)) = true := by
        rw [List.isPrefixOf_iff_prefix]
        intro hopener
        have hlength := hopener.length_le
        have htake : d :: (c ++ s.take 2) <+: d :: (c ++ s) := by
          rw [List.cons_prefix_cons, List.prefix_append_right_inj]
          exact ⟨rfl, List.take_prefix 2 s⟩
        refine h.1 (List.prefix_of_prefix_length_le hopener htake ?_)
        simp only [List.length_cons, List.length_append, List.length_take] at hlength ⊢
        have hthree : opener.length = 3 := rfl
        omega
      rw [List.cons_append, body?_cons, if_neg hhead, ih h.2]

/-- Two asterisks. -/
def stars : List Char :=
  "**".toList

/-- A slash matters only in front of two asterisks. -/
theorem body?_slash {s : List Char} (h : ¬ stars <+: s) : body? ('/' :: s) = body? s := by
  have hhead : ¬ opener.isPrefixOf ('/' :: s) = true := by
    rw [List.isPrefixOf_iff_prefix]
    intro hopener
    exact h (List.cons_prefix_cons.mp (show '/' :: stars <+: '/' :: s from hopener)).2
  rw [body?_cons, if_neg hhead]

/-- A closer behind an opener makes a block. -/
theorem isSome_span?_append {a : List Char} (h : opener <:+: a) :
    (span? (a ++ closer)).isSome := by
  obtain ⟨k, hk⟩ := infix_iff_exists_drop.mp h
  have hlength : k + 3 ≤ a.length := length_of_prefix_drop opener_ne hk
  refine isSome_span?_iff.mpr ⟨k, a.length, ?_, hlength, ?_⟩
  · rw [List.drop_append_of_le_length (by omega)]
    exact hk.trans (List.prefix_append _ _)
  · rw [List.drop_left]

end DocBlock

namespace DocComment

open DocBlock

-- ====================================================== plain comments

/-- The comment with a body. -/
def plainComment (body : String) : String :=
  "/*" ++ body ++ "*/"

/-- The body of a comment that opens no block of its own. -/
structure Plain (body : String) : Prop where
  no_closer : ¬ closer <:+: body.toList
  no_asterisk : body.toList.head? ≠ some '*'

/-- No opener is in the comment with this body. -/
structure Sealed (body : String) : Prop where
  ne : body ≠ ""
  no_opener : ¬ opener <:+: body.toList
  no_start : ¬ "/*".toList <:+ body.toList

theorem toList_plainComment (body : String) :
    (plainComment body).toList = '/' :: '*' :: (body.toList ++ ['*'] ++ ['/']) := by
  simp [plainComment]

/-- An opener ends with an asterisk, behind a slash and another one. -/
theorem opener_infix_concat_iff {s : List Char} {c : Char} :
    opener <:+: s ++ [c] ↔ opener <:+: s ∨ c = '*' ∧ "/*".toList <:+ s := by
  have hsplit : opener = "/*".toList ++ ['*'] := rfl
  rw [List.infix_concat_iff, or_comm]
  refine or_congr_right ?_
  rw [hsplit, List.suffix_append_inj_of_length_eq (by simp)]
  simp [and_comm, eq_comm]

/-- The openers in a comment: those of its body, and one at its end or
its start. -/
theorem opener_infix_plainComment {body : String} (h : Plain body) :
    opener <:+: (plainComment body).toList ↔ ¬ Sealed body := by
  have hsealed : ¬ Sealed body ↔ body.toList = [] ∨ opener <:+: body.toList
      ∨ "/*".toList <:+ body.toList := by
    constructor
    · intro hopen
      by_contra hnone
      rw [not_or, not_or] at hnone
      refine hopen ⟨?_, hnone.2.1, hnone.2.2⟩
      intro hempty
      exact hnone.1 (by rw [hempty]; rfl)
    · intro hcases hsealed
      rcases hcases with hempty | hopener | hstart
      · exact hsealed.ne (String.toList_eq_nil_iff.mp hempty)
      · exact hsealed.no_opener hopener
      · exact hsealed.no_start hstart
  have hfront : opener <+: '/' :: '*' :: (body.toList ++ ['*'] ++ ['/']) ↔ body.toList = [] := by
    have hstar := h.no_asterisk
    cases hbody : body.toList with
    | nil => decide
    | cons c r =>
        rw [hbody] at hstar
        constructor
        · intro hopener
          have hthird : ['/', '*', '*'] <+: '/' :: '*' :: c :: (r ++ ['*'] ++ ['/']) := hopener
          have hc : '*' = c := by simpa using hthird
          exact absurd (by rw [hc]; rfl) hstar
        · intro hnil
          cases hnil
  have hasterisk : ¬ opener <+: '*' :: (body.toList ++ ['*'] ++ ['/']) := by
    intro hopener
    exact absurd (List.cons_prefix_cons.mp
      (show '/' :: stars <+: '*' :: (body.toList ++ ['*'] ++ ['/']) from hopener)).1 (by decide)
  rw [toList_plainComment, List.infix_cons_iff, List.infix_cons_iff, hfront,
    or_iff_right hasterisk, opener_infix_concat_iff, opener_infix_concat_iff, hsealed]
  simp

/-- A sealed comment is read as the slash at its end. -/
theorem body?_plainComment {body : String} (h : Plain body) (hsealed : Sealed body)
    (s : List Char) : body? ((plainComment body).toList ++ s) = body? ('/' :: s) := by
  have hnone : ¬ opener <:+: (plainComment body).toList := by
    rw [opener_infix_plainComment h]
    exact not_not_intro hsealed
  have hsplit : (plainComment body).toList = '/' :: '*' :: (body.toList ++ ['*']) ++ ['/'] := by
    rw [toList_plainComment]
    rfl
  rw [hsplit] at hnone ⊢
  rw [List.append_assoc]
  refine body?_append_left ?_
  show ¬ opener <:+: '/' :: '*' :: (body.toList ++ ['*']) ++ '/' :: s.take 1
  cases s with
  | nil => exact hnone
  | cons c s =>
      -- the slash at the end keeps an opener from reaching over it
      have hstart : ¬ "/*".toList <:+ '/' :: '*' :: (body.toList ++ ['*']) ++ ['/'] := by
        intro hsuffix
        have hends : ['/'] ++ ['*'] <:+ '/' :: '*' :: (body.toList ++ ['*']) ++ ['/'] := hsuffix
        rw [List.suffix_append_inj_of_length_eq (by simp)] at hends
        exact absurd hends.2 (by decide)
      show ¬ opener <:+: '/' :: '*' :: (body.toList ++ ['*']) ++ '/' :: [c]
      rw [List.append_cons, opener_infix_concat_iff, not_or]
      exact ⟨hnone, fun hc => hstart hc.2⟩

theorem ofSource?_of_sealed {body : String} (h : Plain body) (hsealed : Sealed body)
    (source : String) : ofSource? (plainComment body ++ source) = ofSource? ("/" ++ source) := by
  apply ofSource?_congr
  rw [String.toList_append, String.toList_append]
  exact body?_plainComment h hsealed _

/-- Where an opener begins in a comment, with or without the two
asterisks behind it, some source is misread. -/
theorem exists_misread {c p : String} (h : opener <:+: (c ++ p).toList)
    (hclosed : ofSource? (p ++ "*/") = none)
    (hnext : ofSource? (p ++ "*/" ++ " /** @tag x */") ≠ none) :
    ∃ t, ofSource? (c ++ (p ++ "*/" ++ t)) ≠ ofSource? (p ++ "*/" ++ t) := by
  have hspan : (span? (c ++ (p ++ "*/")).toList).isSome := by
    rw [← String.append_assoc, String.toList_append]
    exact isSome_span?_append h
  by_cases hread : ofSource? (c ++ (p ++ "*/")) = none
  · -- the block in the comment says nothing, and hides the next one
    refine ⟨" /** @tag x */", ?_⟩
    have hsame : ofSource? (c ++ (p ++ "*/" ++ " /** @tag x */"))
        = ofSource? (c ++ (p ++ "*/")) := by
      rw [← String.append_assoc]
      apply ofSource?_congr
      rw [String.toList_append]
      exact body?_append_right hspan _
    rw [hsame, hread]
    exact hnext.symm
  · -- the block in the comment says something, and the source nothing
    refine ⟨"", ?_⟩
    rw [String.append_empty, hclosed]
    exact hread

/-- Put before sources that do not begin with two asterisks, a plain
comment has no effect exactly if it is sealed: if its body is not empty,
holds no opener and does not end with `/*`. A sealed comment is read as
the slash at its end, and no comment can be put before every source. -/
theorem ofSource?_plainComment_iff {body : String} (h : Plain body) :
    ((∀ source : String, ¬ stars <+: source.toList →
        ofSource? (plainComment body ++ source) = ofSource? source) ↔ Sealed body)
    ∧ (Sealed body →
      ∀ source, ofSource? (plainComment body ++ source) = ofSource? ("/" ++ source))
    ∧ ∃ source : String, stars <+: source.toList
      ∧ ofSource? (plainComment body ++ source) ≠ ofSource? source := by
  refine ⟨⟨?_, ?_⟩, ofSource?_of_sealed h, ?_⟩
  · intro hall
    by_contra hopen
    have hopener : opener <:+: (plainComment body ++ "").toList := by
      rw [String.append_empty]
      exact (opener_infix_plainComment h).mpr hopen
    obtain ⟨t, ht⟩ := exists_misread hopener (by decide) (by decide)
    refine ht (hall _ ?_)
    intro hstars
    rw [String.toList_append] at hstars
    have hsecond : ['*', '*'] <+: '*' :: '/' :: t.toList := hstars
    simp at hsecond
  · intro hsealed source hstars
    rw [ofSource?_of_sealed h hsealed]
    apply ofSource?_congr
    rw [String.toList_append]
    exact body?_slash hstars
  · have hopener : opener <:+: (plainComment body ++ "**").toList := by
      rw [String.toList_append, toList_plainComment]
      exact ⟨'/' :: '*' :: (body.toList ++ ['*']), [], by simp [opener]⟩
    obtain ⟨t, ht⟩ := exists_misread hopener (by decide) (by decide)
    refine ⟨_, ?_, ht⟩
    rw [String.append_assoc, String.toList_append]
    exact List.prefix_append _ _

/-- A body that holds a closer's characters, an opener's and the start of
a comment, each pulled apart, has no effect on the block behind it. -/
theorem ofSource?_plainComment_spaced :
    ofSource? (plainComment " / ** /* /* /" ++ "*/ /** @tag x */")
      = some { tags := ["x"] } := by
  have hplain : Plain " / ** /* /* /" := ⟨by decide, by decide⟩
  have hsealed : Sealed " / ** /* /* /" := ⟨by decide, by decide, by decide⟩
  rw [(ofSource?_plainComment_iff hplain).1.mpr hsealed _ (by decide)]
  decide

/-- An empty comment is taken for an opener. Behind it, all up to the next
closer is read as a block, and so code and another comment are. -/
theorem ofSource?_plainComment_empty :
    Plain "" ∧ ofSource? (plainComment "" ++ "\n&A = 1\n/*\n@summary no\n*/")
        = some { summary := "no" }
      ∧ ofSource? "\n&A = 1\n/*\n@summary no\n*/" = none :=
  ⟨⟨by decide, by decide⟩, by decide +kernel, by decide +kernel⟩

end DocComment

end KbDocs
