/-
What markup leaves of a text.

Text for the screen is marked up, whoever wrote it. Tags vanish, a
backslash before a bracket vanishes, and plain text is shown in some way
that adds no brackets and no backslashes to it. So whatever the markup
acts on, it leaves fewer of these than there were
(`marks_left_of_tag`), and a text is left as it is exactly if there is
nothing in it to act on, that is, if it is `Literal` (`left_eq_iff`).

# Tags

Whether a text can be printed at all depends on its `tags`. A text in a
style stands between two tags (`styled`); without tags of its own it adds
just these (`tags_styled`).
-/
import KbDocs.Proofs.Console.Scan

namespace KbDocs.Console

-- ======================================================== what is left

/-- What is left of a piece, given what is shown of plain text. -/
def Piece.left (shown : List Char → List Char) : Piece → List Char
  | .text s => shown s
  | .tag _ => []

/-- What is left of some pieces. -/
def left (shown : List Char → List Char) (ps : List Piece) : List Char :=
  ps.flatMap (Piece.left shown)

theorem left_append (shown : List Char → List Char) (ps qs : List Piece) :
    left shown (ps ++ qs) = left shown ps ++ left shown qs :=
  List.flatMap_append ..

theorem left_cons (shown : List Char → List Char) (p : Piece) (ps : List Piece) :
    left shown (p :: ps) = p.left shown ++ left shown ps :=
  List.flatMap_cons ..

-- ==================================================== texts without tags

/-- A backslash is left out wherever it stands before a bracket. -/
theorem unescape_eq_self_iff {s : List Char} :
    unescape s = s ↔ ¬ ['\\', '['] <:+: s := by
  fun_induction unescape s with
  | case1 r ih =>
      have hne : '[' :: unescape r ≠ '\\' :: '[' :: r := by simp
      have hinfix : ['\\', '['] <:+: '\\' :: '[' :: r := ⟨[], r, rfl⟩
      simp [hne, hinfix]
  | case2 c r hne ih =>
      have hstart : ¬ ['\\', '['] <+: c :: r := by
        rintro ⟨t, ht⟩
        cases ht
        exact hne t rfl rfl
      rw [List.infix_cons_iff, List.cons.injEq, ih]
      simp [hstart]
  | case3 => simp

/-- A text without a tag in it. -/
def Untagged (s : List Char) : Prop :=
  ∀ t, t <:+ s → tagAt? t = none

theorem Untagged.unslashed {s : List Char} (h : Untagged s) :
    tagAt? (unslashed s) = none :=
  h _ (List.drop_suffix _ _)

theorem Untagged.tail {c : Char} {r : List Char} (h : Untagged (c :: r)) : Untagged r :=
  fun t ht => h t (ht.trans (List.suffix_cons c r))

theorem untagged_of_not_mem {s : List Char} (h : '[' ∉ s) : Untagged s := by
  intro t ht
  cases htag : tagAt? t with
  | none => rfl
  | some tag =>
      have hopen : '[' ∈ t := by
        rw [(tagAt?_eq_some_iff.mp htag).2]
        exact List.mem_cons_self
      exact absurd (ht.subset hopen) h

/-- A text without a tag is one piece. -/
theorem scan_of_untagged {s : List Char} (h : Untagged s) (plain : List Char) :
    scan plain s = [.text (unescape (plain ++ s))] := by
  induction s generalizing plain with
  | nil => rw [scan_nil, List.append_nil]
  | cons c r ih =>
      rw [scan_of_none plain h.unslashed, ih h.tail, List.append_assoc]
      rfl

-- =============================================================== marks

/-- The characters that markup is made of. -/
def isMark (c : Char) : Bool :=
  c == '[' || c == '\\'

/-- How many of them a text has. -/
def marks (s : List Char) : Nat :=
  s.countP isMark

theorem marks_append (s t : List Char) : marks (s ++ t) = marks s + marks t :=
  List.countP_append ..

theorem marks_cons (c : Char) (s : List Char) :
    marks (c :: s) = marks s + if isMark c then 1 else 0 :=
  List.countP_cons ..

theorem marks_slashes (n : Nat) : marks (List.replicate n '\\') = n := by
  simp [marks, isMark, List.countP_replicate]

theorem marks_unescape_le (s : List Char) : marks (unescape s) ≤ marks s := by
  fun_induction unescape s with
  | case1 r ih =>
      simp only [marks_cons] at ih ⊢
      omega
  | case2 c r _ ih =>
      simp only [marks_cons]
      omega
  | case3 => exact Nat.le_refl _

/-- A text that loses no mark by it loses nothing. -/
theorem unescape_of_marks {s : List Char} (h : marks s ≤ marks (unescape s)) :
    unescape s = s := by
  fun_induction unescape s with
  | case1 r ih =>
      have hle := marks_unescape_le r
      have hslash : isMark '\\' = true := rfl
      simp only [marks_cons, hslash, if_true] at h
      omega
  | case2 c r hne ih =>
      simp only [marks_cons, Nat.add_le_add_iff_right] at h
      rw [ih h]
  | case3 => rfl

/-- The marks of a text that begins with backslashes and a tag. -/
theorem marks_of_tag {s inside rest : List Char}
    (h : tagAt? (unslashed s) = some (inside, rest)) :
    marks s = (s.takeWhile (· == '\\')).length + 1 + marks inside + marks rest := by
  have hslashes : s.takeWhile (· == '\\')
      = List.replicate (s.takeWhile (· == '\\')).length '\\' := by
    refine List.eq_replicate_iff.mpr ⟨rfl, fun c hc => ?_⟩
    simpa using List.mem_takeWhile_imp hc
  have hstart : s.takeWhile (· == '\\') <+: s := List.takeWhile_prefix _
  have htag : unslashed s = '[' :: (inside ++ ']' :: rest) := (tagAt?_eq_some_iff.mp h).2
  have hopen : isMark '[' = true := rfl
  have hclose : isMark ']' = false := rfl
  calc marks s = marks (s.takeWhile (· == '\\')) + marks (unslashed s) := by
        rw [← marks_append, unslashed, ← List.prefix_append_drop hstart]
    _ = (s.takeWhile (· == '\\')).length + marks (unslashed s) := by
        rw [hslashes, marks_slashes, List.length_replicate]
    _ = _ := by
        rw [htag, marks_cons, marks_append, marks_cons, hopen, hclose]
        simp only [if_true, Bool.false_eq_true, if_false]
        omega

theorem length_rest_lt {s inside rest : List Char}
    (h : tagAt? (unslashed s) = some (inside, rest)) : rest.length < s.length := by
  have hlength := congrArg List.length (tagAt?_eq_some_iff.mp h).2
  have hle := length_unslashed_le s
  simp only [List.length_cons, List.length_append] at hlength
  omega

section Shown

variable {shown : List Char → List Char} (hshown : ∀ s, marks (shown s) ≤ marks s)

include hshown

/-- A tag leaves fewer marks than it had. -/
theorem marks_foundTag_lt (slashes : Nat) (inside : List Char) :
    marks (left shown (foundTag slashes inside)) < slashes + 1 + marks inside := by
  have hhalves := hshown (List.replicate (slashes / 2) '\\')
  rw [marks_slashes] at hhalves
  unfold foundTag
  split
  case isTrue hodd =>
    have hpos : slashes / 2 < slashes := by
      rw [beq_iff_eq] at hodd
      omega
    have htext := hshown ('[' :: inside ++ [']'])
    have hwhole : marks ('[' :: inside ++ [']']) = marks inside + 1 := by
      simp [marks, isMark]
    simp only [left, Piece.left, List.flatMap_cons, List.flatMap_nil, List.append_nil,
      marks_append]
    omega
  case isFalse =>
    simp only [left, Piece.left, List.flatMap_cons, List.flatMap_nil, List.append_nil]
    omega

/-- So a text with a tag leaves fewer marks than there were, if what is
behind the tag leaves no more. -/
theorem marks_left_of_tag {s inside rest : List Char}
    (h : tagAt? (unslashed s) = some (inside, rest))
    (hrest : marks (left shown (scan [] rest)) ≤ marks rest) (plain : List Char) :
    marks (left shown (scan plain s)) < marks plain + marks s := by
  have hmarks := marks_of_tag h
  have hplain := (hshown (unescape plain)).trans (marks_unescape_le plain)
  have hfound := marks_foundTag_lt hshown (s.takeWhile (· == '\\')).length inside
  rw [scan_of_tag plain h, left_cons, left_append, marks_append, marks_append]
  simp only [Piece.left]
  omega

/-- No text leaves more marks than it had. -/
theorem marks_left_le (plain s : List Char) :
    marks (left shown (scan plain s)) ≤ marks plain + marks s := by
  induction hn : s.length using Nat.strong_induction_on generalizing s plain with
  | h n ih =>
      cases htag : tagAt? (unslashed s) with
      | some tag =>
          obtain ⟨inside, rest⟩ := tag
          have hrest := ih rest.length (hn ▸ length_rest_lt htag) [] rest rfl
          have hnil : marks [] = 0 := rfl
          rw [hnil, Nat.zero_add] at hrest
          exact (marks_left_of_tag hshown htag hrest plain).le
      | none =>
          cases s with
          | nil =>
              have hplain := (hshown (unescape plain)).trans (marks_unescape_le plain)
              simpa [scan_nil, left, Piece.left, marks] using hplain
          | cons c r =>
              have hrest := ih r.length (by simp [← hn]) (plain ++ [c]) r rfl
              have hone : marks [c] + marks r = marks (c :: r) := by
                rw [← marks_append]
                rfl
              rw [scan_of_none plain htag]
              rw [marks_append] at hrest
              omega

/-- A text that leaves as many marks as there were has no tag in it. -/
theorem untagged_of_marks (plain : List Char) {s : List Char}
    (h : marks plain + marks s ≤ marks (left shown (scan plain s))) : Untagged s := by
  induction s generalizing plain with
  | nil =>
      intro t ht
      rw [List.suffix_nil.mp ht]
      rfl
  | cons c r ih =>
      cases htag : tagAt? (unslashed (c :: r)) with
      | some tag =>
          obtain ⟨inside, rest⟩ := tag
          have hrest := marks_left_le hshown [] rest
          have hnil : marks [] = 0 := rfl
          rw [hnil, Nat.zero_add] at hrest
          have hlt := marks_left_of_tag hshown htag hrest plain
          omega
      | none =>
          rw [scan_of_none plain htag] at h
          have hone : marks [c] + marks r = marks (c :: r) := by
            rw [← marks_append]
            rfl
          have hr : Untagged r := by
            refine ih (plain ++ [c]) ?_
            rw [marks_append]
            omega
          intro t ht
          rcases List.suffix_cons_iff.mp ht with rfl | ht
          · cases hfirst : tagAt? (c :: r) with
            | none => rfl
            | some tag =>
                -- a tag does not begin with a backslash
                obtain ⟨rfl, -⟩ := List.cons.inj (tagAt?_eq_some_iff.mp hfirst).2
                exact absurd (hfirst.symm.trans htag) (by simp)
          · exact hr t ht

end Shown

-- ======================================================= literal texts

/-- A text in which there is nothing for the markup to act on, and that is
shown as it is. -/
structure Literal (shown : List Char → List Char) (s : List Char) : Prop where
  untagged : ∀ inside, TagText inside → ¬ ('[' :: (inside ++ [']'])) <:+: s
  unescaped : ¬ ['\\', '['] <:+: s
  shown : shown s = s

theorem untagged_iff {s : List Char} :
    Untagged s ↔ ∀ inside, TagText inside → ¬ ('[' :: (inside ++ [']'])) <:+: s := by
  constructor
  · rintro h inside hinside ⟨pre, post, rfl⟩
    have hnone := h ('[' :: (inside ++ ']' :: post)) ⟨pre, by simp⟩
    rw [tagAt?_eq_some_iff.mpr ⟨hinside, rfl⟩] at hnone
    cases hnone
  · intro h t ht
    cases htag : tagAt? t with
    | none => rfl
    | some tag =>
        obtain ⟨inside, rest⟩ := tag
        obtain ⟨hinside, rfl⟩ := tagAt?_eq_some_iff.mp htag
        obtain ⟨pre, rfl⟩ := ht
        exact absurd ⟨pre, rest, by simp⟩ (h inside hinside)

theorem Literal.isUntagged {shown : List Char → List Char} {s : List Char}
    (h : Literal shown s) : Untagged s :=
  untagged_iff.mpr h.untagged

/-- A literal text is one piece, which is shown as it is. -/
theorem Literal.left_eq {shown : List Char → List Char} {s : List Char}
    (h : Literal shown s) : left shown (pieces s) = s := by
  rw [pieces_eq_scan, scan_of_untagged h.isUntagged, List.nil_append,
    unescape_eq_self_iff.mpr h.unescaped, left, List.flatMap_singleton, Piece.left, h.shown]

/-- What is left of a text is the text exactly if it is literal. -/
theorem left_eq_iff {shown : List Char → List Char} {s : List Char}
    (hshown : ∀ s, marks (shown s) ≤ marks s) :
    left shown (pieces s) = s ↔ Literal shown s := by
  refine ⟨fun h => ?_, Literal.left_eq⟩
  rw [pieces_eq_scan] at h
  have huntagged : Untagged s := untagged_of_marks hshown [] <| by
    have hnil : marks [] = 0 := rfl
    rw [h, hnil, Nat.zero_add]
  rw [scan_of_untagged huntagged, left, List.flatMap_singleton, Piece.left,
    List.nil_append] at h
  have hunescape : unescape s = s := by
    refine unescape_of_marks ?_
    calc marks s = marks (shown (unescape s)) := by rw [h]
      _ ≤ marks (unescape s) := hshown _
  rw [hunescape] at h
  exact ⟨untagged_iff.mp huntagged, unescape_eq_self_iff.mp hunescape, h⟩

-- ================================================================ tags

def Piece.tag? : Piece → Option (List Char)
  | .text _ => none
  | .tag inside => some inside

/-- The tags of a text, by what stands between their brackets. -/
def tags (s : List Char) : List (List Char) :=
  (pieces s).filterMap Piece.tag?

/-- Plain text that was read before makes no difference to them. -/
theorem tags_scan (plain s : List Char) : (scan plain s).filterMap Piece.tag? = tags s := by
  rw [tags, pieces_eq_scan]
  generalize hother : ([] : List Char) = other
  clear hother
  induction s generalizing plain other with
  | nil => rfl
  | cons c r ih =>
      cases htag : tagAt? (unslashed (c :: r)) with
      | some tag =>
          obtain ⟨inside, rest⟩ := tag
          rw [scan_of_tag _ htag, scan_of_tag _ htag]
          rfl
      | none =>
          rw [scan_of_none plain htag, scan_of_none other htag]
          exact ih _ _

theorem tags_of_untagged {s : List Char} (h : Untagged s) : tags s = [] := by
  rw [tags, pieces_eq_scan, scan_of_untagged h]
  rfl

/-- Neither does a space. -/
theorem tags_space (s : List Char) : tags (' ' :: s) = tags s := by
  have hnone : tagAt? (unslashed (' ' :: s)) = none := rfl
  rw [tags, pieces_eq_scan, scan_of_none [] hnone, tags_scan]

-- ======================================================= styled texts

/-- The name of a style, in small letters. -/
structure StyleName (name : List Char) : Prop where
  nonempty : name ≠ []
  letters : ∀ c ∈ name, 'a' ≤ c ∧ c ≤ 'z'

/-- A text between tags that set a style and end it again, with a text
behind them. -/
def styled (name u rest : List Char) : List Char :=
  '[' :: (name ++ ']' :: (u ++ '[' :: ('/' :: name ++ ']' :: rest)))

section Styled

variable {name u v : List Char}

theorem StyleName.tagText (h : StyleName name) : TagText name := by
  have hunbracketed : ∀ c ∈ name, c ≠ '[' ∧ c ≠ ']' := by
    intro c hc
    obtain ⟨hlow, -⟩ := h.letters c hc
    constructor
    all_goals
      rintro rfl
      exact absurd hlow (by decide)
  obtain ⟨c, r, rfl⟩ := List.exists_cons_of_ne_nil h.nonempty
  have hc := h.letters c List.mem_cons_self
  exact ⟨⟨c, r, rfl, by simp [startsTag, hc]⟩, hunbracketed⟩

theorem StyleName.closing (h : StyleName name) : TagText ('/' :: name) :=
  ⟨⟨'/', name, rfl, by decide⟩,
    List.forall_mem_cons.mpr ⟨by decide, h.tagText.unbracketed⟩⟩

/-- The pieces of a styled text, with texts before and behind it. -/
theorem pieces_styled (hname : StyleName name) (hv : v.getLast? ≠ some '\\')
    (hu : u.getLast? ≠ some '\\') (rest : List Char) :
    pieces (v ++ styled name u rest)
      = pieces v ++ .text [] :: .tag name
          :: (pieces u ++ .text [] :: .tag ('/' :: name) :: pieces rest) := by
  rw [styled, pieces_eq_scan, scan_append_tag hv hname.tagText,
    scan_append_tag hu hname.closing]
  rfl

theorem tags_styled (hname : StyleName name) (hlastv : v.getLast? ≠ some '\\')
    (hlast : u.getLast? ≠ some '\\') (hv : Untagged v) (hu : Untagged u)
    (rest : List Char) :
    tags (v ++ styled name u rest) = name :: ('/' :: name) :: tags rest := by
  have htags := tags_of_untagged hu
  have hbefore := tags_of_untagged hv
  rw [tags] at htags hbefore
  rw [tags, pieces_styled hname hlastv hlast, tags]
  simp only [List.filterMap_cons, List.filterMap_append, Piece.tag?, htags, hbefore,
    List.nil_append]

theorem left_styled {shown : List Char → List Char} (hnil : shown [] = [])
    (hname : StyleName name) (hlastv : v.getLast? ≠ some '\\')
    (hlast : u.getLast? ≠ some '\\') (rest : List Char) :
    left shown (pieces (v ++ styled name u rest))
      = left shown (pieces v) ++ left shown (pieces u) ++ left shown (pieces rest) := by
  rw [pieces_styled hname hlastv hlast]
  simp only [left_cons, left_append, Piece.left, hnil, List.nil_append, List.append_assoc]

end Styled

end KbDocs.Console
