/-
Which sources have documentation.

A source without a block has none. The converse fails: whether there is
documentation is told from the cleaned text of the block, and that text
can be empty although the block is there. It is empty if nothing shows
in the block, or one asterisk and nothing else (`Silent`), as in `/** */`
and in `/****/`. One more asterisk is enough to end this: two empty lines
are joined by a line feed, which is a text.

# What shows

Blocks are trimmed, cut into lines and trimmed again. None of this
touches a character that is not white space, so it is enough to look at
those (`marks`): a text trims to nothing, or to a single character,
exactly if that is what its marks are (`trim_eq_nil_iff_marks`,
`trim_eq_singleton_iff`). The marks of a block are the marks of its lines
one after another, wherever the lines are broken. So white space between
the lines never matters, and a line that shows something matters exactly
if the rest of the block is silent and the line does not leave it so.
-/
import KbDocs.Proofs.DocComment.Lines
import KbDocs.Proofs.DocComment.Span

namespace KbDocs

namespace Text

-- ============================================================== marks

/-- The characters of a text that show. -/
def marks (s : List Char) : List Char :=
  s.filter fun c => !isBlank c

@[simp]
theorem marks_append (s t : List Char) : marks (s ++ t) = marks s ++ marks t :=
  List.filter_append ..

theorem marks_eq_nil_iff {s : List Char} : marks s = [] ↔ allBlank s = true := by
  unfold marks allBlank
  rw [List.filter_eq_nil_iff, List.all_eq_true]
  simp

/-- Trimming keeps what shows. -/
theorem marks_trim (s : List Char) : marks (trim s) = marks s := by
  obtain ⟨w, v, hw, hv, hs⟩ := exists_trim s
  conv => rhs; rw [hs]
  rw [marks_append, marks_append, marks_eq_nil_iff.mpr hw, marks_eq_nil_iff.mpr hv,
    List.nil_append, List.append_nil]

theorem trim_eq_nil_iff_marks {s : List Char} : trim s = [] ↔ marks s = [] := by
  rw [trim_eq_nil_iff, marks_eq_nil_iff]

/-- A text trims to a character that shows exactly if nothing else in it
does. -/
theorem trim_eq_singleton_iff {s : List Char} {c : Char} (hc : isBlank c = false) :
    trim s = [c] ↔ marks s = [c] := by
  rw [← marks_trim]
  have htrimmed := trimmed_trim s
  generalize trim s = t at htrimmed ⊢
  constructor
  · intro ht
    simp [ht, marks, hc]
  · intro hmarks
    cases t with
    | nil => cases hmarks
    | cons d r =>
        have hd : isBlank d = false := (trimmed_iff.mp htrimmed).1 d rfl
        have hcons : marks (d :: r) = d :: marks r := by simp [marks, hd]
        rw [hcons] at hmarks
        obtain ⟨rfl, hr⟩ := List.cons.inj hmarks
        cases r with
        | nil => rfl
        | cons e r =>
            -- the last character of a trimmed text shows
            have hlast := allBlank_of_trimmed_append (s := [d]) htrimmed (List.cons_ne_nil e r)
            rw [marks_eq_nil_iff.mp hr] at hlast
            cases hlast

/-- What shows in lines does not depend on where they are broken. -/
theorem marks_join (rows : List (List Char)) :
    marks (join ['\n'] rows) = rows.flatMap marks := by
  have hbreak : marks ['\n'] = [] := by decide
  cases rows with
  | nil => rfl
  | cons a rows =>
      rw [join_cons_eq_flatMap, marks_append, List.flatMap_cons]
      congr 1
      induction rows with
      | nil => rfl
      | cons b rows ih =>
          rw [List.flatMap_cons, List.flatMap_cons, marks_append, marks_append, hbreak, ih,
            List.nil_append]

end Text

open KbDocs.Text

namespace DocBlock

-- ============================================================== blocks

/-- A block stands in a text: an opener, and a closer that does not
overlap with it. -/
def HasBlock (s : List Char) : Prop :=
  ∃ i j, opener <+: s.drop i ∧ i + 3 ≤ j ∧ closer <+: s.drop j

/-- What shows is nothing, or a single asterisk. -/
def Silent (shown : List Char) : Prop :=
  shown = [] ∨ shown = ['*']

instance (shown : List Char) : Decidable (Silent shown) :=
  inferInstanceAs (Decidable (shown = [] ∨ shown = ['*']))

/-- The first block of a text shows nothing, or a single asterisk. -/
def SilentBlock (s : List Char) : Prop :=
  ∃ a b, span? s = some (a, b) ∧ Silent (marks (s.extract a b))

theorem silent_marks_iff {inside : List Char} :
    Silent (marks inside) ↔ trim inside = [] ∨ trim inside = ['*'] := by
  have hasterisk : isBlank '*' = false := by decide
  unfold Silent
  rw [trim_eq_nil_iff_marks, trim_eq_singleton_iff hasterisk]

/-- More marks among some make a difference unless there are none, or the
others were not silent to begin with, or one asterisk is all there is. -/
theorem silent_append_iff (x m y : List Char) :
    (Silent (x ++ m ++ y) ↔ Silent (x ++ y))
      ↔ m = [] ∨ ¬ Silent (x ++ y) ∨ (x ++ y = [] ∧ m = ['*']) := by
  have hshort : ∀ {s : List Char}, Silent s → s.length ≤ 1 := by
    intro s hs
    rcases hs with rfl | rfl
    · exact Nat.zero_le 1
    · exact Nat.le_refl 1
  by_cases hm : m = []
  · simp [hm]
  by_cases hxy : x ++ y = []
  · obtain ⟨rfl, rfl⟩ := List.append_eq_nil_iff.mp hxy
    simp [Silent, hm]
  · -- two marks are never silent
    have hlong : ¬ Silent (x ++ m ++ y) := by
      intro hsilent
      have hle := hshort hsilent
      have hpos := List.length_pos_iff.mpr hm
      have hpos' := List.length_pos_iff.mpr hxy
      simp only [List.length_append] at hle hpos'
      omega
    simp only [hlong, hm, hxy, false_iff, false_or, false_and, or_false]

/-- A single cleaned line, and an empty one, is left of nothing and of an
asterisk. -/
theorem map_cleanLine_eq_iff {body : List Char} (h : Trimmed body) :
    (lines body).map cleanLine = [[]] ↔ body = [] ∨ body = ['*'] := by
  constructor
  · intro hmap
    obtain ⟨line, hline⟩ : ∃ line, lines body = [line] := by
      rw [← List.length_eq_one_iff, ← List.length_map cleanLine, hmap]
      rfl
    have hbody : line = body := by
      have hjoin := join_pieces '\n' body
      rwa [← lines, hline, join_singleton] at hjoin
    rw [hline, hbody, List.map_singleton] at hmap
    have hclean : cleanLine body = [] := List.singleton_inj.mp hmap
    unfold cleanLine at hclean
    rw [show trim body = body from h] at hclean
    cases body with
    | nil => exact Or.inl rfl
    | cons c r =>
        split at hclean
        case h_2 => cases hclean
        case h_1 rest heq =>
          obtain ⟨rfl, rfl⟩ := List.cons.inj heq
          cases r with
          | nil => exact Or.inr rfl
          | cons d r =>
              have hlast := allBlank_of_trimmed_append (s := ['*']) h (List.cons_ne_nil d r)
              rw [trim_eq_nil_iff.mp hclean] at hlast
              cases hlast
  · intro hbody
    rcases hbody with rfl | rfl
    · rfl
    · rfl

/-- The text of a source is empty without a block, and with one of which
nothing is left, or an asterisk. -/
theorem text_eq_empty_iff_body? {source : String} :
    text source = ""
      ↔ ∀ body, body? source.toList = some body → body = [] ∨ body = ['*'] := by
  rw [text_eq_empty_iff]
  unfold cleanLines
  cases hbody : body? source.toList with
  | none => simp
  | some body =>
      have htrimmed : Trimmed body := by
        rw [body?_eq_span] at hbody
        obtain ⟨p, -, rfl⟩ := Option.map_eq_some_iff.mp hbody
        exact trimmed_trim _
      have hne : (lines body).map cleanLine ≠ [] := by
        obtain ⟨q, qs, hq⟩ := exists_pieces '\n' body
        simp [lines, hq]
      simp only [hne, false_or, map_cleanLine_eq_iff htrimmed, Option.some.injEq,
        forall_eq']

end DocBlock

namespace DocComment

open DocBlock

theorem ofSource?_eq_none_iff_body? {source : String} :
    ofSource? source = none
      ↔ ∀ body, body? source.toList = some body → body = [] ∨ body = ['*'] := by
  rw [← text_eq_empty_iff_body?]
  unfold ofSource?
  split
  case isTrue hempty => simp [hempty]
  case isFalse hne => simp [hne]

/-- There is no documentation without a block, and none if the block is
silent. -/
theorem ofSource?_eq_none_iff_silent (source : String) :
    ofSource? source = none ↔ ¬ HasBlock source.toList ∨ SilentBlock source.toList := by
  unfold HasBlock SilentBlock
  rw [ofSource?_eq_none_iff_body?, body?_eq_span, ← isSome_span?_iff]
  cases span? source.toList with
  | none => simp
  | some p => simp [silent_marks_iff, Prod.ext_iff]

-- =============================================================== lines

/-- A source with a block of some lines in it. -/
def blockSource (before : String) (rows : List String) (after : String) : String :=
  before ++ "/**" ++ joinStrings "\n" rows ++ "*/" ++ after

/-- What shows in lines, one after another. -/
def rowMarks (rows : List String) : List Char :=
  rows.flatMap fun row => marks row.toList

/-- Lines have a closer only if one of them has it. -/
theorem not_closer_infix_join {rows : List (List Char)}
    (h : ∀ row ∈ rows, ¬ closer <:+: row) : ¬ closer <:+: join ['\n'] rows := by
  induction rows with
  | nil => decide
  | cons a rows ih =>
      obtain ⟨ha, hrows⟩ := List.forall_mem_cons.mp h
      cases rows with
      | nil =>
          rw [join_singleton]
          exact ha
      | cons b rows =>
          rw [join_cons_cons, List.append_assoc, List.singleton_append,
            infix_append_cons_iff (by decide) closer_ne, not_or]
          exact ⟨ha, ih hrows⟩

section Rows

variable {before after : String} {rows : List String}

theorem body?_blockSource (hbefore : ¬ opener <:+: before.toList)
    (hrows : ∀ row ∈ rows, ¬ closer <:+: row.toList) :
    body? (blockSource before rows after).toList
      = some (trim (join ['\n'] (rows.map String.toList))) := by
  have hinside : ¬ closer <:+: join ['\n'] (rows.map String.toList) :=
    not_closer_infix_join (List.forall_mem_map.mpr hrows)
  have htext : (blockSource before rows after).toList
      = before.toList ++ opener
        ++ (join ['\n'] (rows.map String.toList) ++ closer ++ after.toList) := by
    simp [blockSource, joinStrings, opener, closer]
  rw [htext]
  exact body?_append hbefore hinside _

/-- A block of some lines is no documentation exactly if the lines are
silent together. -/
theorem ofSource?_blockSource (hbefore : ¬ opener <:+: before.toList)
    (hrows : ∀ row ∈ rows, ¬ closer <:+: row.toList) :
    ofSource? (blockSource before rows after) = none ↔ Silent (rowMarks rows) := by
  have hmarks : marks (join ['\n'] (rows.map String.toList)) = rowMarks rows := by
    rw [marks_join, rowMarks, List.flatMap_map]
  rw [← hmarks, silent_marks_iff, ofSource?_eq_none_iff_body?,
    body?_blockSource hbefore hrows]
  simp

end Rows

/-- There is no documentation exactly if there is no block or the block is
silent; so a block alone decides exactly if it is not silent. A line more
or less in a block changes nothing exactly if nothing shows in the line,
or the rest of the block is not silent, or the line is an asterisk in an
empty block. -/
theorem ofSource?_presence (source : String) :
    (ofSource? source = none ↔ ¬ HasBlock source.toList ∨ SilentBlock source.toList)
    ∧ ((ofSource? source = none ↔ ¬ HasBlock source.toList) ↔ ¬ SilentBlock source.toList)
    ∧ ∀ (before : String) (rows : List String) (line : String) (more : List String)
        (after : String),
      ¬ opener <:+: before.toList →
      (∀ row ∈ rows ++ line :: more, ¬ closer <:+: row.toList) →
      ((ofSource? (blockSource before (rows ++ line :: more) after) = none
          ↔ ofSource? (blockSource before (rows ++ more) after) = none)
        ↔ marks line.toList = [] ∨ ¬ Silent (rowMarks (rows ++ more))
          ∨ (rowMarks (rows ++ more) = [] ∧ marks line.toList = ['*'])) := by
  have hnone := ofSource?_eq_none_iff_silent source
  refine ⟨hnone, ?_, ?_⟩
  · have hblock : SilentBlock source.toList → HasBlock source.toList := by
      intro ⟨a, b, hspan, _⟩
      exact isSome_span?_iff.mp (by rw [hspan]; rfl)
    rw [hnone]
    by_cases hsilent : SilentBlock source.toList
    · simp [hsilent, hblock hsilent]
    · simp [hsilent]
  · intro before rows line more after hbefore hrows
    have hrest : ∀ row ∈ rows ++ more, ¬ closer <:+: row.toList := by
      intro row hrow
      refine hrows row ?_
      rcases List.mem_append.mp hrow with hrow | hrow
      · exact List.mem_append_left _ hrow
      · exact List.mem_append_right _ (List.mem_cons_of_mem line hrow)
    rw [ofSource?_blockSource hbefore hrows, ofSource?_blockSource hbefore hrest]
    simp only [rowMarks, List.flatMap_append, List.flatMap_cons, ← List.append_assoc]
    exact silent_append_iff _ _ _

/-- In a block of one asterisk, a line of white space makes no difference
and a second asterisk does. -/
theorem ofSource?_presence_asterisks :
    (ofSource? (blockSource "" ["", " *", "\t", " "] "") = none
        ↔ ofSource? (blockSource "" ["", " *", " "] "") = none)
      ∧ ¬ (ofSource? (blockSource "" ["", " *", " *", " "] "") = none
        ↔ ofSource? (blockSource "" ["", " *", " "] "") = none) := by
  have hline := (ofSource?_presence "").2.2
  constructor
  · exact (hline "" ["", " *"] "\t" [" "] "" (by decide) (by decide)).mpr (by decide)
  · intro hsame
    exact absurd ((hline "" ["", " *"] " *" [" "] "" (by decide) (by decide)).mp hsame)
      (by decide)

/-- A block that is there, but is no documentation. -/
theorem ofSource?_silent_block :
    HasBlock "/** */".toList ∧ ofSource? "/** */" = none :=
  ⟨⟨0, 4, by decide⟩, by decide⟩

end DocComment

end KbDocs
