/-
What is documented of a renderer.

Commands leave markup and layout to a renderer. `Follows` says what is
documented of one: which parts of a text are markup and what vanishes with
them, when tags make sense, and that lines and rows which fit on the screen
are not broken. What plain text is shown as, and how much room it takes,
are up to the renderer's `Conventions`.

Of any renderer that follows some conventions, this tells which texts
appear as they are (`plain_eq_iff`), also between the tags of a style
(`plain_styled_iff`). The renderer in use follows its own
(`follows_basic`).
-/
import KbDocs.Proofs.Console.Layout
import KbDocs.Proofs.Console.Literal

namespace KbDocs.Console

/-- The marked up text makes sense to the renderer. -/
def Renderer.Reads (r : Renderer) (s : String) : Prop :=
  ∃ t, r.plain s = .ok t

/-- What a renderer makes of plain text. -/
structure Conventions where
  /-- What is shown of it: some control characters are not, and emoji
  stand for their codes. -/
  shown : List Char → List Char
  /-- The cells that its widest line takes. -/
  width : List Char → Nat

/-- The width of a table whose texts appear as they are. -/
def Conventions.tableWidth (c : Conventions) (headings : List (List Char))
    (rows : List (List (List Char))) : Nat :=
  totalWidth (columnWidths c.width (headings :: rows) headings.length)

/-- A renderer does what is documented of it. -/
structure Renderer.Follows (r : Renderer) (c : Conventions) : Prop where
  /-- Tags vanish, backslashes that only keep a bracket from opening a tag
  do too, and the rest is shown. -/
  leaves : ∀ s t, r.plain s = .ok t → t = left c.shown (pieces s.toList)
  /-- Whether a text makes sense is up to its tags. -/
  byTags : ∀ s s', tags s.toList = tags s'.toList → (r.Reads s ↔ r.Reads s')
  untagged : ∀ s, tags s.toList = [] → r.Reads s
  /-- A style may be set and ended. -/
  closed : ∀ name s s', StyleName name →
    tags s.toList = name :: ('/' :: name) :: tags s'.toList → (r.Reads s ↔ r.Reads s')
  /-- A tag that closes nothing makes no sense. -/
  unopened : ∀ s inside rest, tags s.toList = ('/' :: inside) :: rest → ¬ r.Reads s
  /-- The codes of emoji stand between colons, and nothing else but control
  characters is shown in another way. -/
  shown : ∀ s, (∀ d ∈ s, d ≠ ':' ∧ isShown d = true) → c.shown s = s
  /-- Neither of these puts brackets or backslashes on the screen. -/
  unmarked : ∀ s, marks (c.shown s) ≤ marks s
  ascii : ∀ s, (∀ d ∈ s, ' ' ≤ d ∧ d ≤ '~') → c.width s = s.length
  /-- A line that fits on the screen is not broken. -/
  lines : ∀ s, OneLine s → c.width s ≤ screenWidth → r.lines s = [s]
  /-- Neither is a row of a table that fits. -/
  row : ∀ title headings rows row, headings ≠ [] → (∀ h ∈ headings, 0 < c.width h) →
    (∀ cells ∈ rows, cells.length = headings.length) →
    c.tableWidth headings rows ≤ screenWidth → row ∈ rows → (∀ s ∈ row, OneLine s) →
    ∃ line ∈ r.tableLines title headings rows, IsRow row line

-- =================================================== texts as they are

/-- A printable character of ASCII that no markup and no code of an emoji
begins with. -/
def isOrdinary (d : Char) : Bool :=
  ' ' ≤ d && d ≤ '~' && !isMark d && d != ':'

theorem isShown_of_ascii {d : Char} (h : ' ' ≤ d) : isShown d = true := by
  have hlow : 32 ≤ d.toNat := h
  simp only [isShown, Bool.and_eq_true, bne_iff_ne]
  omega

namespace Renderer.Follows

variable {r : Renderer} {c : Conventions} (h : r.Follows c)

include h

theorem shown_nil : c.shown [] = [] :=
  h.shown [] (by simp)

/-- Of texts that make sense, the literal ones and no others appear as they
are. -/
theorem plain_eq_iff {s : String} : r.plain s = .ok s.toList ↔ Literal c.shown s.toList := by
  rw [← left_eq_iff h.unmarked]
  constructor
  · intro hplain
    exact (h.leaves s _ hplain).symm
  · intro hleft
    have hliteral := (left_eq_iff h.unmarked).mp hleft
    obtain ⟨t, ht⟩ := h.untagged s (tags_of_untagged (untagged_iff.mpr hliteral.untagged))
    rw [ht, h.leaves s t ht, hleft]

/-- Letters, digits and the like are literal. -/
theorem literal_of_ordinary {s : List Char} (hs : s.all isOrdinary = true) :
    Literal c.shown s := by
  have hordinary : ∀ d ∈ s, isMark d = false ∧ d ≠ ':' ∧ isShown d = true := by
    intro d hd
    have hd := List.all_eq_true.mp hs d hd
    simp only [isOrdinary, Bool.and_eq_true, Bool.not_eq_true', bne_iff_ne,
      decide_eq_true_eq] at hd
    exact ⟨hd.1.2, hd.2, isShown_of_ascii hd.1.1.1⟩
  have hopen : '[' ∉ s := fun hmem => absurd (hordinary _ hmem).1 (by decide)
  refine ⟨fun inside _ hwithin => hopen (hwithin.subset List.mem_cons_self),
    fun hwithin => hopen (hwithin.subset (by simp)),
    h.shown s fun d hd => (hordinary d hd).2⟩

theorem width_of_ordinary {s : List Char} (hs : s.all isOrdinary = true) :
    c.width s = s.length := by
  refine h.ascii s fun d hd => ?_
  have hd := List.all_eq_true.mp hs d hd
  simp only [isOrdinary, Bool.and_eq_true, decide_eq_true_eq] at hd
  exact hd.1.1

/-- A text in a style appears as it is, together with what is around it,
exactly if it is literal. -/
theorem plain_styled_iff {line u rest : String} {v name t : List Char}
    (hline : line.toList = v ++ styled name u.toList rest.toList) (hname : StyleName name)
    (hv : Literal c.shown v) (hlastv : v.getLast? ≠ some '\\')
    (hlast : u.toList.getLast? ≠ some '\\') (hrest : r.plain rest = .ok t) :
    r.plain line = .ok (v ++ u.toList ++ t) ↔ Literal c.shown u.toList := by
  have hleft : left c.shown (pieces line.toList)
      = v ++ left c.shown (pieces u.toList) ++ t := by
    rw [hline, left_styled h.shown_nil hname hlastv hlast, hv.left_eq, ← h.leaves rest t hrest]
  rw [← left_eq_iff h.unmarked]
  constructor
  · intro hplain
    have hall := h.leaves line _ hplain
    rw [hleft] at hall
    exact (List.append_cancel_left (List.append_cancel_right hall)).symm
  · intro hu
    have huntagged := ((left_eq_iff h.unmarked).mp hu).isUntagged
    have htags := tags_styled hname hlastv hlast hv.isUntagged huntagged rest.toList
    rw [← hline] at htags
    obtain ⟨w, hw⟩ := (h.closed name line rest hname htags).mpr ⟨t, hrest⟩
    rw [hw, h.leaves line w hw, hleft, hu]

/-- A line that begins with a word in a style makes sense exactly if what
is behind the word does. -/
theorem reads_styled_iff {line u rest : String} {name : List Char}
    (hline : line.toList = styled name u.toList (' ' :: rest.toList)) (hname : StyleName name)
    (hlast : u.toList.getLast? ≠ some '\\') (hu : Untagged u.toList) :
    r.Reads line ↔ r.Reads rest := by
  refine h.closed name line rest hname ?_
  rw [hline, ← List.nil_append (styled _ _ _),
    tags_styled hname (by simp) hlast (untagged_of_not_mem (by simp)) hu, tags_space]

end Renderer.Follows

-- ================================================== the renderer in use

/-- Two steps that may fail come to an end only if both do. -/
theorem exists_of_bind {α β : Type} {x : Except MarkupError α} {f : α → Except MarkupError β}
    {b : β} (h : x >>= f = .ok b) : ∃ a, x = .ok a ∧ f a = .ok b := by
  cases x with
  | error e => cases h
  | ok a => exact ⟨a, rfl, h⟩

/-- A step whose result is only written in another way ends well exactly
if it does. -/
theorem exists_return_iff {α β : Type} {x : Except MarkupError α} (g : α → β) :
    (∃ b, (do return g (← x) : Except MarkupError β) = .ok b) ↔ ∃ a, x = .ok a := by
  constructor
  · rintro ⟨b, h⟩
    obtain ⟨a, ha, -⟩ := exists_of_bind h
    exact ⟨a, ha⟩
  · rintro ⟨a, rfl⟩
    exact ⟨g a, rfl⟩

/-- Where the plain text of pieces exists, it is what is left of them. -/
theorem plainFrom_ok {isOpen : List (List String)} {ps : List Piece} {t : List Char}
    (h : plainFrom isOpen ps = .ok t) : t = left (·.filter isShown) ps := by
  induction ps generalizing isOpen t with
  | nil =>
      cases h
      rfl
  | cons p rest ih =>
      rw [left_cons]
      cases p with
      | text s =>
          obtain ⟨u, hrest, h⟩ := exists_of_bind h
          cases h
          rw [← ih hrest]
          rfl
      | tag inside =>
          obtain ⟨isOpen', -, h⟩ := exists_of_bind h
          exact ih h

/-- It exists exactly if each tag in turn makes sense. -/
theorem exists_plainFrom_iff {isOpen : List (List String)} {ps : List Piece} :
    (∃ t, plainFrom isOpen ps = .ok t)
      ↔ ∃ still, (ps.filterMap Piece.tag?).foldlM afterTag isOpen = .ok still := by
  induction ps generalizing isOpen with
  | nil => exact iff_of_true ⟨_, rfl⟩ ⟨isOpen, rfl⟩
  | cons p rest ih =>
      cases p with
      | text s =>
          have htags : (Piece.text s :: rest).filterMap Piece.tag?
              = rest.filterMap Piece.tag? := rfl
          rw [htags, ← ih]
          exact exists_return_iff (s.filter isShown ++ ·)
      | tag inside =>
          have htags : (Piece.tag inside :: rest).filterMap Piece.tag?
              = inside :: rest.filterMap Piece.tag? := rfl
          rw [htags, List.foldlM_cons, plainFrom]
          cases afterTag isOpen inside with
          | ok isOpen' => exact ih
          | error e => exact ⟨fun ⟨t, ht⟩ => (by cases ht), fun ⟨t, ht⟩ => (by cases ht)⟩

theorem basic_reads_iff (s : String) :
    Renderer.basic.Reads s
      ↔ ∃ still, (tags s.toList).foldlM afterTag [] = .ok still :=
  exists_plainFrom_iff

theorem isBlank_of_letter {d : Char} (h : 'a' ≤ d ∧ d ≤ 'z') : Text.isBlank d = false := by
  have hlow : 97 ≤ d.toNat := h.1
  have hhigh : d.toNat ≤ 122 := h.2
  simp only [Text.isBlank, Bool.or_eq_false_iff, Bool.and_eq_false_iff, decide_eq_false_iff_not,
    beq_eq_false_iff_ne, ne_eq]
  omega

/-- Where nothing is open, nothing can be closed. -/
theorem afterTag_unopened (inside : List Char) :
    ∃ e, afterTag [] ('/' :: inside) = .error e := by
  have hname : tagName ('/' :: inside) = '/' :: inside.takeWhile (· != '=') := rfl
  rw [afterTag, hname]
  split
  case h_1 =>
    split
    · exact ⟨_, rfl⟩
    · exact ⟨_, rfl⟩
  case h_2 hno => exact absurd rfl (hno _)

/-- A style that is set and ended is not open any more. -/
theorem afterTag_closed {name : List Char} (h : StyleName name) (rest : List (List Char)) :
    (name :: ('/' :: name) :: rest).foldlM afterTag []
      = rest.foldlM afterTag ([] : List (List String)) := by
  have hplain : ∀ d ∈ name, (d != '=') = true := by
    intro d hd
    rw [bne_iff_ne]
    rintro rfl
    exact absurd (h.letters _ hd).1 (by decide)
  have hname : tagName name = name := List.takeWhile_eq_self_iff.mpr hplain
  have hclosing : tagName ('/' :: name) = '/' :: name :=
    List.takeWhile_eq_self_iff.mpr (List.forall_mem_cons.mpr ⟨by decide, hplain⟩)
  obtain ⟨d, r, rfl⟩ := List.exists_cons_of_ne_nil h.nonempty
  have hd := h.letters d List.mem_cons_self
  have hslash : d ≠ '/' := by
    rintro rfl
    exact absurd hd.1 (by decide)
  have hblank : Text.allBlank (d :: r) = false := by
    rw [Text.allBlank, List.all_cons, isBlank_of_letter hd, Bool.false_and]
  have hopen : afterTag [] (d :: r) = .ok [styleName (d :: r)] := by
    rw [afterTag, hname]
    split
    case h_1 name heq => exact absurd (List.cons.inj heq).1 hslash
    case h_2 => rfl
  have hclose : afterTag [styleName (d :: r)] ('/' :: d :: r) = .ok [] := by
    rw [afterTag, hclosing]
    simp [hblank]
  have hsecond : (('/' :: d :: r) :: rest).foldlM afterTag [styleName (d :: r)]
      = rest.foldlM afterTag [] := by
    rw [List.foldlM_cons, hclose]
    rfl
  rw [List.foldlM_cons, hopen]
  exact hsecond

theorem widestFrom_of_ascii (s : List Char) (h : ∀ d ∈ s, ' ' ≤ d ∧ d ≤ '~') :
    widestFrom [] s = s.length := by
  have hrange : ∀ d ∈ s, 32 ≤ d.toNat ∧ d.toNat ≤ 126 := h
  have hunbroken : ∀ d ∈ s, endsMeasuredLine d = false := by
    intro d hd
    have hd := hrange d hd
    simp only [endsMeasuredLine, Bool.or_eq_false_iff, Bool.and_eq_false_iff,
      decide_eq_false_iff_not, beq_eq_false_iff_ne, ne_eq]
    omega
  rw [widestFrom_of_unbroken hunbroken, List.nil_append, cells]
  clear h hunbroken
  induction s with
  | nil => rfl
  | cons d s ih =>
      obtain ⟨hd, hrest⟩ := List.forall_mem_cons.mp hrange
      have hjoiner : (d == '\u200d') = false := by
        rw [beq_eq_false_iff_ne]
        rintro rfl
        exact absurd hd.2 (by decide)
      have hcells : charCells d = 1 := by
        have hcontrol : isControl d.toNat = false := by
          simp only [isControl, Bool.or_eq_false_iff, Bool.and_eq_false_iff,
            decide_eq_false_iff_not]
          omega
        rw [charCells, hcontrol]
        simp only [Bool.false_eq_true, if_false]
        rw [if_pos (by omega)]
      rw [cellsFrom, hjoiner, if_neg (by simp), if_neg (by simp), ih hrest, hcells,
        List.length_cons, Nat.add_comm]

def Conventions.basic : Conventions where
  shown := List.filter isShown
  width := widestFrom []

theorem follows_basic : Renderer.basic.Follows Conventions.basic where
  leaves s t h := plainFrom_ok h
  byTags s s' h := by rw [basic_reads_iff, basic_reads_iff, h]
  untagged s h := by
    rw [basic_reads_iff, h]
    exact ⟨[], rfl⟩
  closed name s s' hname h := by
    rw [basic_reads_iff, basic_reads_iff, h, afterTag_closed hname]
  unopened s inside rest h := by
    obtain ⟨e, he⟩ := afterTag_unopened inside
    rw [basic_reads_iff, h, List.foldlM_cons, he]
    rintro ⟨still, hstill⟩
    cases hstill
  shown s h := List.filter_eq_self.mpr fun d hd => (h d hd).2
  unmarked s := List.filter_sublist.countP_le
  ascii := widestFrom_of_ascii
  lines s hs hwidth := wrap_of_oneLine hs (hs.widest ▸ hwidth) .fold
  row title headings rows row hne _ hlengths _ hrow hs := by
    refine exists_isRow title hrow (hlengths row hrow) ?_ hs
    rintro rfl
    exact hne (List.length_eq_zero_iff.mp (hlengths [] hrow).symm)

instance (s : List Char) : Decidable (Literal Conventions.basic.shown s) :=
  decidable_of_iff _ (left_eq_iff follows_basic.unmarked)

end KbDocs.Console
