/-
How marked up text is cut into pieces.

`scan` is the cutting without its bound, one step at a time: at a tag
(`scan_of_tag`) or at a character that begins none (`scan_of_none`).

Lines on the screen are put together from tags and from texts that come
from elsewhere. No bracket opens within a tag, so a tag never begins in
one text and ends in the next tag, and the pieces of the whole line are
those of the texts with the tags between them (`scan_append_tag`). All
that can come between is a backslash at the end of a text.
-/
import Mathlib.Data.List.Infix
import Mathlib.Data.List.TakeWhile
import KbDocs.Console.Markup

namespace KbDocs.Console

-- ================================================================ tags

/-- What can stand between the brackets of a tag. -/
structure TagText (inside : List Char) : Prop where
  starts : ∃ c r, inside = c :: r ∧ startsTag c = true
  unbracketed : ∀ c ∈ inside, c ≠ '[' ∧ c ≠ ']'

/-- A text opens with a tag exactly if it has the brackets and what can
stand between them. -/
theorem tagAt?_eq_some_iff {s inside rest : List Char} :
    tagAt? s = some (inside, rest)
      ↔ TagText inside ∧ s = '[' :: (inside ++ ']' :: rest) := by
  constructor
  · intro h
    unfold tagAt? at h
    split at h
    case h_2 => cases h
    case h_1 c r =>
      dsimp only at h
      split at h
      case h_2 => cases h
      case h_1 rest' hdrop =>
        split at h
        case isFalse => cases h
        case isTrue hstarts =>
          obtain ⟨hinside, rfl⟩ := Prod.mk.inj (Option.some.inj h)
          have hunbracketed : ∀ x ∈ inside, x ≠ '[' ∧ x ≠ ']' := by
            intro x hx
            rw [← hinside] at hx
            simpa using List.mem_takeWhile_imp hx
          obtain ⟨t, ht⟩ := List.takeWhile_prefix (l := c :: r)
            fun x => x != '[' && x != ']'
          rw [hinside] at ht
          rw [hinside, ← ht, List.drop_left] at hdrop
          subst hdrop
          refine ⟨⟨?_, hunbracketed⟩, by rw [ht]⟩
          cases inside with
          | nil =>
              -- the first character would be the closing bracket
              cases ht
              exact absurd hstarts (by decide)
          | cons d inside =>
              obtain ⟨rfl, -⟩ := List.cons.inj ht
              exact ⟨d, inside, rfl, hstarts⟩
  · rintro ⟨⟨⟨c, r, rfl, hstarts⟩, hunbracketed⟩, rfl⟩
    have htake : (c :: r ++ ']' :: rest).takeWhile (fun x => x != '[' && x != ']') = c :: r := by
      rw [List.takeWhile_append_of_pos (by simpa using hunbracketed)]
      simp
    unfold tagAt?
    simp only [List.cons_append] at htake ⊢
    simp only [htake]
    simp [hstarts]

/-- A text that something in brackets follows opens with the same tag, if
any. -/
theorem tagAt?_append {w : List Char} (hw : w ≠ []) (y : List Char) :
    tagAt? (w ++ '[' :: y) = (tagAt? w).map fun tag => (tag.1, tag.2 ++ '[' :: y) := by
  cases htag : tagAt? w with
  | some tag =>
      obtain ⟨inside, rest⟩ := tag
      obtain ⟨hinside, rfl⟩ := tagAt?_eq_some_iff.mp htag
      exact tagAt?_eq_some_iff.mpr ⟨hinside, by simp⟩
  | none =>
      cases hall : tagAt? (w ++ '[' :: y) with
      | none => rfl
      | some tag =>
          obtain ⟨inside, rest⟩ := tag
          obtain ⟨hinside, heq⟩ := tagAt?_eq_some_iff.mp hall
          obtain ⟨d, w, rfl⟩ := List.exists_cons_of_ne_nil hw
          obtain ⟨rfl, htail⟩ := List.cons.inj heq
          rcases List.append_eq_append_iff.mp htail with ⟨z, hz, hy⟩ | ⟨z, hz, hy⟩
          · -- the bracket would be within the tag
            cases z with
            | nil => simp at hy
            | cons e z =>
                obtain ⟨rfl, -⟩ := List.cons.inj hy
                exact absurd rfl (hinside.unbracketed '[' (by simp [hz])).1
          · -- the tag would be within the text
            cases z with
            | nil => simp at hy
            | cons e z =>
                obtain ⟨rfl, -⟩ := List.cons.inj hy
                rw [hz, tagAt?_eq_some_iff.mpr ⟨hinside, rfl⟩] at htag
                cases htag

-- ================================================================ scan

/-- The pieces of a text behind plain text already read. -/
def scan (plain s : List Char) : List Piece :=
  piecesFrom (s.length + 1) plain s

theorem pieces_eq_scan (s : List Char) : pieces s = scan [] s := rfl

/-- The text behind the backslashes that a text begins with. -/
def unslashed (s : List Char) : List Char :=
  s.drop (s.takeWhile (· == '\\')).length

/-- A tag behind a number of backslashes. -/
def foundTag (slashes : Nat) (inside : List Char) : List Piece :=
  [.text (List.replicate (slashes / 2) '\\'),
    if slashes % 2 == 1 then .text ('[' :: inside ++ [']'])
    else .tag inside]

theorem length_unslashed_le (s : List Char) : (unslashed s).length ≤ s.length := by
  simp [unslashed]

/-- One step of the scan. -/
theorem piecesFrom_succ (bound : Nat) (plain s : List Char) :
    piecesFrom (bound + 1) plain s
      = match tagAt? (unslashed s) with
        | some (inside, rest) =>
            .text (unescape plain)
              :: (foundTag (s.takeWhile (· == '\\')).length inside
                ++ piecesFrom bound [] rest)
        | none =>
            match s with
            | [] => [.text (unescape plain)]
            | c :: r => piecesFrom bound (plain ++ [c]) r := by
  cases s <;> rfl

/-- The bound of the scan does not matter as long as it exceeds the
length. -/
theorem piecesFrom_of_lt {bound bound' : Nat} {s : List Char} (h : s.length < bound)
    (h' : s.length < bound') (plain : List Char) :
    piecesFrom bound plain s = piecesFrom bound' plain s := by
  induction bound generalizing bound' s plain with
  | zero => omega
  | succ bound ih =>
      cases bound' with
      | zero => omega
      | succ bound' =>
          rw [piecesFrom_succ, piecesFrom_succ]
          split
          case h_1 inside rest htag =>
            obtain ⟨-, hs⟩ := tagAt?_eq_some_iff.mp htag
            have hlength := length_unslashed_le s
            rw [hs, List.length_cons, List.length_append, List.length_cons] at hlength
            have hrest : piecesFrom bound [] rest = piecesFrom bound' [] rest :=
              ih (by omega) (by omega) []
            rw [hrest]
          case h_2 =>
            cases s with
            | nil => rfl
            | cons c r =>
                rw [List.length_cons] at h h'
                exact ih (by omega) (by omega) _

theorem scan_nil (plain : List Char) : scan plain [] = [.text (unescape plain)] := rfl

/-- The scan at a tag. -/
theorem scan_of_tag (plain : List Char) {s inside rest : List Char}
    (h : tagAt? (unslashed s) = some (inside, rest)) :
    scan plain s
      = .text (unescape plain)
        :: (foundTag (s.takeWhile (· == '\\')).length inside ++ scan [] rest) := by
  have hs := (tagAt?_eq_some_iff.mp h).2
  have hlength := length_unslashed_le s
  rw [hs, List.length_cons, List.length_append, List.length_cons] at hlength
  rw [scan, piecesFrom_succ, h]
  dsimp only
  rw [scan, piecesFrom_of_lt (by omega) (Nat.lt_succ_self rest.length)]

/-- The scan where there is no tag. -/
theorem scan_of_none (plain : List Char) {r : List Char} {c : Char}
    (h : tagAt? (unslashed (c :: r)) = none) :
    scan plain (c :: r) = scan (plain ++ [c]) r := by
  rw [scan, piecesFrom_succ, h]
  rfl

theorem getLast?_ne_of_suffix {u v : List Char} {c : Char} (h : u <:+ v)
    (hv : v.getLast? ≠ some c) : u.getLast? ≠ some c := by
  obtain ⟨t, rfl⟩ := h
  intro hu
  rw [List.getLast?_append, hu] at hv
  exact hv rfl

/-- The backslashes that a text begins with are the same with a bracket
behind it, unless it ends in one. -/
theorem unslashed_append {u : List Char} (hlast : u.getLast? ≠ some '\\') (hne : u ≠ [])
    (y : List Char) :
    (u ++ '[' :: y).takeWhile (· == '\\') = u.takeWhile (· == '\\')
      ∧ unslashed (u ++ '[' :: y) = unslashed u ++ '[' :: y
      ∧ unslashed u ≠ [] := by
  have hstart : u.takeWhile (· == '\\') <+: u := List.takeWhile_prefix _
  have hlt : (u.takeWhile (· == '\\')).length < u.length := by
    refine Nat.lt_of_le_of_ne hstart.length_le fun heq => hlast ?_
    have hall := List.takeWhile_eq_self_iff.mp (hstart.eq_of_length heq)
    have hslash : u.getLast hne = '\\' := by
      simpa using hall _ (List.getLast_mem hne)
    rw [List.getLast?_eq_some_getLast hne, hslash]
  have htake : (u ++ '[' :: y).takeWhile (· == '\\') = u.takeWhile (· == '\\') := by
    rw [List.takeWhile_append, if_neg (Nat.ne_of_lt hlt)]
  refine ⟨htake, ?_, ?_⟩
  · rw [unslashed, htake, unslashed, List.drop_append_of_le_length (Nat.le_of_lt hlt)]
  · rw [unslashed]
    simpa using hlt

/-- The pieces of a text with a tag in it are those of the text before the
tag and those of the text behind it, with the tag between them, unless
there is a backslash before the tag. -/
theorem scan_append_tag {u inside : List Char} (hu : u.getLast? ≠ some '\\')
    (hinside : TagText inside) (plain rest : List Char) :
    scan plain (u ++ '[' :: (inside ++ ']' :: rest))
      = scan plain u ++ .text [] :: .tag inside :: scan [] rest := by
  induction hn : u.length using Nat.strong_induction_on generalizing u plain with
  | h n ih =>
      cases u with
      | nil =>
          have htag : tagAt? (unslashed ('[' :: (inside ++ ']' :: rest))) = some (inside, rest) :=
            tagAt?_eq_some_iff.mpr ⟨hinside, rfl⟩
          rw [List.nil_append, scan_of_tag plain htag, scan_nil]
          simp [foundTag]
      | cons c r =>
          obtain ⟨hslashes, hunslashed, hne⟩ := unslashed_append hu (List.cons_ne_nil c r)
            (inside ++ ']' :: rest)
          have htag := tagAt?_append hne (inside ++ ']' :: rest)
          rw [← hunslashed] at htag
          cases hfirst : tagAt? (unslashed (c :: r)) with
          | some tag =>
              obtain ⟨name, behind⟩ := tag
              have hbehind : behind <:+ c :: r := by
                have hsuffix : behind <:+ unslashed (c :: r) := by
                  rw [(tagAt?_eq_some_iff.mp hfirst).2]
                  exact ⟨'[' :: (name ++ [']']), by simp⟩
                exact hsuffix.trans (List.drop_suffix _ _)
              have hlt : behind.length < n := by
                have hlength := length_unslashed_le (c :: r)
                rw [(tagAt?_eq_some_iff.mp hfirst).2, hn] at hlength
                simp at hlength
                omega
              rw [hfirst] at htag
              rw [scan_of_tag plain hfirst, scan_of_tag plain htag, hslashes,
                ih behind.length hlt (getLast?_ne_of_suffix hbehind hu) [] rfl]
              simp
          | none =>
              rw [hfirst] at htag
              have hr : r.getLast? ≠ some '\\' :=
                getLast?_ne_of_suffix (List.suffix_cons c r) hu
              have hskip := scan_of_none plain htag
              rw [scan_of_none plain hfirst, ← ih r.length (by simp [← hn]) hr _ rfl]
              exact hskip

end KbDocs.Console
