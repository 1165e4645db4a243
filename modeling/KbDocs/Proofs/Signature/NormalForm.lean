/-
The normal form of a call text, for any text at all.

Normalising goes over a text once with each of its three passes and then
trims it. Nothing is repeated until it has no effect any more, so it is
not plain that the result is in normal form: a pass might open something
for one that is over, and trimming comes last. `NormalForm` says of every
position what it should look like; `normalizeCall_reachesNormalForm` that
normalising gets there, and gets there by respelling single places
(`Respelled`) and nothing else.

# Why one pass of each is enough

No pass undoes another, so the rewritten text is fixed by lowering and
tightening (`respell_fixed`), and that is a statement about its positions.
Trimming takes white space off the ends only, and a position within is
one of the whole text: a word that may begin behind white space may also
begin the text (`normalForm_of_respell`).

# The last comma

Spaced text can end in a comma and a space. The space is trimmed, and the
comma is left as the last character; spacing once more puts the space
back, for trimming to take it again. So a normal form need not be a fixed
point of spacing, only of spacing and trimming (`NormalForm.normalizeCall_eq`).
-/
import KbDocs.Proofs.Signature.Settled
import Mathlib.Logic.Relation

namespace KbDocs.ParmRule

open KbDocs.Text

-- ==================================================== the normal form

/-- A call text in normal form. It is trimmed; every direction that begins
a word is in lower case and touches its colon; no colon has white space
and an ampersand behind it; and every comma but a last character has one
space and then something visible behind it. -/
structure NormalForm (s : List Char) : Prop where
  trimmed : Trimmed s
  directions : ∀ pre word blanks post, s = pre ++ (word ++ blanks ++ ':' :: post) →
    startsWord pre.getLast? = true → word ∈ spellings → allBlank blanks = true →
    blanks = [] ∧ lower word = word
  colons : ∀ pre blanks post, s = pre ++ ':' :: (blanks ++ '&' :: post) →
    allBlank blanks = true → blanks = []
  commas : ∀ pre post, s = pre ++ ',' :: post → post ≠ [] →
    ∃ c rest, post = ' ' :: c :: rest ∧ isBlank c = false

/-- A word may begin behind white space at the head of a text if it may
begin the text. -/
theorem startsWord_blank_append {w pre : List Char} (hw : allBlank w = true)
    (h : startsWord pre.getLast? = true) : startsWord (w ++ pre).getLast? = true := by
  rw [List.getLast?_append]
  cases hpre : pre.getLast? with
  | some c => rwa [hpre] at h
  | none =>
      rw [Option.none_or]
      cases hlast : w.getLast? with
      | none => rfl
      | some c => exact startsWord_of_blank (isBlank_of_mem hw (List.mem_of_getLast? hlast))

/-- What is left of rewritten text without the white space around it is in
normal form. -/
theorem normalForm_of_respell {s w t v : List Char} (hw : allBlank w = true)
    (ht : Trimmed t) (h : respell s = w ++ t ++ v) : NormalForm t := by
  obtain ⟨hlowered, htight⟩ := respell_fixed s
  rw [h] at hlowered htight
  refine ⟨ht, fun pre word blanks post heq hstart => ?_, fun pre blanks post heq => ?_,
    fun pre post heq hpost => ?_⟩
  · refine lowerDirections_eq_self_iff.mp hlowered (w ++ pre) word blanks (post ++ v) ?_ ?_
    · rw [heq]
      simp
    · rw [Option.or_none]
      exact startsWord_blank_append hw hstart
  · refine tightenColons_eq_self_iff.mp htight (w ++ pre) blanks (post ++ v) ?_
    rw [heq]
    simp
  · rcases comma_of_respell ht h heq with hspaced | ⟨hnil, -⟩
    · exact hspaced
    · exact absurd hnil hpost

theorem normalForm_normalizeCall (s : List Char) : NormalForm (normalizeCall s) := by
  obtain ⟨w, v, hw, -, hsplit⟩ := exists_trim (respell s)
  exact normalForm_of_respell hw (trimmed_trim (respell s)) hsplit

-- ======================================================== a second time

/-- Text in normal form is not changed. -/
theorem NormalForm.normalizeCall_eq {s : List Char} (h : NormalForm s) :
    normalizeCall s = s := by
  have hlowered : lowerDirections none s = s := by
    refine lowerDirections_eq_self_iff.mpr fun pre word blanks post heq hstart => ?_
    rw [Option.or_none] at hstart
    exact h.directions pre word blanks post heq hstart
  have hspace : trim (s ++ [' ']) = trim s := by
    have := trim_blank_append_append allBlank_nil (show allBlank [' '] = true by decide) s
    rwa [List.nil_append] at this
  rw [normalizeCall, hlowered, tightenColons_eq_self_iff.mpr h.colons,
    spaceCommas_of_spaced_within h.commas]
  split
  case isTrue => exact hspace.trans h.trimmed
  case isFalse => exact h.trimmed

/-- Normal forms are the texts that normalising does not change. -/
theorem normalizeCall_eq_self_iff {s : List Char} : normalizeCall s = s ↔ NormalForm s := by
  constructor
  · intro h
    rw [← h]
    exact normalForm_normalizeCall s
  · exact NormalForm.normalizeCall_eq

-- ====================================================== place by place

/-- One place of a text respelled: a direction that begins a word, the
white space between a colon and an ampersand, all the white space behind
a comma, or that at the ends. -/
inductive Respelled : List Char → List Char → Prop
  | direction (pre word blanks post : List Char) (hstart : startsWord pre.getLast? = true)
      (hword : word ∈ spellings) (hblanks : allBlank blanks = true) :
      Respelled (pre ++ (word ++ blanks ++ ':' :: post)) (pre ++ (lower word ++ ':' :: post))
  | colon (pre blanks post : List Char) (hblanks : allBlank blanks = true) :
      Respelled (pre ++ ':' :: (blanks ++ '&' :: post)) (pre ++ ':' :: '&' :: post)
  | comma (pre blanks post : List Char) (hblanks : allBlank blanks = true)
      (hpost : trimLeft post = post) :
      Respelled (pre ++ ',' :: (blanks ++ post)) (pre ++ ',' :: ' ' :: post)
  | ends (left s right : List Char) (hleft : allBlank left = true)
      (hright : allBlank right = true) : Respelled (left ++ s ++ right) s

/-- Texts that one comes to from another, place by place. -/
abbrev Respells : List Char → List Char → Prop :=
  Relation.ReflTransGen Respelled

/-- Lowering respells directions, from the first on. -/
theorem respells_lowerDirections {b : Option Char} {s : List Char} :
    ∀ pre : List Char, pre.getLast? = b → Respells (pre ++ s) (pre ++ lowerDirections b s) := by
  induction b, s using lowering_induction with
  | nil b =>
      intro pre _
      rw [lowerDirections_nil]
  | direction b s word rest hb hd ih =>
      intro pre hpre
      obtain ⟨hword, blanks, hblanks, rfl⟩ := directionHead?_eq_some_iff.mp hd
      rw [lowerDirections_direction hb hd]
      refine .head (.direction pre word blanks rest (hpre ▸ hb) hword hblanks) ?_
      have hrest := ih (pre ++ (lower word ++ [':'])) (by simp)
      simpa using hrest
  | pass b c r hd ih =>
      intro pre _
      rw [lowerDirections_pass hd]
      have hrest := ih (pre ++ [c]) (by simp)
      simpa using hrest

/-- Tightening closes up colons, from the last on. -/
theorem respells_tightenColons (pre s : List Char) :
    Respells (pre ++ s) (pre ++ tightenColons s) := by
  induction s generalizing pre with
  | nil => rfl
  | cons c r ih =>
      have hrest : Respells (pre ++ c :: r) (pre ++ c :: tightenColons r) := by
        simpa using ih (pre ++ [c])
      by_cases hc : c = ':'
      · subst hc
        rw [tightenColons_colon, closeUp]
        split
        case isFalse => exact hrest
        case isTrue hamp =>
          obtain ⟨post, hpost⟩ := List.head?_eq_some_iff.mp hamp
          obtain ⟨blanks, hblanks, hsplit⟩ := exists_trimLeft (tightenColons r)
          rw [hpost] at hsplit ⊢
          rw [hsplit] at hrest
          exact hrest.tail (.colon pre blanks post hblanks)
      · rwa [tightenColons_cons_of_ne hc]

/-- Spacing respells what is behind commas, from the last on. -/
theorem respells_spaceCommas (pre s : List Char) :
    Respells (pre ++ s) (pre ++ spaceCommas s) := by
  induction s generalizing pre with
  | nil => rfl
  | cons c r ih =>
      have hrest : Respells (pre ++ c :: r) (pre ++ c :: spaceCommas r) := by
        simpa using ih (pre ++ [c])
      by_cases hc : c = ','
      · subst hc
        obtain ⟨blanks, hblanks, hsplit⟩ := exists_trimLeft (spaceCommas r)
        rw [spaceCommas_comma]
        rw [hsplit] at hrest
        exact hrest.tail (.comma pre blanks _ hblanks (trimLeft_idem _))
      · rwa [spaceCommas_cons_of_ne hc]

/-- Normalising is respelling. -/
theorem respells_normalizeCall (s : List Char) : Respells s (normalizeCall s) := by
  obtain ⟨left, right, hleft, hright, hsplit⟩ := exists_trim (respell s)
  have htrim : Respelled (respell s) (normalizeCall s) := by
    conv => lhs; rw [hsplit]
    exact .ends left _ right hleft hright
  calc Respells s (lowerDirections none s) := respells_lowerDirections [] rfl
    Respells _ (tightenColons (lowerDirections none s)) := respells_tightenColons [] _
    Respells _ (respell s) := respells_spaceCommas [] _
    Respells _ (normalizeCall s) := .single htrim

-- ============================================================= one pass

/-- Normalising any text reaches a normal form at once, and reaches it
place by place. It does not change the result a second time: the texts
that it does not change are those in normal form. -/
theorem normalizeCall_reachesNormalForm (s : List Char) :
    NormalForm (normalizeCall s)
    ∧ normalizeCall (normalizeCall s) = normalizeCall s
    ∧ (normalizeCall s = s ↔ NormalForm s)
    ∧ Respells s (normalizeCall s) := by
  have hnormal := normalForm_normalizeCall s
  exact ⟨hnormal, hnormal.normalizeCall_eq, normalizeCall_eq_self_iff, respells_normalizeCall s⟩

example : normalizeCall "\tİN :&A ,, IN :\u00A0& B,xin :C, ".toList
    = "i\u0307n:&A , , in:& B, xin :C,".toList := by
  decide +kernel

end KbDocs.ParmRule
