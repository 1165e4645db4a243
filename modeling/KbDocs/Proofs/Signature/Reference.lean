/-
What a `parm` rule says, without a scan.

The reader of a rule walks: it drops comment lines, tries a call at one
position after another, takes a text up to the first parenthesis, and
reads the segments of it one by one. This file says what it comes to in
terms of texts and positions alone:

- `CallAt t i a`: at position `i` of `t` stands the keyword, in any case,
  white space, and the argument text `a` in parentheses, on one line.
- `FirstCall t a`: so it does at some position, and at no earlier one
  does any call. A keyword whose parenthesis is not closed on its line is
  no call, and a later one counts.
- `Declares s p`: the segment `s`, trimmed, is a direction, a colon and an
  ampersand with white space between them, and then a name.

A direction is one of three words and the first of them begins the third,
but the colon decides: a segment is read in one way only
(`declares_iff`). `signature?_reference` puts this together.
-/
import KbDocs.Proofs.Signature.RoundTrip
import Mathlib.Data.List.Forall2
import Mathlib.Data.Nat.Find

namespace KbDocs.ParmRule

open KbDocs.Text

-- ============================================================ the call

/-- A rules text without its comment lines. -/
def uncommented (rules : List Char) : List Char :=
  ['\n'].intercalate
    ((rules.splitOn '\n').filter fun line => !"//".toList.isPrefixOf (trim line))

theorem dropCommentLines_eq_uncommented (rules : List Char) :
    dropCommentLines rules = uncommented rules := by
  rw [dropCommentLines, lines, pieces_eq_splitOn]
  rfl

/-- A call at a position of a text, with its argument text. -/
def CallAt (t : List Char) (i : Nat) (arguments : List Char) : Prop :=
  ∃ word blanks rest, t.drop i = word ++ blanks ++ '(' :: (arguments ++ ')' :: rest)
    ∧ word ∈ spellingsOf "parm".toList ∧ allBlank blanks = true
    ∧ ')' ∉ arguments ∧ '\n' ∉ arguments

/-- The argument text of the call at the first position where there is
one. -/
def FirstCall (t arguments : List Char) : Prop :=
  ∃ i, CallAt t i arguments ∧ ∀ j, j < i → ∀ a, ¬ CallAt t j a

/-- The reader of a call finds one at the head of a text. -/
theorem callHead?_eq_some_iff {s a : List Char} : callHead? s = some a ↔ CallAt s 0 a := by
  unfold callHead? CallAt
  rw [List.drop_zero]
  constructor
  · intro h
    split at h
    case h_1 => cases h
    case h_2 word rest hkey =>
      obtain ⟨hword, rfl⟩ := keyword?_eq_some_iff.mp hkey
      split at h
      case h_2 => cases h
      case h_1 after hafter =>
        obtain ⟨hfree, t, rfl⟩ := upToParen_eq_some_iff.mp h
        obtain ⟨w, hw, hrest⟩ := exists_trimLeft rest
        rw [hafter] at hrest
        exact ⟨word, w, t, by rw [hrest, List.append_assoc], hword, hw, hfree⟩
  · rintro ⟨word, w, t, rfl, hword, hw, hfree⟩
    have hkey : keyword? "parm".toList (word ++ w ++ '(' :: (a ++ ')' :: t))
        = some (word, w ++ '(' :: (a ++ ')' :: t)) :=
      keyword?_eq_some_iff.mpr ⟨hword, List.append_assoc ..⟩
    rw [hkey]
    dsimp only
    rw [trimLeft_blank_append hw, trimLeft_cons_of_not_blank (by decide)]
    exact upToParen_eq_some_iff.mpr ⟨hfree, t, rfl⟩

/-- Behind its first character, a text has the calls of its tail. -/
theorem callAt_cons_succ {c : Char} {r a : List Char} {i : Nat} :
    CallAt (c :: r) (i + 1) a ↔ CallAt r i a := by
  unfold CallAt
  rw [List.drop_succ_cons]

/-- There is no call in nothing. -/
theorem not_callAt_nil {a : List Char} {i : Nat} : ¬ CallAt [] i a := by
  rintro ⟨word, w, rest, h, -⟩
  simp at h

/-- The search for a call finds the first one. -/
theorem findCall?_eq_some_iff {t a : List Char} : findCall? t = some a ↔ FirstCall t a := by
  induction t with
  | nil =>
      constructor
      · intro h
        cases h
      · rintro ⟨i, h, -⟩
        exact absurd h not_callAt_nil
  | cons c r ih =>
      rw [findCall?]
      cases hcall : callHead? (c :: r) with
      | some b =>
          have hhead := callHead?_eq_some_iff.mp hcall
          dsimp only
          constructor
          · intro h
            cases h
            exact ⟨0, hhead, fun j hj => absurd hj (Nat.not_lt_zero j)⟩
          · rintro ⟨i, hi, hfirst⟩
            cases i with
            | zero => rw [← hcall, callHead?_eq_some_iff]; exact hi
            | succ i => exact absurd hhead (hfirst 0 (Nat.succ_pos i) b)
      | none =>
          have hhead : ∀ b, ¬ CallAt (c :: r) 0 b := by
            intro b hb
            rw [callHead?_eq_some_iff.mpr hb] at hcall
            cases hcall
          dsimp only
          rw [ih]
          constructor
          · rintro ⟨i, hi, hfirst⟩
            refine ⟨i + 1, callAt_cons_succ.mpr hi, fun j hj b hb => ?_⟩
            cases j with
            | zero => exact hhead b hb
            | succ j => exact hfirst j (by omega) b (callAt_cons_succ.mp hb)
          · rintro ⟨i, hi, hfirst⟩
            cases i with
            | zero => exact absurd hi (hhead a)
            | succ i =>
                refine ⟨i, callAt_cons_succ.mp hi, fun j hj b hb => ?_⟩
                exact hfirst (j + 1) (by omega) b (callAt_cons_succ.mpr hb)

/-- Where there is a call, there is a first one. -/
theorem exists_firstCall {t : List Char} (h : ∃ i a, CallAt t i a) : ∃ a, FirstCall t a := by
  classical
  obtain ⟨a, ha⟩ := Nat.find_spec h
  exact ⟨a, Nat.find h, ha, fun j hj b hb => Nat.find_min h hj ⟨b, hb⟩⟩

theorem findCall?_eq_none_iff {t : List Char} :
    findCall? t = none ↔ ¬ ∃ i a, CallAt t i a := by
  constructor
  · intro hnone hcall
    obtain ⟨a, ha⟩ := exists_firstCall hcall
    rw [findCall?_eq_some_iff.mpr ha] at hnone
    cases hnone
  · intro hnone
    cases hfound : findCall? t with
    | none => rfl
    | some a =>
        obtain ⟨i, hcall, -⟩ := findCall?_eq_some_iff.mp hfound
        exact absurd ⟨i, a, hcall⟩ hnone

-- ======================================================== the segments

/-- What a segment of an argument text declares: trimmed, it is a
direction, white space, a colon, white space, an ampersand and at least
one character more. The name is what follows the first ampersand. -/
def Declares (segment : List Char) (p : Parameter) : Prop :=
  ∃ head name, trim segment = head ++ '&' :: name ∧ '&' ∉ head ∧ name ≠ []
    ∧ ∃ word blanks blanks', head = word ++ blanks ++ ':' :: blanks' ∧ word ∈ spellings
      ∧ allBlank blanks = true ∧ allBlank blanks' = true
      ∧ p = { name := String.ofList (trim name), direction := String.ofList (upper word) }

/-- The reader of a segment finds what it declares. -/
theorem declares_iff {segment : List Char} {p : Parameter} :
    segmentParameter? (trim segment) = some p ↔ Declares segment p := by
  rw [segmentParameter?_eq_some_iff]
  constructor
  · rintro ⟨word, w, v, c, name, hword, hw, hv, hs, rfl⟩
    refine ⟨word ++ w ++ ':' :: v, c :: name, by rw [hs]; simp, ?_, by simp,
      word, w, v, rfl, hword, hw, hv, rfl⟩
    -- the ampersand is neither a keyword letter nor white space
    have hletter : '&' ∉ word := fun h =>
      absurd (mem_keywordLetters word hword '&' h) (by decide)
    have hblank : ∀ u : List Char, allBlank u = true → '&' ∉ u := fun u hu h =>
      absurd (isBlank_of_mem hu h) (by decide)
    simp [hletter, hblank w hw, hblank v hv]
  · rintro ⟨head, name, hs, -, hname, word, w, v, rfl, hword, hw, hv, rfl⟩
    obtain ⟨c, name, rfl⟩ := List.exists_cons_of_ne_nil hname
    exact ⟨word, w, v, c, name, hword, hw, hv, by rw [hs]; simp, rfl⟩

/-- A segment that declares a parameter. -/
def IsDeclaration (segment : List Char) : Prop :=
  ∃ p, Declares segment p

theorem isDeclaration_iff {segment : List Char} :
    IsDeclaration segment ↔ (segmentParameter? (trim segment)).isSome = true := by
  simp only [IsDeclaration, Option.isSome_iff_exists, declares_iff]

instance (segment : List Char) : Decidable (IsDeclaration segment) :=
  decidable_of_iff' _ isDeclaration_iff

/-- Reading segments one by one gives one parameter for each declaration,
in order. -/
theorem filterMap_segmentParameter?_iff {segments : List (List Char)} {ps : List Parameter} :
    segments.filterMap (fun s => segmentParameter? (trim s)) = ps
      ↔ List.Forall₂ Declares (segments.filter IsDeclaration) ps := by
  induction segments generalizing ps with
  | nil => simp [eq_comm]
  | cons s segments ih =>
      rw [List.filterMap_cons, List.filter_cons]
      cases hs : segmentParameter? (trim s) with
      | none =>
          have hnot : ¬ IsDeclaration s := by simp [isDeclaration_iff, hs]
          rw [if_neg (by simpa using hnot)]
          exact ih
      | some p =>
          have hdeclares : Declares s p := declares_iff.mp hs
          rw [if_pos (by simpa using ⟨p, hdeclares⟩)]
          constructor
          · rintro rfl
            exact .cons hdeclares (ih.mp rfl)
          · rintro (_ | ⟨hq, htail⟩)
            rw [← declares_iff, hs] at hq
            cases hq
            exact congrArg (p :: ·) (ih.mpr htail)

theorem argumentParameters_eq_iff {arguments : List Char} {ps : List Parameter} :
    argumentParameters arguments = ps
      ↔ List.Forall₂ Declares ((arguments.splitOn ',').filter IsDeclaration) ps := by
  rw [argumentParameters, pieces_eq_splitOn, filterMap_segmentParameter?_iff]

/-- An argument text declares nothing exactly if no segment of it does. -/
theorem argumentParameters_eq_nil_iff {arguments : List Char} :
    argumentParameters arguments = []
      ↔ ∀ segment ∈ arguments.splitOn ',', ¬ IsDeclaration segment := by
  rw [argumentParameters_eq_iff, List.forall₂_nil_right_iff, List.filter_eq_nil_iff]
  simp

-- ============================================================ the rule

/-- A rules text without a signature has no call, or one whose arguments
declare nothing. -/
theorem signature?_eq_none_iff {rules procedure : String} :
    signature? rules procedure = none
      ↔ findCall? (dropCommentLines rules.toList) = none
        ∨ ∃ a, findCall? (dropCommentLines rules.toList) = some a
          ∧ allBlank a = false ∧ argumentParameters a = [] := by
  unfold signature?
  cases findCall? (dropCommentLines rules.toList) with
  | none => simp
  | some a =>
      cases hblank : allBlank a with
      | true => simp [hblank]
      | false =>
          cases hparams : argumentParameters a with
          | nil => simp [hblank, hparams]
          | cons p ps => simp [hblank, hparams]

/-- A rules text declares no signature exactly if no call stands in it
outside comment lines, or if the first one has arguments but no segment
that declares a parameter. Otherwise the signature is empty for blank
arguments, and for others has one parameter for each segment that
declares one, in order. -/
theorem signature?_reference (rules procedure : String) :
    (signature? rules procedure = none
      ↔ (¬ ∃ i arguments, CallAt (uncommented rules.toList) i arguments)
        ∨ ∃ arguments, FirstCall (uncommented rules.toList) arguments
          ∧ allBlank arguments = false
          ∧ ∀ segment ∈ arguments.splitOn ',', ¬ IsDeclaration segment)
    ∧ ∀ sig, signature? rules procedure = some sig
      ↔ ∃ arguments, FirstCall (uncommented rules.toList) arguments
        ∧ (allBlank arguments = true
            ∧ sig = { parameters := [], callText := canonicalCall procedure [] }
          ∨ allBlank arguments = false
            ∧ ∃ ps, ps ≠ []
              ∧ List.Forall₂ Declares ((arguments.splitOn ',').filter IsDeclaration) ps
              ∧ sig = { parameters := ps
                        callText := String.ofList (normalizeCall
                          (procedure.toList ++ '(' :: arguments ++ [')']) ++ [';']) }) := by
  rw [← dropCommentLines_eq_uncommented]
  constructor
  · rw [signature?_eq_none_iff, findCall?_eq_none_iff]
    simp only [findCall?_eq_some_iff, argumentParameters_eq_nil_iff]
  · intro sig
    rw [signature?_eq_some_iff]
    simp only [findCall?_eq_some_iff, ← argumentParameters_eq_iff]
    refine exists_congr fun a => and_congr_right fun _ => or_congr_right ?_
    refine and_congr_right fun _ => ⟨?_, ?_⟩
    · rintro ⟨hne, rfl⟩
      exact ⟨_, hne, rfl, rfl⟩
    · rintro ⟨ps, hne, rfl, rfl⟩
      exact ⟨hne, rfl⟩

end KbDocs.ParmRule
