/-
Trimming as a decomposition. Every text is white space, a core, and
white space again; `trim` returns the core. The rules on text elsewhere
never look at how trimming scans: they put a text into this form and
read the result off it.

# The two ends

`trimLeft` is a `dropWhile`, so its facts come from the library.
`trimRight` scans with a look at what is left of the rest; its one
characterisation is `trimRight_append`: the trailing part decides alone
unless nothing of it is left. From that, what a trimmed text looks like
(`trimmed_iff`) and that the two ends do not disturb each other
(`trimLeft_trimRight`).
-/
import KbDocs.Text.Blank
import KbDocs.Text.WordChar
import Mathlib.Data.List.TakeWhile

namespace KbDocs.Text

-- ======================================================= the class

/-- A run of code points without word characters has none in it. -/
private theorem not_isWordChar_of_range {c : Char} (lo len : Nat)
    (hall : ∀ n ∈ List.range' lo len, isWordChar (Char.ofNat n) = false)
    (hlo : lo ≤ c.toNat) (hhi : c.toNat < lo + len) : isWordChar c = false := by
  have := hall c.toNat (List.mem_range'_1.mpr ⟨hlo, hhi⟩)
  rwa [Char.ofNat_toNat] at this

/-- White space never belongs to a word. -/
theorem not_isWordChar_of_isBlank {c : Char} (h : isBlank c = true) :
    isWordChar c = false := by
  simp only [isBlank, Bool.or_eq_true, Bool.and_eq_true, decide_eq_true_eq,
    beq_iff_eq] at h
  -- one case for each run of code points in the class
  rcases h with
    (((((((((h | h) | h) | h) | h) | h) | h) | h) | h) | h) | h
  · exact not_isWordChar_of_range 9 5 (by decide +kernel) h.1 (by omega)
  · exact not_isWordChar_of_range 28 5 (by decide +kernel) h.1 (by omega)
  · exact not_isWordChar_of_range 0x85 1 (by decide +kernel) (by omega) (by omega)
  · exact not_isWordChar_of_range 0xA0 1 (by decide +kernel) (by omega) (by omega)
  · exact not_isWordChar_of_range 0x1680 1 (by decide +kernel) (by omega) (by omega)
  · exact not_isWordChar_of_range 0x2000 11 (by decide +kernel) h.1 (by omega)
  · exact not_isWordChar_of_range 0x2028 1 (by decide +kernel) (by omega) (by omega)
  · exact not_isWordChar_of_range 0x2029 1 (by decide +kernel) (by omega) (by omega)
  · exact not_isWordChar_of_range 0x202F 1 (by decide +kernel) (by omega) (by omega)
  · exact not_isWordChar_of_range 0x205F 1 (by decide +kernel) (by omega) (by omega)
  · exact not_isWordChar_of_range 0x3000 1 (by decide +kernel) (by omega) (by omega)

-- ==================================================== blank stretches

@[simp]
theorem allBlank_nil : allBlank [] = true := rfl

@[simp]
theorem allBlank_cons (c : Char) (s : List Char) :
    allBlank (c :: s) = (isBlank c && allBlank s) := rfl

@[simp]
theorem allBlank_append (s t : List Char) :
    allBlank (s ++ t) = (allBlank s && allBlank t) :=
  List.all_append

theorem isBlank_of_mem {s : List Char} (h : allBlank s = true) {c : Char}
    (hc : c ∈ s) : isBlank c = true :=
  List.all_eq_true.mp h c hc

-- ======================================================= the left end

@[simp]
theorem trimLeft_nil : trimLeft [] = [] := rfl

theorem trimLeft_cons_of_blank {c : Char} (h : isBlank c = true)
    (s : List Char) : trimLeft (c :: s) = trimLeft s :=
  List.dropWhile_cons_of_pos h

theorem trimLeft_cons_of_not_blank {c : Char} (h : isBlank c = false)
    (s : List Char) : trimLeft (c :: s) = c :: s :=
  List.dropWhile_cons_of_neg (by simp [h])

/-- Leading white space is dropped whatever follows it. -/
theorem trimLeft_blank_append {w : List Char} (h : allBlank w = true)
    (s : List Char) : trimLeft (w ++ s) = trimLeft s :=
  List.dropWhile_append_of_pos fun _ hc => isBlank_of_mem h hc

/-- What `trimLeft` drops is white space. -/
theorem exists_trimLeft (s : List Char) :
    ∃ w, allBlank w = true ∧ s = w ++ trimLeft s :=
  ⟨s.takeWhile isBlank, List.all_takeWhile,
    List.takeWhile_append_dropWhile.symm⟩

theorem trimLeft_idem (s : List Char) : trimLeft (trimLeft s) = trimLeft s := by
  obtain ⟨w, hw, hs⟩ := exists_trimLeft s
  have := trimLeft_blank_append hw (trimLeft s)
  rw [← hs] at this
  exact this.symm

/-- What is left of a text does not begin with white space. -/
theorem isBlank_head_trimLeft {s r : List Char} {c : Char}
    (h : trimLeft s = c :: r) : isBlank c = false := by
  have hhead := List.head?_dropWhile_not isBlank s
  rw [← trimLeft, h] at hhead
  simpa using hhead

/-- Nothing is left of a text only if it is blank. -/
theorem trimLeft_eq_nil_iff {s : List Char} :
    trimLeft s = [] ↔ allBlank s = true := by
  rw [trimLeft, List.dropWhile_eq_nil_iff, allBlank, List.all_eq_true]

/-- A leading part decides alone where a text begins, unless it is
blank. -/
theorem trimLeft_append (s t : List Char) :
    trimLeft (s ++ t) = if allBlank s then trimLeft t else trimLeft s ++ t := by
  cases hs : allBlank s with
  | true => exact trimLeft_blank_append hs t
  | false =>
      have hne : trimLeft s ≠ [] := by
        rw [Ne, trimLeft_eq_nil_iff, hs]
        decide
      rw [trimLeft, List.dropWhile_append, ← trimLeft]
      simp [hne]

/-- A visible character ends the stretch that `trimLeft` looks at. -/
theorem trimLeft_append_cons {c : Char} (h : isBlank c = false)
    (s r : List Char) : trimLeft (s ++ c :: r) = trimLeft s ++ c :: r := by
  induction s with
  | nil => rw [List.nil_append, trimLeft_cons_of_not_blank h]; rfl
  | cons d s ih =>
      cases hd : isBlank d with
      | true =>
          rw [List.cons_append, trimLeft_cons_of_blank hd,
            trimLeft_cons_of_blank hd, ih]
      | false =>
          rw [List.cons_append, trimLeft_cons_of_not_blank hd,
            trimLeft_cons_of_not_blank hd, List.cons_append]

-- ====================================================== the right end

@[simp]
theorem trimRight_nil : trimRight [] = [] := rfl

theorem trimRight_cons (c : Char) (s : List Char) :
    trimRight (c :: s)
      = if trimRight s = [] then (if isBlank c then [] else [c])
        else c :: trimRight s := by
  rw [trimRight]
  cases trimRight s with
  | nil => simp
  | cons d t => simp

/-- Nothing is left of a text only if it is blank. -/
theorem trimRight_eq_nil_iff {s : List Char} :
    trimRight s = [] ↔ allBlank s = true := by
  induction s with
  | nil => simp
  | cons c s ih =>
      rw [trimRight_cons, allBlank_cons, Bool.and_eq_true]
      by_cases hs : trimRight s = []
      · rw [if_pos hs]
        cases hc : isBlank c with
        | true => simp [ih.mp hs]
        | false => simp
      · rw [if_neg hs]
        simp [← ih, hs]

/-- A trailing part decides alone where a text ends, unless it is
blank: then it goes, and what stands before it decides. -/
theorem trimRight_append (s t : List Char) :
    trimRight (s ++ t)
      = if allBlank t then trimRight s else s ++ trimRight t := by
  induction s with
  | nil =>
      cases ht : allBlank t with
      | true => simp [trimRight_eq_nil_iff.mpr ht]
      | false => simp
  | cons c s ih =>
      rw [List.cons_append, trimRight_cons, ih]
      cases ht : allBlank t with
      | true => simp [trimRight_cons]
      | false =>
          have hne : trimRight t ≠ [] := by
            rw [Ne, trimRight_eq_nil_iff, ht]
            simp
          simp [hne]

/-- Trailing white space is dropped whatever stands before it. -/
theorem trimRight_append_blank {w : List Char} (h : allBlank w = true)
    (s : List Char) : trimRight (s ++ w) = trimRight s := by
  rw [trimRight_append, if_pos h]

/-- A visible character keeps all that stands before it. -/
theorem trimRight_append_cons {c : Char} (h : isBlank c = false)
    (s t : List Char) :
    trimRight (s ++ c :: t) = s ++ c :: trimRight t := by
  have hct : allBlank (c :: t) = false := by simp [h]
  rw [trimRight_append, hct, trimRight_cons]
  by_cases ht : trimRight t = []
  · simp [ht, h]
  · simp [ht]

/-- What `trimRight` drops is white space. -/
theorem exists_trimRight (s : List Char) :
    ∃ w, allBlank w = true ∧ s = trimRight s ++ w := by
  induction s with
  | nil => exact ⟨[], rfl, rfl⟩
  | cons c s ih =>
      obtain ⟨w, hw, hs⟩ := ih
      rw [trimRight_cons]
      by_cases ht : trimRight s = []
      · rw [if_pos ht]
        have hblank := trimRight_eq_nil_iff.mp ht
        cases hc : isBlank c with
        | true => exact ⟨c :: s, by simp [hc, hblank], by simp⟩
        | false => exact ⟨s, hblank, by simp⟩
      · rw [if_neg ht]
        exact ⟨w, hw, by rw [List.cons_append, ← hs]⟩

-- ========================================================== both ends

/-- The two ends of a text are trimmed independently. -/
theorem trimLeft_trimRight (s : List Char) :
    trimLeft (trimRight s) = trim s := by
  obtain ⟨w, hw, hs⟩ := exists_trimLeft s
  cases hrest : trimLeft s with
  | nil =>
      have hblank := trimLeft_eq_nil_iff.mp hrest
      rw [trim, hrest, trimRight_eq_nil_iff.mpr hblank]
      rfl
  | cons c r =>
      have hc := isBlank_head_trimLeft hrest
      have hr : trimRight (c :: r) = c :: trimRight r :=
        trimRight_append_cons hc [] r
      rw [trim, hrest, hr]
      rw [hrest] at hs
      rw [hs, trimRight_append_cons hc, trimLeft_blank_append hw,
        trimLeft_cons_of_not_blank hc]

/-- White space around a text does not matter. -/
theorem trim_blank_append_append {w v : List Char} (hw : allBlank w = true)
    (hv : allBlank v = true) (s : List Char) :
    trim (w ++ s ++ v) = trim s := by
  rw [← trimLeft_trimRight, trimRight_append_blank hv, trimLeft_trimRight,
    trim, trimLeft_blank_append hw, ← trim]

/-- Every text is white space, its trimmed form, and white space. -/
theorem exists_trim (s : List Char) :
    ∃ w v, allBlank w = true ∧ allBlank v = true ∧ s = w ++ trim s ++ v := by
  obtain ⟨w, hw, hs⟩ := exists_trimLeft s
  obtain ⟨v, hv, ht⟩ := exists_trimRight (trimLeft s)
  refine ⟨w, v, hw, hv, ?_⟩
  rw [trim, List.append_assoc, ← ht]
  exact hs

/-- Trimming what is left of the left end is trimming. -/
theorem trim_trimLeft (s : List Char) : trim (trimLeft s) = trim s := by
  obtain ⟨w, hw, hs⟩ := exists_trimLeft s
  conv => rhs; rw [hs]
  have := trim_blank_append_append hw allBlank_nil (trimLeft s)
  rw [List.append_nil] at this
  exact this.symm

/-- Trimming what is left of the right end is trimming. -/
theorem trim_trimRight (s : List Char) : trim (trimRight s) = trim s := by
  obtain ⟨w, hw, hs⟩ := exists_trimRight s
  conv => rhs; rw [hs]
  exact (trim_blank_append_append allBlank_nil hw (trimRight s)).symm

/-- Nothing is left of a text only if it is blank. -/
theorem trim_eq_nil_iff {s : List Char} :
    trim s = [] ↔ allBlank s = true := by
  rw [trim, trimRight_eq_nil_iff]
  obtain ⟨w, hw, hs⟩ := exists_trimLeft s
  conv => rhs; rw [hs]
  simp [hw]

/-- A text that begins and ends with a visible character is trimmed. -/
theorem trim_eq_self {s : List Char}
    (hfirst : ∀ c ∈ s.head?, isBlank c = false)
    (hlast : ∀ c ∈ s.getLast?, isBlank c = false) : trim s = s := by
  cases s with
  | nil => rfl
  | cons c r =>
      rw [trim, trimLeft_cons_of_not_blank (hfirst c rfl)]
      obtain ⟨init, d, hd⟩ : ∃ init d, c :: r = init ++ [d] :=
        ⟨_, _, (List.dropLast_concat_getLast (by simp)).symm⟩
      rw [hd]
      rw [hd, List.getLast?_append] at hlast
      exact trimRight_append_cons (hlast d rfl) init []

/-- A trimmed text is one that has visible characters at both ends, or
nothing between them. -/
theorem trimmed_iff {s : List Char} :
    Trimmed s ↔ (∀ c ∈ s.head?, isBlank c = false)
      ∧ ∀ c ∈ s.getLast?, isBlank c = false := by
  constructor
  · intro h
    rw [Trimmed] at h
    constructor
    · intro c hc
      cases s with
      | nil => cases hc
      | cons d r =>
          cases hc
          cases hd : isBlank c with
          | false => rfl
          | true =>
              have hlen := length_trim_le r
              rw [trim, trimLeft_cons_of_blank hd, ← trim] at h
              rw [h, List.length_cons] at hlen
              omega
    · intro c hc
      obtain ⟨init, rfl⟩ : ∃ init, s = init ++ [c] :=
        List.getLast?_eq_some_iff.mp hc
      cases hd : isBlank c with
      | false => rfl
      | true =>
          have hlen := length_trim_le init
          rw [← trimLeft_trimRight,
            trimRight_append_blank (by simp [hd]), trimLeft_trimRight] at h
          rw [h, List.length_append, List.length_singleton] at hlen
          omega
  · rintro ⟨hfirst, hlast⟩
    exact trim_eq_self hfirst hlast

/-- The left end of a trimmed text is trimmed. -/
theorem trimLeft_of_trimmed {s : List Char} (h : Trimmed s) : trimLeft s = s := by
  cases s with
  | nil => rfl
  | cons c r => exact trimLeft_cons_of_not_blank ((trimmed_iff.mp h).1 c rfl) r

/-- The right end of a trimmed text is trimmed. -/
theorem trimRight_of_trimmed {s : List Char} (h : Trimmed s) : trimRight s = s := by
  have htrim : trimRight (trimLeft s) = s := h
  rwa [trimLeft_of_trimmed h] at htrim

/-- The end of a trimmed text is not blank. -/
theorem allBlank_of_trimmed_append {s t : List Char} (h : Trimmed (s ++ t)) (ht : t ≠ []) :
    allBlank t = false := by
  have hlast : isBlank (t.getLast ht) = false := by
    refine (trimmed_iff.mp h).2 _ ?_
    rw [List.getLast?_append, List.getLast?_eq_some_getLast ht]
    rfl
  cases hblank : allBlank t with
  | false => rfl
  | true =>
      rw [isBlank_of_mem hblank (List.getLast_mem ht)] at hlast
      cases hlast

/-- Trimming leaves a trimmed text. -/
theorem trimmed_trim (s : List Char) : Trimmed (trim s) := by
  obtain ⟨w, v, hw, hv, hs⟩ := exists_trim s
  have := trim_blank_append_append hw hv (trim s)
  rw [← hs] at this
  exact this.symm

/-- Trimming does not put anything into a text. -/
theorem mem_of_mem_trim {s : List Char} {c : Char} (h : c ∈ trim s) : c ∈ s := by
  obtain ⟨w, v, -, -, hs⟩ := exists_trim s
  rw [hs]
  exact List.mem_append_left v (List.mem_append_right w h)

/-- Visible characters survive trimming, and none appear. -/
theorem mem_trim {s : List Char} {c : Char} (h : isBlank c = false) :
    c ∈ trim s ↔ c ∈ s := by
  obtain ⟨w, v, hw, hv, hs⟩ := exists_trim s
  conv => rhs; rw [hs]
  have hcw : c ∉ w := fun hc => by
    rw [isBlank_of_mem hw hc] at h
    cases h
  have hcv : c ∉ v := fun hc => by
    rw [isBlank_of_mem hv hc] at h
    cases h
  simp [hcw, hcv]

/-- `trim` on strings leaves a trimmed text. -/
theorem trimmed_trimmed (s : String) : Trimmed (trimmed s).toList := by
  rw [trimmed, String.toList_ofList]
  exact trimmed_trim s.toList

end KbDocs.Text
