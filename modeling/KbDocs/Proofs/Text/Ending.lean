/-
Endings in any case.

A text in lower case ends in some letters exactly if the text itself ends
in them in some mix of cases (`suffix_lower_iff`). One direction is not
plain: lower case works on all of Unicode, and the sign for kelvin turns
into an ordinary k. But that is the only such letter. For endings without
a k, a letter of the ending stands for nothing but its own two cases.

Lower case is not read off character by character, since what becomes of
a sigma depends on its neighbours. Whatever they are, it remains a sigma;
`exists_forms` takes a text in lower case apart into the forms of its
characters, and an ending is traced back through them from its last
letter on.
-/
import Mathlib.Data.List.Induction
import KbDocs.Text.Case

namespace KbDocs.Text

-- ============================================================== letters

/-- An ASCII character that only itself and its capital become in lower
case. -/
def isPlain (x : Char) : Bool :=
  x.toNat < 128 && x != 'k' && x != '\x00'

/-- What a character can become in lower case, next to whatever. -/
def LowerForm (c : Char) (w : List Char) : Prop :=
  w = lowerChar c ∨ w = ['ς'] ∨ w = ['σ']

theorem toNat_ofNat_or (n : Nat) :
    (Char.ofNat n).toNat = n ∨ Char.ofNat n = '\x00' := by
  by_cases h : n.isValidChar
  · have hvalid : Char.ofNat n = Char.ofNatAux n h := dif_pos h
    exact .inl (by rw [hvalid]; rfl)
  · exact .inr (dif_neg h)

/-- Among the runs that hold characters beyond ASCII, only the one of the
kelvin sign leads into it. -/
theorem image_lowerRuns :
    ∀ r ∈ lowerRuns,
      r.last < 128 ∨ 128 ≤ r.image ∨ (r.image = 'k'.toNat ∧ r.first = r.last) := by
  decide +kernel

theorem getLast?_lowerSpecials :
    ∀ p ∈ lowerSpecials, ∀ x ∈ (p.2.map Char.ofNat).getLast?, isPlain x = false := by
  intro p hp x hx
  rw [lowerSpecials, List.mem_singleton] at hp
  rw [hp] at hx
  cases hx
  rfl

/-- No character beyond ASCII ends in a plain one in lower case. -/
theorem getLast?_mapCase {c x : Char} (hc : 128 ≤ c.toNat)
    (h : (mapCase lowerRuns lowerSpecials c).getLast? = some x) : isPlain x = false := by
  rw [mapCase] at h
  split at h
  case h_1 n hn =>
    obtain ⟨r, hr, himage⟩ := List.exists_of_findSome?_eq_some hn
    rw [CaseRun.image?] at himage
    split at himage
    case isFalse => cases himage
    case isTrue hrange =>
      simp only [Bool.and_eq_true, decide_eq_true_eq] at hrange
      cases himage
      cases h
      rcases toNat_ofNat_or (r.image + (c.toNat - r.first)) with hn | hn
      · rcases image_lowerRuns r hr with hlast | hbeyond | ⟨hk, hsingle⟩
        · omega
        · have hlarge : ¬ (Char.ofNat (r.image + (c.toNat - r.first))).toNat < 128 := by
            omega
          simp [isPlain, hlarge]
        · have hkelvin : r.image + (c.toNat - r.first) = 'k'.toNat := by omega
          rw [hkelvin]
          rfl
      · rw [hn]
        rfl
  case h_2 =>
    split at h
    case h_1 ns hns =>
      obtain ⟨l₁, l₂, heq, -⟩ := List.lookup_eq_some_iff.mp hns
      exact getLast?_lowerSpecials (c.toNat, ns) (by simp [heq]) x h
    case h_2 =>
      cases h
      have hlarge : ¬ c.toNat < 128 := by omega
      simp [isPlain, hlarge]

/-- A form that ends in a plain letter is that letter, and comes from one
of its two cases. -/
theorem LowerForm.eq_of_getLast? {c x : Char} {w : List Char} (h : LowerForm c w)
    (hlast : w.getLast? = some x) (hx : isPlain x = true) : w = [x] ∧ c.toLower = x := by
  rcases h with rfl | rfl | rfl
  · rw [lowerChar] at hlast ⊢
    split at hlast
    case isTrue hascii =>
      rw [if_pos hascii]
      cases hlast
      exact ⟨rfl, rfl⟩
    case isFalse hascii =>
      rw [getLast?_mapCase (by omega) hlast] at hx
      cases hx
  · cases hlast
    exact absurd hx (by decide)
  · cases hlast
    exact absurd hx (by decide)

theorem LowerForm.ne_nil {c : Char} {w : List Char} (h : LowerForm c w) : w ≠ [] := by
  have hspecials : ∀ p ∈ lowerSpecials, p.2 ≠ [] := by decide
  rcases h with rfl | rfl | rfl
  · rw [lowerChar, mapCase]
    split
    · simp
    · split
      · simp
      · split
        case h_1 ns hns =>
          obtain ⟨l₁, l₂, heq, -⟩ := List.lookup_eq_some_iff.mp hns
          have := hspecials (c.toNat, ns) (by simp [heq])
          simpa using this
        case h_2 => simp
  · simp
  · simp

-- ================================================================ texts

theorem lowerFrom_cons (passed : List Char) (c : Char) (r : List Char) :
    ∃ w, LowerForm c w ∧ lowerFrom passed (c :: r) = w ++ lowerFrom (c :: passed) r := by
  rw [lowerFrom]
  refine ⟨_, ?_, rfl⟩
  split
  · split
    · exact .inr (.inl rfl)
    · exact .inr (.inr rfl)
  · exact .inl rfl

/-- The lower case form of a text, by the forms of its characters. -/
theorem exists_forms (passed s : List Char) :
    ∃ ps : List (Char × List Char), ps.map Prod.fst = s
      ∧ ps.flatMap Prod.snd = lowerFrom passed s ∧ ∀ p ∈ ps, LowerForm p.1 p.2 := by
  induction s generalizing passed with
  | nil => exact ⟨[], rfl, rfl, by simp⟩
  | cons c r ih =>
      obtain ⟨w, hform, hw⟩ := lowerFrom_cons passed c r
      obtain ⟨ps, hchars, hforms, hall⟩ := ih (c :: passed)
      refine ⟨(c, w) :: ps, ?_, ?_, ?_⟩
      · rw [List.map_cons, hchars]
      · rw [List.flatMap_cons, hforms, hw]
      · intro p hp
        rcases List.mem_cons.mp hp with rfl | hp
        · exact hform
        · exact hall p hp

/-- Plain letters at the end of a text in lower case are traced back to
the end of the text, from the last one on. -/
theorem exists_ending {ending : List Char} (hplain : ∀ x ∈ ending, isPlain x = true)
    {ps : List (Char × List Char)} (hforms : ∀ p ∈ ps, LowerForm p.1 p.2)
    (h : List.IsSuffix ending (ps.flatMap Prod.snd)) :
    ∃ stem w, ps.map Prod.fst = stem ++ w ∧ w.map Char.toLower = ending := by
  induction ending using List.reverseRecOn generalizing ps with
  | nil => exact ⟨ps.map Prod.fst, [], (List.append_nil _).symm, rfl⟩
  | append_singleton ending x ih =>
      obtain ⟨before, hbefore⟩ := h
      rw [← List.append_assoc] at hbefore
      rcases List.eq_nil_or_concat ps with rfl | ⟨qs, p, rfl⟩
      · simp at hbefore
      · have hp := hforms p (by simp)
        rw [List.concat_eq_append, List.flatMap_append, List.flatMap_singleton] at hbefore
        have hlast : p.2.getLast? = some x := by
          have hends := congrArg List.getLast? hbefore
          rw [List.getLast?_concat, List.getLast?_append,
            List.getLast?_eq_some_getLast hp.ne_nil] at hends
          rw [List.getLast?_eq_some_getLast hp.ne_nil]
          exact hends.symm
        obtain ⟨hsingle, hlower⟩ := hp.eq_of_getLast? hlast (hplain x (by simp))
        rw [hsingle] at hbefore
        obtain ⟨stem, w, hchars, hw⟩ := ih (fun y hy => hplain y (by simp [hy]))
          (fun q hq => hforms q (by simp [hq]))
          ⟨before, List.append_cancel_right hbefore⟩
        refine ⟨stem, w ++ [p.1], ?_, ?_⟩
        · rw [List.concat_eq_append, List.map_append, hchars, List.append_assoc]
          rfl
        · rw [List.map_append, hw, List.map_singleton, hlower]

/-- What stands in front does not change how a text ends in lower
case, but for its sigmas. -/
theorem suffix_lowerFrom (passed stem w : List Char) :
    List.IsSuffix (lowerFrom (stem.reverse ++ passed) w) (lowerFrom passed (stem ++ w)) := by
  induction stem generalizing passed with
  | nil => exact List.suffix_refl _
  | cons c stem ih =>
      rw [List.cons_append, lowerFrom, List.reverse_cons, List.append_assoc]
      exact (ih (c :: passed)).trans (List.suffix_append _ _)

/-- ASCII letters have a lower case of their own. -/
theorem lowerFrom_of_ascii {w : List Char} (h : ∀ c ∈ w, c.toNat < 128)
    (passed : List Char) : lowerFrom passed w = w.map Char.toLower := by
  induction w generalizing passed with
  | nil => rfl
  | cons c w ih =>
      have hc := h c List.mem_cons_self
      have hsigma : c ≠ 'Σ' := by
        rintro rfl
        exact absurd hc (by decide)
      rw [lowerFrom, if_neg hsigma, lowerChar, if_pos hc,
        ih fun d hd => h d (List.mem_cons_of_mem c hd)]
      rfl

theorem toNat_lt_of_toLower {c : Char} (h : c.toLower.toNat < 128) : c.toNat < 128 := by
  by_cases hupper : c.val ≥ 'A'.val ∧ c.val ≤ 'Z'.val
  · have hle : c.toNat ≤ 90 := hupper.2
    omega
  · have hsame : c.toLower = c := dif_neg hupper
    rwa [hsame] at h

/-- A text in lower case ends in plain letters exactly if the text ends
in them in any case. -/
theorem suffix_lower_iff {ending s : List Char} (hplain : ∀ x ∈ ending, isPlain x = true) :
    List.IsSuffix ending (lower s)
      ↔ ∃ stem w, s = stem ++ w ∧ w.map Char.toLower = ending := by
  constructor
  · intro h
    obtain ⟨ps, rfl, hforms, hall⟩ := exists_forms [] s
    rw [lower, ← hforms] at h
    exact exists_ending hplain hall h
  · rintro ⟨stem, w, rfl, rfl⟩
    have hascii : ∀ c ∈ w, c.toNat < 128 := by
      intro c hc
      have hc' := hplain c.toLower (List.mem_map_of_mem hc)
      simp only [isPlain, Bool.and_eq_true, decide_eq_true_eq] at hc'
      exact toNat_lt_of_toLower hc'.1.1
    have hsuffix := suffix_lowerFrom [] stem w
    rwa [lowerFrom_of_ascii hascii] at hsuffix

end KbDocs.Text
