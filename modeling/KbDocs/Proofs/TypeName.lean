/-
Bare type names in closed form.

Qualifiers are stripped in rounds. A round drops the text up to the first
colon and the text from the first comma on, and trims what is left; it is
repeated while there is something to strip (`Qualified`). Every round
uses up a colon, so there are no more rounds than colons
(`exists_rounds`).

# What the rounds come to

Only the first round can meet a comma. Behind it the text falls into the
pieces between its colons, and each further round drops one piece from
the front. What white space it trims lies at the outer ends of the first
and the last piece, for a colon is not white space. So the rounds stop
at the first piece that reads `Attribute` but for white space before it
and has a colon behind it, and else at the last piece
(`stripQualifiers_join`). `closedForm` is that, with no rounds in it.
-/
import KbDocs.Proofs.Text.Blank
import KbDocs.Proofs.Text.Cut
import KbDocs.TypeName
import Mathlib.Logic.Function.Iterate

namespace KbDocs.TypeName

open KbDocs.Text

-- ============================================================= rounds

/-- A text with a qualifier to strip: it has a colon and does not begin
as a reference to an attribute does. -/
def Qualified (s : List Char) : Prop :=
  ':' ∈ s ∧ ¬ "Attribute:".toList <+: s

instance (s : List Char) : Decidable (Qualified s) :=
  inferInstanceAs (Decidable (_ ∧ _))

/-- The text behind the first colon, up to the first comma there. -/
def unqualified (s : List Char) : List Char :=
  ((s.dropWhile fun c => decide (c ≠ ':')).drop 1).takeWhile fun c => decide (c ≠ ',')

/-- One round of stripping. -/
def stripOnce (s : List Char) : List Char :=
  trim (unqualified s)

/-- Behind its first colon, a text goes on up to a comma. -/
theorem unqualified_append {a : List Char} (ha : ':' ∉ a) (b : List Char) :
    unqualified (a ++ ':' :: b) = b.takeWhile fun c => decide (c ≠ ',') := by
  rw [unqualified, ← cutAt_snd_getD, cutAt_append_cons ha]
  rfl

theorem stripQualifiers_of_not_qualified {s : List Char} (h : ¬ Qualified s) :
    stripQualifiers s = s := by
  rw [stripQualifiers]
  split
  case isTrue => rfl
  case isFalse hmark =>
    have hcolon : ':' ∉ s := by
      intro hcolon
      exact h ⟨hcolon, fun hprefix => hmark (List.isPrefixOf_iff_prefix.mpr hprefix)⟩
    split
    case h_1 => rfl
    case h_2 rest hrest =>
      rw [cutAt_of_not_mem hcolon] at hrest
      cases hrest

theorem stripQualifiers_of_qualified {s : List Char} (h : Qualified s) :
    stripQualifiers s = stripQualifiers (stripOnce s) := by
  obtain ⟨a, b, rfl, ha⟩ := List.eq_append_cons_of_mem h.1
  have hmark : ¬ attributeMark.isPrefixOf (a ++ ':' :: b) = true :=
    fun hmark => h.2 (List.isPrefixOf_iff_prefix.mp hmark)
  rw [stripQualifiers, if_neg hmark, stripOnce, unqualified_append ha, ← cutAt_fst]
  split
  case h_1 hrest =>
    rw [cutAt_append_cons ha] at hrest
    cases hrest
  case h_2 rest hrest =>
    rw [cutAt_append_cons ha] at hrest
    cases hrest
    rfl

/-- A round uses up a colon. -/
theorem count_stripOnce_lt {s : List Char} (h : Qualified s) :
    (stripOnce s).count ':' < s.count ':' := by
  obtain ⟨a, b, rfl, ha⟩ := List.eq_append_cons_of_mem h.1
  obtain ⟨w, v, -, -, htrim⟩ := exists_trim (b.takeWhile fun c => decide (c ≠ ','))
  have hkept : (stripOnce (a ++ ':' :: b)).count ':' ≤ b.count ':' := by
    rw [stripOnce, unqualified_append ha]
    calc (trim (b.takeWhile fun c => decide (c ≠ ','))).count ':'
        ≤ (b.takeWhile fun c => decide (c ≠ ',')).count ':' := by
          conv => rhs; rw [htrim]
          rw [List.count_append, List.count_append]
          omega
      _ ≤ b.count ':' := (List.takeWhile_sublist _).count_le ':'
  rw [List.count_append, List.count_cons_self]
  omega

/-- Rounds go on as long as there is something to strip, and no longer
than there are colons. -/
theorem exists_rounds (s : List Char) :
    ∃ n, n ≤ s.count ':' ∧ (∀ m, m < n → Qualified (stripOnce^[m] s))
      ∧ ¬ Qualified (stripOnce^[n] s) ∧ stripQualifiers s = stripOnce^[n] s := by
  -- by induction on the colons that are left
  induction hcount : s.count ':' using Nat.strong_induction_on generalizing s with
  | _ k ih =>
    by_cases h : Qualified s
    · have hlt := count_stripOnce_lt h
      rw [hcount] at hlt
      obtain ⟨n, hn, hbefore, hend, heq⟩ := ih _ hlt (stripOnce s) rfl
      refine ⟨n + 1, by omega, ?_, hend, ?_⟩
      · intro m hm
        cases m with
        | zero => exact h
        | succ m => exact hbefore m (by omega)
      · rw [stripQualifiers_of_qualified h, heq]
        rfl
    · exact ⟨0, Nat.zero_le _, fun m hm => absurd hm (Nat.not_lt_zero m), h,
        stripQualifiers_of_not_qualified h⟩

/-- Nothing is left to strip. -/
theorem not_qualified_stripQualifiers (s : List Char) : ¬ Qualified (stripQualifiers s) := by
  obtain ⟨n, -, -, hend, heq⟩ := exists_rounds s
  rw [heq]
  exact hend

/-- Stripping qualifiers leaves a trimmed text. -/
theorem trimmed_stripQualifiers {s : List Char} (h : Trimmed s) :
    Trimmed (stripQualifiers s) := by
  -- what is left after a colon and before a comma is trimmed each time
  fun_induction stripQualifiers s with
  | case1 s hattribute => exact h
  | case2 s hattribute hcolon => exact h
  | case3 s hattribute rest hcolon ih => exact ih (trimmed_trim _)

theorem trimmed_bare (raw : String) : Trimmed (bare raw).toList := by
  rw [bare, String.toList_ofList]
  exact trimmed_stripQualifiers (trimmed_trim raw.toList)

-- ============================================================= pieces

/-- Whether a piece begins a reference to an attribute, if a colon is
behind it. -/
def opensReference (piece : List Char) : Bool :=
  trimLeft piece == "Attribute".toList

/-- The pieces from the first that begins a reference, or else the last
piece. -/
def settled (parts : List (List Char)) : List (List Char) :=
  match parts.dropLast.findIdx? opensReference with
  | some i => parts.drop i
  | none => parts.getLast?.toList

theorem settled_singleton (p : List Char) : settled [p] = [p] := rfl

/-- A piece with more behind it is dropped unless it begins a
reference. -/
theorem settled_cons_cons (p q : List Char) (parts : List (List Char)) :
    settled (p :: q :: parts)
      = if opensReference p then p :: q :: parts else settled (q :: parts) := by
  rw [settled, settled, List.dropLast_cons_cons, List.findIdx?_cons, List.getLast?_cons_cons]
  cases opensReference p with
  | true => rfl
  | false =>
      cases (q :: parts).dropLast.findIdx? opensReference with
      | none => rfl
      | some i => rfl

/-- White space around a text with a colon in it is trimmed on either
side of the colon. -/
theorem trim_append_colon (p t : List Char) :
    trim (p ++ ':' :: t) = trimLeft p ++ ':' :: trimRight t := by
  rw [trim, trimLeft_append_cons (by decide), trimRight_append_cons (by decide)]

/-- The first piece decides whether a text begins as a reference. -/
theorem attributeMark_prefix_iff {p : List Char} (hp : ':' ∉ p) (t : List Char) :
    "Attribute:".toList <+: p ++ ':' :: t ↔ p = "Attribute".toList := by
  have hmark : "Attribute:".toList = "Attribute".toList ++ [':'] := by decide
  rw [hmark]
  constructor
  · intro ⟨rest, hrest⟩
    have hcut := cutAt_append_cons hp t
    rw [← hrest, List.append_assoc, List.singleton_append,
      cutAt_append_cons (by decide)] at hcut
    exact (Prod.mk.inj hcut).1.symm
  · rintro rfl
    exact ⟨t, by simp⟩

theorem colon_not_mem_trimLeft {p : List Char} (hp : ':' ∉ p) : ':' ∉ trimLeft p :=
  fun hmem => hp ((List.dropWhile_sublist _).mem hmem)

/-- Stripping drops pieces from the front, up to a reference or the last
one. -/
theorem stripQualifiers_join {parts : List (List Char)} (hne : parts ≠ [])
    (hcolon : ∀ p ∈ parts, ':' ∉ p) (hcomma : ∀ p ∈ parts, ',' ∉ p) :
    stripQualifiers (trim (join [':'] parts)) = trim (join [':'] (settled parts)) := by
  obtain ⟨p, parts, rfl⟩ := List.exists_cons_of_ne_nil hne
  induction parts generalizing p with
  | nil =>
      rw [settled_singleton, join_singleton]
      have hlast : ':' ∉ trim p := fun hmem => hcolon p (by simp) (mem_of_mem_trim hmem)
      exact stripQualifiers_of_not_qualified fun h => hlast h.1
  | cons q parts ih =>
      have hp := colon_not_mem_trimLeft (hcolon p (by simp))
      have htext : trim (join [':'] (p :: q :: parts))
          = trimLeft p ++ ':' :: trimRight (join [':'] (q :: parts)) := by
        rw [join_cons_cons, List.append_assoc, List.singleton_append, trim_append_colon]
      rw [settled_cons_cons]
      split
      case isTrue hopens =>
        refine stripQualifiers_of_not_qualified fun h => h.2 ?_
        rw [htext, attributeMark_prefix_iff hp]
        exact eq_of_beq hopens
      case isFalse hopens =>
        have hqualified : Qualified (trim (join [':'] (p :: q :: parts))) := by
          rw [htext]
          refine ⟨by simp, fun hmark => hopens ?_⟩
          exact beq_of_eq ((attributeMark_prefix_iff hp _).mp hmark)
        -- no comma is left, so the round drops the first piece and no more
        have hrest : ∀ c ∈ trimRight (join [':'] (q :: parts)), decide (c ≠ ',') = true := by
          intro c hc
          rw [decide_eq_true_iff]
          rintro rfl
          obtain ⟨w, -, hw⟩ := exists_trimRight (join [':'] (q :: parts))
          have hmem : ',' ∈ join [':'] (q :: parts) := by
            rw [hw]
            exact List.mem_append_left w hc
          rcases mem_join hmem with hsep | ⟨r, hr, hcr⟩
          · exact absurd hsep (by decide)
          · exact hcomma r (List.mem_cons_of_mem p hr) hcr
        have hround : stripOnce (trim (join [':'] (p :: q :: parts)))
            = trim (join [':'] (q :: parts)) := by
          rw [htext, stripOnce, unqualified_append hp, List.takeWhile_eq_self_iff.mpr hrest,
            trim_trimRight]
        rw [stripQualifiers_of_qualified hqualified, hround]
        exact ih q (by simp) (fun r hr => hcolon r (List.mem_cons_of_mem p hr))
          fun r hr => hcomma r (List.mem_cons_of_mem p hr)

-- ======================================================== closed form

/-- The bare name of a type text, without rounds. -/
def closedForm (raw : List Char) : List Char :=
  if Qualified (trim raw) then
    trim ([':'].intercalate (settled ((unqualified (trim raw)).splitOn ':')))
  else trim raw

example : closedForm "a , b: c:\tAttribute: Id :x, y:z ".toList = "Attribute: Id :x".toList := by
  decide

example : closedForm "bas:Attribute :Attribute ".toList = "Attribute".toList := by decide

theorem stripQualifiers_eq_closedForm (raw : List Char) :
    stripQualifiers (trim raw) = closedForm raw := by
  rw [closedForm]
  split
  case isFalse h => exact stripQualifiers_of_not_qualified h
  case isTrue h =>
    have hpieces : ∀ p ∈ pieces ':' (unqualified (trim raw)), ',' ∉ p := by
      intro p hp hmem
      have hcomma : ',' ∈ unqualified (trim raw) := by
        rw [← join_pieces ':' (unqualified (trim raw))]
        exact mem_join_of_mem hp hmem
      exact absurd (List.mem_takeWhile_imp hcomma) (by decide)
    have hne : pieces ':' (unqualified (trim raw)) ≠ [] := by
      rw [pieces_eq_splitOn]
      exact List.splitOn_ne_nil _ _
    have hjoin := stripQualifiers_join hne not_mem_of_mem_pieces hpieces
    rw [join_pieces, pieces_eq_splitOn] at hjoin
    rw [stripQualifiers_of_qualified h, stripOnce, hjoin]
    rfl

/-- The bare name of a type is reached in as many rounds as there is
something to strip, and these are no more than there are colons; it is
the closed form; it is trimmed, and it has no colon or is a reference to
an attribute, so that it is its own bare name. -/
theorem bare_closedForm (raw : String) :
    (∃ n, n ≤ (trim raw.toList).count ':'
      ∧ (∀ m, m < n → Qualified (stripOnce^[m] (trim raw.toList)))
      ∧ ¬ Qualified (stripOnce^[n] (trim raw.toList))
      ∧ (bare raw).toList = stripOnce^[n] (trim raw.toList))
    ∧ (bare raw).toList = closedForm raw.toList
    ∧ Trimmed (bare raw).toList
    ∧ (':' ∉ (bare raw).toList ∨ "Attribute:".toList <+: (bare raw).toList)
    ∧ bare (bare raw) = bare raw := by
  have htext : (bare raw).toList = stripQualifiers (trim raw.toList) := String.toList_ofList
  have hend : ¬ Qualified (bare raw).toList := by
    rw [htext]
    exact not_qualified_stripQualifiers _
  refine ⟨?_, ?_, trimmed_bare raw, ?_, ?_⟩
  · rw [htext]
    exact exists_rounds (trim raw.toList)
  · rw [htext]
    exact stripQualifiers_eq_closedForm raw.toList
  · by_cases hcolon : ':' ∈ (bare raw).toList
    · exact Or.inr (by_contra fun hmark => hend ⟨hcolon, hmark⟩)
    · exact Or.inl hcolon
  · have htrimmed : trim (bare raw).toList = (bare raw).toList := trimmed_bare raw
    rw [bare, htrimmed, stripQualifiers_of_not_qualified hend, String.ofList_toList]

end KbDocs.TypeName
