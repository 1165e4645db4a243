/-
Call texts and parameter lists determine each other. Two round trips,
one from each side:

- `signature?_canonicalCall`: a call written from a parameter list is
  read back as that list, and its call text is the one written.
- `signature?_callText`: the call text of a signature that was read off
  any rule, with odd spacing, mixed case and foreign segments in it, is
  read as the same signature again.

The first is a matter of reading every segment back as it was written
(`Callable.segmentParameter?_argument`), and of canonical arguments being
in normal form (`normalArguments_canonical`). For the second, normalising
does not change what arguments declare
(`argumentParameters_normalArguments`), and the call text is in normal
form already, so reading it again stops where the first reading did
(`normalArguments_idem`).
-/
import Mathlib.Data.List.Basic
import Mathlib.Tactic.MkIffOfInductiveProp
import KbDocs.Proofs.Signature.Call

namespace KbDocs.ParmRule

open KbDocs.Text

-- ======================================================== arguments

/-- Blank arguments declare nothing. -/
theorem argumentParameters_of_blank {a : List Char} (h : allBlank a = true) :
    argumentParameters a = [] := by
  have hcomma : ',' ∉ a := fun hmem =>
    absurd (isBlank_of_mem h hmem) (by decide)
  rw [argumentParameters, pieces_of_not_mem hcomma, List.filterMap_cons,
    trim_eq_nil_iff.mpr h]
  rfl

/-- Normalising arguments does not change what they declare, if no name
holds a colon and all directions are those of the data model. -/
theorem argumentParameters_normalArguments {arguments : List Char}
    (h : ∀ p ∈ argumentParameters arguments,
      ':' ∉ p.name.toList ∧ p.direction ∈ directions) :
    argumentParameters (normalArguments arguments) = argumentParameters arguments := by
  obtain ⟨a, segments, hpieces⟩ := exists_pieces ',' arguments
  have hsegment : ∀ s ∈ a :: segments,
      segmentParameter? (trim (normalSegment s)) = segmentParameter? (trim s) := by
    intro s hs
    refine segmentParameter?_normalSegment fun p hp => h p ?_
    rw [argumentParameters, hpieces, List.mem_filterMap]
    exact ⟨s, hs, hp⟩
  have htrim : ∀ s : List Char,
      trim (' ' :: trimLeft (normalSegment s)) = trim (normalSegment s) := by
    intro s
    rw [trim, trimLeft_cons_of_blank (by decide), ← trim, trim_trimLeft]
  rw [argumentParameters, argumentParameters, pieces_normalArguments hpieces, hpieces,
    List.filterMap_cons, List.filterMap_cons, hsegment a (List.mem_cons_self ..),
    List.filterMap_map]
  have hrest : segments.filterMap
        ((fun s => segmentParameter? (trim s)) ∘
          fun s => ' ' :: trimLeft (normalSegment s))
      = segments.filterMap fun s => segmentParameter? (trim s) := by
    refine List.filterMap_congr fun s hs => ?_
    show segmentParameter? (trim (' ' :: trimLeft (normalSegment s))) = _
    rw [htrim, hsegment s (List.mem_cons_of_mem a hs)]
  rw [hrest]

-- ======================================================== signatures

/-- A signature is read off the arguments of the first call. -/
theorem signature?_eq_some_iff {rules procedure : String} {sig : Signature} :
    signature? rules procedure = some sig
      ↔ ∃ a, findCall? (dropCommentLines rules.toList) = some a
        ∧ (allBlank a = true
            ∧ sig = { parameters := [], callText := canonicalCall procedure [] }
          ∨ allBlank a = false ∧ argumentParameters a ≠ []
            ∧ sig = { parameters := argumentParameters a
                      callText := String.ofList (normalizeCall
                        (procedure.toList ++ '(' :: a ++ [')']) ++ [';']) }) := by
  rw [signature?]
  cases hcall : findCall? (dropCommentLines rules.toList) with
  | none => simp
  | some a =>
      simp only [Option.some.injEq, exists_eq_left']
      cases hblank : allBlank a with
      | true =>
          simp only [if_true, Option.some.injEq, true_and, Bool.true_eq_false,
            false_and, or_false]
          exact eq_comm
      | false =>
          cases hparams : argumentParameters a with
          | nil => simp
          | cons p ps =>
              simp only [Bool.false_eq_true, if_false, Option.some.injEq, false_and,
                false_or, true_and, ne_eq, reduceCtorEq, not_false_eq_true]
              exact eq_comm

/-- The canonical call, character by character. -/
theorem toList_canonicalCall (procedure : String) (ps : List Parameter) :
    (canonicalCall procedure ps).toList
      = procedure.toList ++ '(' :: join [',', ' '] (ps.map Parameter.argument)
        ++ [')', ';'] := by
  rw [canonicalCall, String.toList_ofList]
  simp

-- ========================================== from the parameter list

/-- What a call text can tell of a parameter. -/
def bare (p : Parameter) : Parameter :=
  { name := p.name, direction := p.direction }

/-- A parameter that can stand in a call: its direction is one of the
data model, and its name is one that the punctuation of a call does not
break up. -/
@[mk_iff callable_iff]
structure Callable (p : Parameter) : Prop where
  direction : p.direction ∈ directions
  name_ne : p.name ≠ ""
  trimmed : Trimmed p.name.toList
  no_comma : ',' ∉ p.name.toList
  no_paren : ')' ∉ p.name.toList
  no_colon : ':' ∉ p.name.toList
  no_line : '\n' ∉ p.name.toList

instance (p : Parameter) : Decidable (Callable p) :=
  decidable_of_iff' _ (callable_iff p)

/-- A direction of the data model is the upper case of a spelling, and
that spelling is the one that calls are written with. -/
theorem lower_direction {d : String} (h : d ∈ directions) :
    lower d.toList ∈ spellings ∧ lower (lower d.toList) = lower d.toList
      ∧ upper (lower d.toList) = d.toList := by
  have hall : ∀ d ∈ directions,
      lower d.toList ∈ spellings ∧ lower (lower d.toList) = lower d.toList
        ∧ upper (lower d.toList) = d.toList := by decide +kernel
  exact hall d h

/-- A parameter as it stands in a call, taken apart as a segment is. -/
theorem argument_eq (p : Parameter) :
    p.argument = lower p.direction.toList ++ [] ++ ':' :: ([] ++ '&' :: p.name.toList) := by
  simp [Parameter.argument]

section Callable

variable {p : Parameter} (hp : Callable p)

include hp

theorem Callable.toList_name_ne : p.name.toList ≠ [] := by
  rw [Ne, String.toList_eq_nil_iff]
  exact hp.name_ne

/-- A parameter in a call is in normal form. -/
theorem Callable.normalSegment_argument : normalSegment p.argument = p.argument := by
  obtain ⟨hword, hlower, -⟩ := lower_direction hp.direction
  rw [argument_eq, normalSegment_declaration hword rfl rfl hp.no_colon, hlower]
  simp

theorem Callable.trimmed_argument : Trimmed p.argument := by
  obtain ⟨hword, -, -⟩ := lower_direction hp.direction
  obtain ⟨c, r, hcons⟩ := exists_cons_of_spelling _ hword
  refine trimmed_iff.mpr ⟨?_, ?_⟩
  · intro x hx
    rw [argument_eq, hcons] at hx
    cases hx
    exact isBlank_of_spelling hword (by rw [hcons]; simp)
  · intro x hx
    refine (trimmed_iff.mp hp.trimmed).2 x ?_
    rw [argument_eq] at hx
    simpa [List.getLast?_append, List.getLast?_cons,
      List.getLast?_eq_some_getLast hp.toList_name_ne] using hx

/-- A parameter is read back from its place in a call. -/
theorem Callable.segmentParameter?_argument :
    segmentParameter? (trim p.argument) = some (bare p) := by
  obtain ⟨hword, -, hupper⟩ := lower_direction hp.direction
  obtain ⟨c, name, hcons⟩ := List.exists_cons_of_ne_nil hp.toList_name_ne
  rw [hp.trimmed_argument]
  refine segmentParameter?_eq_some_iff.mpr
    ⟨lower p.direction.toList, [], [], c, name, hword, rfl, rfl, ?_, ?_⟩
  · rw [argument_eq, hcons]
  · rw [hupper, ← hcons, hp.trimmed, String.ofList_toList, String.ofList_toList, bare]

/-- A character that is no letter, colon or ampersand stands in a call
only if the name holds it. -/
theorem Callable.not_mem_argument {c : Char} (hletter : c ∉ keywordLetters)
    (hcolon : c ≠ ':') (hampersand : c ≠ '&') (hname : c ∉ p.name.toList) :
    c ∉ p.argument := by
  obtain ⟨hword, -, -⟩ := lower_direction hp.direction
  have hdirection : c ∉ lower p.direction.toList := fun h =>
    hletter (mem_keywordLetters _ hword c h)
  rw [argument_eq]
  simp [hdirection, hcolon, hampersand, hname]

end Callable

/-- The argument text of a canonical call. -/
def canonicalArguments (ps : List Parameter) : List Char :=
  join [',', ' '] (ps.map Parameter.argument)

/-- A canonical argument text, with the spaces counted to the segments
behind them. -/
theorem canonicalArguments_cons (p : Parameter) (ps : List Parameter) :
    canonicalArguments (p :: ps)
      = join [','] (p.argument :: ps.map fun q => ' ' :: q.argument) := by
  rw [canonicalArguments, List.map_cons, join_cons_eq_join_singleton, List.map_map]
  rfl

section Canonical

variable {p : Parameter} {ps : List Parameter} (h : ∀ q ∈ p :: ps, Callable q)

include h

theorem pieces_canonicalArguments :
    pieces ',' (canonicalArguments (p :: ps))
      = p.argument :: ps.map fun q => ' ' :: q.argument := by
  have hcomma : ∀ q ∈ p :: ps, ',' ∉ q.argument := fun q hq =>
    (h q hq).not_mem_argument (by decide) (by decide) (by decide) (h q hq).no_comma
  rw [canonicalArguments_cons, pieces_join (by simp)]
  intro s hs
  rcases List.mem_cons.mp hs with rfl | hs
  · exact hcomma p (List.mem_cons_self ..)
  · obtain ⟨q, hq, rfl⟩ := List.mem_map.mp hs
    rw [List.mem_cons, not_or]
    exact ⟨by decide, hcomma q (List.mem_cons_of_mem p hq)⟩

/-- The parameters of a canonical argument text are the ones it was
written from. -/
theorem argumentParameters_canonical :
    argumentParameters (canonicalArguments (p :: ps)) = (p :: ps).map bare := by
  have htail : ps.filterMap (fun q => segmentParameter? (trim (' ' :: q.argument)))
      = ps.map bare := by
    rw [← List.filterMap_eq_map]
    refine List.filterMap_congr fun q hq => ?_
    rw [trim, trimLeft_cons_of_blank (by decide), ← trim]
    exact (h q (List.mem_cons_of_mem p hq)).segmentParameter?_argument
  rw [argumentParameters, pieces_canonicalArguments h, List.filterMap_cons,
    (h p (List.mem_cons_self ..)).segmentParameter?_argument, List.filterMap_map,
    List.map_cons]
  simp only [Function.comp_def, htail]

/-- A canonical argument text is in normal form. -/
theorem normalArguments_canonical :
    normalArguments (canonicalArguments (p :: ps)) = canonicalArguments (p :: ps) := by
  have htail : ∀ q ∈ ps, trimLeft (normalSegment (' ' :: q.argument)) = q.argument := by
    intro q hq
    have hq := h q (List.mem_cons_of_mem p hq)
    rw [← normalSegment_trimLeft, trimLeft_cons_of_blank (by decide),
      trimLeft_of_trimmed hq.trimmed_argument, hq.normalSegment_argument]
  simp only [normalArguments, pieces_canonicalArguments h,
    (h p (List.mem_cons_self ..)).normalSegment_argument, List.map_map]
  rw [canonicalArguments, List.map_cons]
  congr 2
  exact List.map_congr_left htail

end Canonical

/-- A canonical argument text holds no punctuation that no name holds,
but for its own. -/
theorem not_mem_canonicalArguments {ps : List Parameter} {c : Char}
    (h : ∀ q ∈ ps, Callable q) (hsep : c ∉ [',', ' ']) (hletter : c ∉ keywordLetters)
    (hcolon : c ≠ ':') (hampersand : c ≠ '&') (hname : ∀ q ∈ ps, c ∉ q.name.toList) :
    c ∉ canonicalArguments ps := by
  intro hmem
  rcases mem_join hmem with hmem | ⟨s, hs, hmem⟩
  · exact hsep hmem
  · obtain ⟨q, hq, rfl⟩ := List.mem_map.mp hs
    exact (h q hq).not_mem_argument hletter hcolon hampersand (hname q hq) hmem

/-- Only the empty list is written as blank arguments. -/
theorem allBlank_canonicalArguments {p : Parameter} {ps : List Parameter}
    (h : ∀ q ∈ p :: ps, Callable q) :
    allBlank (canonicalArguments (p :: ps)) = false := by
  cases hblank : allBlank (canonicalArguments (p :: ps)) with
  | false => rfl
  | true =>
      have hnone := argumentParameters_of_blank hblank
      rw [argumentParameters_canonical h] at hnone
      cases hnone

/-- A call written from a list of parameters is read back as that list,
and under another name its call text is the call written under that
name. -/
theorem signature?_canonicalCall {name : String} {ps : List Parameter}
    (htrimmed : Trimmed name.toList) (hcomma : ',' ∉ name.toList)
    (hcolon : ':' ∉ name.toList) (h : ∀ p ∈ ps, Callable p) :
    signature? (canonicalCall "parm" ps) name
      = some { parameters := ps.map fun p => { name := p.name, direction := p.direction }
               callText := canonicalCall name ps } := by
  have hparen : ')' ∉ canonicalArguments ps :=
    not_mem_canonicalArguments h (by decide) (by decide) (by decide) (by decide)
      fun q hq => (h q hq).no_paren
  have hline : '\n' ∉ canonicalArguments ps :=
    not_mem_canonicalArguments h (by decide) (by decide) (by decide) (by decide)
      fun q hq => (h q hq).no_line
  have hcall : findCall? (dropCommentLines (canonicalCall "parm" ps).toList)
      = some (canonicalArguments ps) := by
    rw [toList_canonicalCall]
    exact findCall?_keyword hparen hline
  refine signature?_eq_some_iff.mpr ⟨canonicalArguments ps, hcall, ?_⟩
  cases ps with
  | nil => exact .inl ⟨rfl, rfl⟩
  | cons p ps =>
      have htext : String.ofList
            (name.toList ++ '(' :: canonicalArguments (p :: ps) ++ [')'] ++ [';'])
          = canonicalCall name (p :: ps) := by
        rw [← String.toList_inj, toList_canonicalCall, String.toList_ofList]
        simp [canonicalArguments]
      refine .inr ⟨allBlank_canonicalArguments h, ?_, ?_⟩
      · rw [argumentParameters_canonical h]
        simp
      · rw [argumentParameters_canonical h, normalizeCall_call htrimmed hcomma hcolon,
          normalArguments_canonical h, htext]
        rfl

/-- Names with an ampersand, a parenthesis, a keyword or the dotted
capital in them come back. -/
theorem signature?_canonicalCall_names :
    signature? (canonicalCall "parm"
        [{ name := "&x(", type := "Numeric" }, { name := "in out", direction := "INOUT" },
          { name := "İ", direction := "OUT", description := "a letter" }]) "a b"
      = some { parameters := [{ name := "&x(" }, { name := "in out", direction := "INOUT" },
                 { name := "İ", direction := "OUT" }]
               callText := "a b(in:&&x(, inout:&in out, out:&İ);" } :=
  signature?_canonicalCall (by decide) (by decide) (by decide) (by decide)

/-- The call text of a signature is read as the same signature. -/
theorem signature?_callText {rules : String} {sig : Signature}
    (h : signature? rules "parm" = some sig)
    (hname : ∀ p ∈ sig.parameters, ':' ∉ p.name.toList)
    (hdirection : ∀ p ∈ sig.parameters, p.direction ∈ directions) :
    signature? sig.callText "parm" = some sig := by
  obtain ⟨a, hcall, ⟨hblank, rfl⟩ | ⟨hblank, hne, rfl⟩⟩ := signature?_eq_some_iff.mp h
  · refine signature?_eq_some_iff.mpr ⟨[], ?_, .inl ⟨rfl, rfl⟩⟩
    rw [toList_canonicalCall]
    exact findCall?_keyword (by simp) (by simp)
  · obtain ⟨hparen, hline⟩ := findCall?_arguments hcall
    have hparams := argumentParameters_normalArguments
      fun p hp => ⟨hname p hp, hdirection p hp⟩
    have htext : ∀ b, normalizeCall ("parm".toList ++ '(' :: b ++ [')']) ++ [';']
        = keyword ++ '(' :: normalArguments b ++ [')', ';'] := by
      intro b
      rw [normalizeCall_call (by decide) (by decide) (by decide)]
      simp [keyword]
    refine signature?_eq_some_iff.mpr ⟨normalArguments a, ?_, .inr ⟨?_, ?_, ?_⟩⟩
    · rw [String.toList_ofList, htext]
      exact findCall?_keyword
        (not_mem_normalArguments hparen (by decide) (by decide) (by decide) (by decide))
        (not_mem_normalArguments hline (by decide) (by decide) (by decide) (by decide))
    · cases hb : allBlank (normalArguments a) with
      | false => rfl
      | true =>
          rw [argumentParameters_of_blank hb] at hparams
          exact absurd hparams.symm hne
    · rw [hparams]
      exact hne
    · rw [hparams, htext, htext, normalArguments_idem]

/-- A rule with a comment line, a segment that declares nothing, mixed
case and odd spacing. -/
theorem signature?_callText_mixed :
    signature? "parm(in:&A, oops , inout:&b c );" "parm"
      = some { parameters := [{ name := "A" }, { name := "b c", direction := "INOUT" }]
               callText := "parm(in:&A, oops , inout:&b c );" } := by
  have hpieces : pieces ',' "iN : &A,oops ,  InOut:\t&b c ".toList
      = ["iN : &A".toList, "oops ".toList, "  InOut:\t&b c ".toList] := by decide
  have hfirst : normalSegment "iN : &A".toList = "in:&A".toList :=
    normalSegment_declaration (by decide : "iN".toList ∈ spellings)
      (by decide : allBlank [' '] = true) (by decide : allBlank [' '] = true) (by decide)
  have hlast : normalSegment "  InOut:\t&b c ".toList = "  inout:&b c ".toList :=
    (normalSegment_blank_append (by decide : allBlank [' ', ' '] = true) _).trans
      (congrArg ([' ', ' '] ++ ·) (normalSegment_declaration
        (by decide : "InOut".toList ∈ spellings) allBlank_nil
        (by decide : allBlank ['\t'] = true) (by decide)))
  have hnormal : normalArguments "iN : &A,oops ,  InOut:\t&b c ".toList
      = "in:&A, oops , inout:&b c ".toList := by
    simp only [normalArguments, hpieces, hfirst, List.map_cons, List.map_nil, hlast,
      normalSegment_of_no_colon (by decide : ':' ∉ "oops ".toList)]
    decide
  have hread : signature? "// parm(in:&X)\n PARM (iN : &A,oops ,  InOut:\t&b c );" "parm"
      = some { parameters := [{ name := "A" }, { name := "b c", direction := "INOUT" }]
               callText := "parm(in:&A, oops , inout:&b c );" } := by
    refine signature?_eq_some_iff.mpr ⟨"iN : &A,oops ,  InOut:\t&b c ".toList,
      by decide +kernel, .inr ⟨by decide, by decide +kernel, ?_⟩⟩
    rw [normalizeCall_call (by decide) (by decide) (by decide), hnormal]
    decide +kernel
  exact signature?_callText hread (by decide) (by decide)

end KbDocs.ParmRule
