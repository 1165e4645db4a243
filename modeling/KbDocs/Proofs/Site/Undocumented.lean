/-
Which procedures a run reports as undocumented, and which the table of
objects shows as not documented.

The two answers come from different questions. The table asks whether
somebody wrote the documentation; a run asks whether there is any, and
documentation that was put together from declared parameters is some.
So the report is a part of the table's answer (`undocumented_sublist`),
and the two are the same exactly if no procedure declares parameters
without a comment in its source (`undocumented_eq_iff`).
-/
import KbDocs.CommandLine.View
import KbDocs.Proofs.Export.Documentation
import KbDocs.Proofs.Export.LastProperty
import KbDocs.Proofs.Site.Run

namespace KbDocs.Site

open KbDocs.CommandLine KbDocs.Export KbDocs.Files KbDocs.Page KbDocs.Xml

/-- The procedures that the table of objects shows as not documented. -/
def shownUndocumented (objects : List KbObject) : List KbObject :=
  (procedures objects).filter fun o => documentedLabel o == "no"

/-- A run that completes reports the procedures without documentation. -/
theorem undocumented_of_generate {tree : FileTree} {objects : List KbObject}
    {kbName : String} {directory : FilePath} {generatedAt : Timestamp}
    {summary : Summary}
    (h : (generate tree objects kbName directory generatedAt).result = .ok summary) :
    summary.undocumented = undocumented objects := by
  obtain ⟨-, s, -, -, -, rfl⟩ := generate_ok h
  rfl

/-- The table says no where nobody wrote the documentation. -/
theorem documentedLabel_eq_no {o : KbObject} :
    documentedLabel o = "no" ↔ o.documented = false := by
  unfold documentedLabel
  cases o.documented <;> decide

section Resolved

variable {sourceKinds : List String} {objects : List KbObject}
  (h : ∀ o ∈ objects, Resolved sourceKinds o)

include h

/-- For resolved objects, the table says whether the source has a
comment. -/
theorem documentedLabel_eq_no_iff {o : KbObject} (ho : o ∈ objects) :
    documentedLabel o = "no" ↔ DocComment.ofSource? o.sourceCode = none := by
  rw [documentedLabel_eq_no, (h o ho).documented_eq, Option.isSome_eq_false_iff,
    Option.isNone_iff_eq_none]

/-- Nothing is reported as undocumented that the table shows as
documented. -/
theorem undocumented_sublist :
    List.Sublist ((procedures objects).filter (·.documentation.isNone))
      (shownUndocumented objects) := by
  have hfilter : (procedures objects).filter (·.documentation.isNone)
      = (shownUndocumented objects).filter (·.documentation.isNone) := by
    rw [shownUndocumented, List.filter_filter]
    refine List.filter_congr fun o ho => ?_
    cases hnone : o.documentation.isNone with
    | false => rfl
    | true =>
        have hresolved := h o (List.mem_filter.mp ho).1
        rw [hresolved.documentation_isNone_eq, Bool.and_eq_true,
          Option.isNone_iff_eq_none] at hnone
        have hno := (documentedLabel_eq_no_iff h (List.mem_filter.mp ho).1).mpr hnone.1
        simp [hno]
  rw [hfilter]
  exact List.filter_sublist

end Resolved

/-- The table shows exactly the objects without a comment in their source
as not documented. A run reports the procedures among them, in order,
exactly if every one of these declares no parameters. -/
theorem undocumented_eq_iff {sourceKinds : List String} {objects : List KbObject}
    {tree : FileTree} {kbName : String} {directory : FilePath} {generatedAt : Timestamp}
    {summary : Summary} (h : ∀ o ∈ objects, Resolved sourceKinds o)
    (hrun : (generate tree objects kbName directory generatedAt).result = .ok summary) :
    (∀ o ∈ objects,
      documentedLabel o = "no" ↔ DocComment.ofSource? o.sourceCode = none)
    ∧ (summary.undocumented
        = ((procedures objects).filter fun o => documentedLabel o == "no").map (·.path)
      ↔ ∀ o ∈ procedures objects,
          DocComment.ofSource? o.sourceCode = none → o.declared = []) := by
  refine ⟨fun o ho => documentedLabel_eq_no_iff h ho, ?_⟩
  rw [undocumented_of_generate hrun, undocumented, ← shownUndocumented]
  constructor
  · intro heq o ho hcomment
    have hlength := congrArg List.length heq
    rw [List.length_map, List.length_map] at hlength
    have hsame := (undocumented_sublist h).eq_of_length hlength
    have hmem : o ∈ shownUndocumented objects := by
      have hno := (documentedLabel_eq_no_iff h (List.mem_filter.mp ho).1).mpr hcomment
      exact List.mem_filter.mpr ⟨ho, by simp [hno]⟩
    rw [← hsame, List.mem_filter, (h o (List.mem_filter.mp ho).1).documentation_isNone_eq,
      Bool.and_eq_true, List.isEmpty_iff] at hmem
    exact hmem.2.2
  · intro hdeclared
    refine congrArg (List.map KbObject.path) (List.filter_congr fun o ho => ?_)
    have hresolved := h o (List.mem_filter.mp ho).1
    rw [Bool.eq_iff_iff, hresolved.documentation_isNone_eq, Bool.and_eq_true,
      Option.isNone_iff_eq_none, beq_iff_eq,
      documentedLabel_eq_no_iff h (List.mem_filter.mp ho).1, List.isEmpty_iff]
    exact ⟨fun hboth => hboth.1, fun hcomment => ⟨hcomment, hdeclared o ho hcomment⟩⟩

-- ============================================================ cases

/-- An exported procedure with one part. -/
def procedureElement (name part : String) (inside : List Element) : Element :=
  .node "Object" [("name", name)] "" [.node "Part" [("type", part)] "" inside ""] ""

/-- `C` has a comment in its source. -/
def commented : Element :=
  procedureElement "C" sourcePart [.node "Source" [] "/** @summary s */" [] ""]

/-- `P` has a variable `A` that is flagged as a parameter, and no
source. -/
def flagged : Element :=
  procedureElement "P" variablesPart [.node "Variable" [] ""
    [.node "Properties" [] ""
      [propertyElement "IsParm" "True", propertyElement "Name" "A"] ""] ""]

/-- `E` has an empty source. -/
def sourceless : Element :=
  procedureElement "E" sourcePart []

theorem resolveObject_commented :
    resolveObject commented procedureKind builtinSourceKinds
      = { name := "C", kind := procedureKind, path := "C"
          sourceCode := "/** @summary s */"
          signature := some { parameters := [], callText := "C();" }
          documentation := some { summary := "s" } } := by
  decide +kernel

theorem resolveObject_flagged :
    resolveObject flagged procedureKind builtinSourceKinds
      = { name := "P", kind := procedureKind, path := "P"
          signature := some { parameters := [{ name := "A" }]
                              callText := "P(in:&A);", origin := .variableFlags }
          documentation := some { parameters := [{ name := "A" }]
                                  autoGenerated := true } } := by
  decide +kernel

theorem resolveObject_sourceless :
    resolveObject sourceless procedureKind builtinSourceKinds
      = { name := "E", kind := procedureKind, path := "E"
          signature := some { parameters := [], callText := "E();" } } := by
  decide +kernel

/-- A run on a commented procedure and on one without anything reports
the second. -/
theorem undocumented_sourceless :
    ∃ summary, (generate {}
        [resolveObject commented procedureKind builtinSourceKinds,
          resolveObject sourceless procedureKind builtinSourceKinds]
        "KB" ⟨"", ["docs"]⟩ ⟨2024, 1, 31, 12, 0, 0⟩).result = .ok summary
      ∧ summary.undocumented = ["E"] := by
  obtain ⟨summary, hrun, -⟩ : ∃ summary, (generate {}
      [resolveObject commented procedureKind builtinSourceKinds,
        resolveObject sourceless procedureKind builtinSourceKinds]
      "KB" ⟨"", ["docs"]⟩ ⟨2024, 1, 31, 12, 0, 0⟩).result = .ok summary
      ∧ summary.procedureCount = 2 := by
    rw [resolveObject_commented, resolveObject_sourceless]
    exact Outcome.exists_summary (by decide +kernel)
  refine ⟨summary, hrun, ?_⟩
  have hresolved : ∀ o ∈ [resolveObject commented procedureKind builtinSourceKinds,
      resolveObject sourceless procedureKind builtinSourceKinds],
      Resolved builtinSourceKinds o := by
    intro o ho
    simp only [List.mem_cons, List.not_mem_nil, or_false] at ho
    rcases ho with rfl | rfl
    · exact ⟨commented, procedureKind, rfl⟩
    · exact ⟨sourceless, procedureKind, rfl⟩
  rw [(undocumented_eq_iff hresolved hrun).2.mpr
    (by rw [resolveObject_commented, resolveObject_sourceless]; decide +kernel),
    resolveObject_commented, resolveObject_sourceless]
  decide +kernel

/-- A run on a procedure with a flagged parameter reports nothing, and
the table shows the procedure as not documented. -/
theorem undocumented_flagged :
    ∃ summary, (generate {} [resolveObject flagged procedureKind builtinSourceKinds]
        "KB" ⟨"", ["docs"]⟩ ⟨2024, 1, 31, 12, 0, 0⟩).result = .ok summary
      ∧ summary.undocumented = []
      ∧ ((procedures [resolveObject flagged procedureKind builtinSourceKinds]).filter
          fun o => documentedLabel o == "no").map (·.path) = ["P"] := by
  obtain ⟨summary, hrun, hnothing⟩ : ∃ summary,
      (generate {} [resolveObject flagged procedureKind builtinSourceKinds]
        "KB" ⟨"", ["docs"]⟩ ⟨2024, 1, 31, 12, 0, 0⟩).result = .ok summary
      ∧ summary.undocumented = [] := by
    rw [resolveObject_flagged]
    exact Outcome.exists_summary (by decide +kernel)
  refine ⟨summary, hrun, hnothing, ?_⟩
  rw [resolveObject_flagged]
  decide +kernel

end KbDocs.Site
