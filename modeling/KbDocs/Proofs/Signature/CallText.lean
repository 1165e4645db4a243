/-
The call text of a resolved signature.

Whichever source a signature comes from, its call text is written in one
of two ways (`resolve_cases`): from the name and the list of parameters,
or from the name and the arguments of the `parm` rule as they stand
there, with the rewriting of calls going over both. The first keeps the
name whatever it is. The second keeps it exactly if it is settled, and is
never taken without parameters; `resolve_callText` puts the two
together.
-/
import KbDocs.Proofs.Signature.RoundTrip
import KbDocs.Proofs.Signature.Settled
import KbDocs.Signature.Resolve

namespace KbDocs.Signature

open KbDocs.ParmRule KbDocs.Text KbDocs.Xml

/-- The call text is written from the parameters, or it is the call of
the `parm` rule, rewritten under the name; only a rule that declares
parameters is. -/
theorem resolve_cases (object : Element) (procedure : String) :
    ((resolve object procedure).callText
        = canonicalCall procedure (resolve object procedure).parameters
      ∧ ((resolve object procedure).origin = .parmRule →
        (resolve object procedure).parameters = []))
    ∨ ((resolve object procedure).origin = .parmRule
      ∧ (resolve object procedure).parameters ≠ []
      ∧ ∃ arguments, (resolve object procedure).callText
        = String.ofList (normalizeCall
            (procedure.toList ++ '(' :: arguments ++ [')']) ++ [';'])) := by
  rw [resolve]
  cases hrules : ofRules? object procedure with
  | some s =>
      rw [ofRules?] at hrules
      split at hrules
      case isTrue => cases hrules
      case isFalse =>
        obtain ⟨a, -, ⟨-, rfl⟩ | ⟨-, hparameters, rfl⟩⟩ := signature?_eq_some_iff.mp hrules
        · exact .inl ⟨rfl, fun _ => rfl⟩
        · exact .inr ⟨rfl, hparameters, a, rfl⟩
  | none =>
      dsimp only
      rw [ofVariables?]
      cases (variableElements object).filterMap (flaggedParameter? ∘ Export.Variable.ofElement) with
      | nil => exact .inl ⟨rfl, fun _ => rfl⟩
      | cons p ps => exact .inl ⟨rfl, fun h => by cases h⟩

/-- A call under a name: the name, and arguments in parentheses. -/
def IsCallOf (procedure callText : String) : Prop :=
  ∃ arguments, callText = procedure ++ "(" ++ arguments ++ ");"

/-- The same, character by character. -/
theorem isCallOf_iff {procedure callText : String} :
    IsCallOf procedure callText
      ↔ ∃ a, callText.toList = procedure.toList ++ '(' :: a ++ [')', ';'] := by
  constructor
  · rintro ⟨arguments, rfl⟩
    exact ⟨arguments.toList, by simp⟩
  · rintro ⟨a, ha⟩
    refine ⟨String.ofList a, String.toList_inj.mp ?_⟩
    rw [ha]
    simp

theorem isCallOf_canonicalCall (procedure : String) (ps : List Parameter) :
    IsCallOf procedure (canonicalCall procedure ps) :=
  isCallOf_iff.mpr ⟨_, toList_canonicalCall procedure ps⟩

/-- A rewritten call is one under the name exactly if the name is
settled. -/
theorem isCallOf_normalizeCall_iff {procedure : String}
    (h : Trimmed procedure.toList) (arguments : List Char) :
    IsCallOf procedure (String.ofList (normalizeCall
        (procedure.toList ++ '(' :: arguments ++ [')']) ++ [';']))
      ↔ Settled procedure.toList := by
  rw [isCallOf_iff, ← callName_iff_settled h arguments, String.toList_ofList]
  refine exists_congr fun a => ?_
  rw [show [')', ';'] = [')'] ++ [';'] from rfl, ← List.append_assoc,
    List.append_left_inj]

/-- Without parameters the call text is the name and a pair of
parentheses. It is a call under the name in every case but one: a `parm`
rule that declares parameters keeps the name exactly if the name is
settled. -/
theorem resolve_callText (object : Element) {procedure : String}
    (h : Trimmed procedure.toList) :
    ((resolve object procedure).parameters = [] →
      (resolve object procedure).callText = procedure ++ "();")
    ∧ (IsCallOf procedure (resolve object procedure).callText
      ↔ ((resolve object procedure).origin = .parmRule →
        (resolve object procedure).parameters ≠ [] → Settled procedure.toList)) := by
  rcases resolve_cases object procedure with ⟨htext, hnone⟩ | ⟨horigin, hsome, a, htext⟩
  · refine ⟨fun hparameters => ?_, fun _ horigin hsome => ?_, fun _ => ?_⟩
    · rw [htext, hparameters, ← String.toList_inj, toList_canonicalCall]
      simp
    · exact absurd (hnone horigin) hsome
    · rw [htext]
      exact isCallOf_canonicalCall procedure _
  · refine ⟨fun hparameters => absurd hparameters hsome, ?_⟩
    rw [htext, isCallOf_normalizeCall_iff h]
    exact ⟨fun hsettled _ _ => hsettled, fun hall => hall horigin hsome⟩

-- ========================================================== two names

/-- An object whose `parm` rule declares one parameter. -/
def ruledObject : Element :=
  .node "Object" [] "" [.node "Part" [("type", Export.rulesPart)] ""
    [.node "Source" [] "parm(In : & A);" [] ""] ""] ""

/-- A name can hold commas, colons and directions and be settled. -/
theorem resolve_callText_settled :
    Trimmed "Load, in:Cache".toList
      ∧ (resolve ruledObject "Load, in:Cache").callText = "Load, in:Cache(in:& A);"
      ∧ Settled "Load, in:Cache".toList := by
  have htrimmed : Trimmed "Load, in:Cache".toList := by decide
  have htext : (resolve ruledObject "Load, in:Cache").callText
      = "Load, in:Cache" ++ "(" ++ "in:& A" ++ ");" := by
    decide +kernel
  refine ⟨htrimmed, htext, ?_⟩
  exact (resolve_callText ruledObject htrimmed).2.mp ⟨_, htext⟩ (by decide +kernel)
    (by decide +kernel)

/-- A comma without a space behind it is enough for the name to be
changed. -/
theorem not_callText_unsettled :
    Trimmed "Load,Cache".toList
      ∧ (resolve ruledObject "Load,Cache").callText = "Load, Cache(in:& A);"
      ∧ ¬ IsCallOf "Load,Cache" (resolve ruledObject "Load,Cache").callText := by
  have htext : (resolve ruledObject "Load,Cache").callText = "Load, Cache(in:& A);" := by
    decide +kernel
  refine ⟨by decide, htext, ?_⟩
  rintro ⟨arguments, harguments⟩
  rw [htext] at harguments
  have hfifth := congrArg (fun s => s.toList[5]?) harguments
  simp at hfifth

end KbDocs.Signature
