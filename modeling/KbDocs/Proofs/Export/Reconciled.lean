/-
How the comment of an object and the parameters it declares come to
terms in its documentation.

Two independent accounts meet: the block comment in the source, which
may document parameters in tags of its own, and the signature. What each
of them says is read off the export here (`comment?`, `signatureOf`,
`DocComment.accepted`), and `Reconciled` says what the resolved object
holds in each case. Merging has one lemma for each case of the comment;
whether a comment lists parameters depends on its tags alone
(`DocComment.parameters_eq_accepted`).
-/
import KbDocs.Proofs.Export.Documentation

namespace KbDocs

-- ================================================ the two accounts

/-- The parameters that the `@param` tags of a source document. A tag
whose value names no parameter is passed over. -/
def DocComment.accepted (source : String) : List Parameter :=
  (valuesOf "@param" (tagsOf source)).filterMap Parameter.ofTag?

/-- The comment in a source lists the parameters of its tags. -/
theorem DocComment.parameters_eq_accepted {source : String} {d : DocComment}
    (h : ofSource? source = some d) : d.parameters = accepted source := by
  rw [eq_of_ofSource? h]
  rfl

namespace Export

open KbDocs.Xml

/-- The comment in the source of an exported object. -/
def comment? (object : Element) : Option DocComment :=
  DocComment.ofSource? (partSource object sourcePart)

/-- The signature of an exported object, under its own name. -/
def signatureOf (object : Element) : Signature :=
  Signature.resolve object (object.attributeD "name")

/-- Filling gaps makes no parameter come or go. -/
theorem enrich_eq_nil_iff {ps : List Parameter} {object : Element} :
    enrich ps object = [] ↔ ps = [] := by
  rw [enrich, List.map_eq_nil_iff]

-- ================================================== resolved objects

/-- What a resolved object holds of the comment and the signature of its
element. -/
structure Reconciled (object : Element) (o : KbObject) : Prop where
  /-- The signature stands as declared, its gaps included. -/
  signature : o.signature = some (signatureOf object)
  none_iff : o.documentation = none
    ↔ comment? object = none ∧ (signatureOf object).parameters = []
  autoGenerated_iff : (∃ doc, o.documentation = some doc ∧ doc.autoGenerated = true)
    ↔ comment? object = none ∧ (signatureOf object).parameters ≠ []
  /-- Documentation that nobody wrote tells nothing but the parameters. -/
  autoGenerated_eq : ∀ doc, o.documentation = some doc → doc.autoGenerated = true →
    doc = { parameters := enrich (signatureOf object).parameters object
            autoGenerated := true }
  /-- One tag that documents a parameter is enough for the comment to
  stay as it is. -/
  listed : ∀ d, comment? object = some d →
    DocComment.accepted (partSource object sourcePart) ≠ [] →
    o.documentation = some d
  unlisted : ∀ d, comment? object = some d →
    DocComment.accepted (partSource object sourcePart) = [] →
    o.documentation
      = some { d with parameters := enrich (signatureOf object).parameters object }
  covered : (signatureOf object).parameters ≠ [] →
    ∃ doc, o.documentation = some doc ∧ doc.parameters ≠ []

/-- What an object of a kind with source code is resolved to. -/
theorem signature_documentation_resolveObject (object : Element) {kind : String}
    {sourceKinds : List String} (h : kind ∈ sourceKinds) :
    (resolveObject object kind sourceKinds).signature = some (signatureOf object)
      ∧ (resolveObject object kind sourceKinds).documentation
        = mergeDocumentation (comment? object) object (signatureOf object).parameters := by
  have hcarries : carriesSource kind sourceKinds = true := List.contains_iff_mem.mpr h
  have hsource : (resolveObject object kind sourceKinds).sourceCode
      = partSource object sourcePart := by
    rw [resolveObject, if_pos hcarries]
  have hsignature : (resolveObject object kind sourceKinds).signature
      = some (signatureOf object) := by
    rw [resolveObject, if_pos hcarries]
    rfl
  refine ⟨hsignature, ?_⟩
  rw [documentation_resolveObject, hsource, KbObject.declared, hsignature]
  rfl

/-- The comment and the signature of an object are reconciled. -/
theorem reconciled_resolveObject (object : Element) {kind : String}
    {sourceKinds : List String} (h : kind ∈ sourceKinds) :
    Reconciled object (resolveObject object kind sourceKinds) := by
  obtain ⟨hsignature, hdocumentation⟩ := signature_documentation_resolveObject object h
  cases hcomment : comment? object with
  | none =>
      rw [hcomment, mergeDocumentation_none] at hdocumentation
      by_cases hps : (signatureOf object).parameters = []
      · rw [if_pos hps] at hdocumentation
        constructor <;> simp [hsignature, hdocumentation, hcomment, hps]
      · rw [if_neg hps] at hdocumentation
        constructor <;> simp [hsignature, hdocumentation, hcomment, hps, enrich_eq_nil_iff]
  | some d =>
      have hwritten : d.autoGenerated = false := DocComment.ofSource?_autoGenerated hcomment
      have haccepted := DocComment.parameters_eq_accepted hcomment
      rw [hcomment] at hdocumentation
      by_cases hd : d.parameters = []
      · rw [mergeDocumentation_unlisted hd] at hdocumentation
        constructor <;>
          simp [hsignature, hdocumentation, hcomment, hwritten, ← haccepted, hd,
            enrich_eq_nil_iff]
      · rw [mergeDocumentation_listed hd] at hdocumentation
        constructor <;>
          simp [hsignature, hdocumentation, hcomment, hwritten, ← haccepted, hd]

/-- `Sum` has a rule, a variable with a type and a description, and a
comment whose `@param` names no type. -/
def halfTagged : Element :=
  .node "Object" [("name", "Sum")] ""
    [.node "Part" [("type", sourcePart)] ""
      [.node "Source" [] "/** @summary Adds up\n * @param A */" [] ""] "",
     .node "Part" [("type", rulesPart)] ""
      [.node "Source" [] "parm(inout:&A);" [] ""] "",
     .node "Part" [("type", variablesPart)] ""
      [.node "Variable" [("Name", "A")] ""
        [.node "Properties" [] ""
          [.node "Property" [] ""
            [.node "Name" [] "ATTCUSTOMTYPE" [] "",
             .node "Value" [] "bas:Numeric, Core" [] ""] "",
           .node "Property" [] ""
            [.node "Name" [] "Description" [] "",
             .node "Value" [] "The total" [] ""] ""] ""] ""] ""] ""

/-- The tag of `Sum` is passed over, so its comment gets the parameter of
the rule with what the variable tells; the signature does not. -/
theorem reconciled_halfTagged :
    procedureKind ∈ ["Task", procedureKind]
      ∧ (resolveObject halfTagged procedureKind ["Task", procedureKind]).documentation
        = some { summary := "Adds up"
                 parameters := [{ name := "A", direction := "INOUT", type := "Numeric"
                                  description := "The total" }] }
      ∧ (resolveObject halfTagged procedureKind ["Task", procedureKind]).declared
        = [{ name := "A", direction := "INOUT" }] := by
  have hkind : procedureKind ∈ ["Task", procedureKind] := by decide
  have h := reconciled_resolveObject halfTagged hkind
  have hcomment : comment? halfTagged = some { summary := "Adds up" } := by decide +kernel
  have hsignature : (signatureOf halfTagged).parameters
      = [{ name := "A", direction := "INOUT" }] := by
    decide +kernel
  refine ⟨hkind, ?_, ?_⟩
  · rw [h.unlisted _ hcomment (by decide +kernel), hsignature]
    decide +kernel
  · rw [KbObject.declared, h.signature]
    exact hsignature

end Export

end KbDocs
