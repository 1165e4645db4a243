/-
Where the parameters of an exported object come from.

A resolved object speaks of parameters in its signature and in its
documentation (`KbObject.mentions`). Each of them was stated in one of
three places, the `parm` rule, the flags of the variables or the tags of
the comment, and afterwards at most had its gaps filled: `Stated` is that
provenance as a relation with one constructor for each place. An
invariant of the parameters of a document is proved constructor by
constructor, and `stated_of_mem_mentions` with `objects_of_parseExport`
carries it to every object that is read.

What the rule contributes has a form of its own, a list of segments that
are read one at a time (`ParmRule.segments`), and
`parameters_signatureOf` says when the signature is just that.
-/
import KbDocs.Proofs.Export.Reconciled
import KbDocs.Proofs.Signature.RoundTrip

namespace KbDocs

-- ========================================================== the rule

namespace ParmRule

open KbDocs.Text

/-- The trimmed segments of the first `parm` call in a rules text. -/
def segments (rules : String) : List (List Char) :=
  match findCall? (dropCommentLines rules.toList) with
  | none => []
  | some arguments => (pieces ',' arguments).map trim

/-- A rule declares what its segments do, whether or not that makes a
signature. -/
theorem parameters_signature? (rules procedure : String) :
    ((signature? rules procedure).map (·.parameters)).getD []
      = (segments rules).filterMap segmentParameter? := by
  have harguments : ∀ a : List Char,
      ((pieces ',' a).map trim).filterMap segmentParameter? = argumentParameters a :=
    fun a => List.filterMap_map
  rw [signature?, segments]
  cases findCall? (dropCommentLines rules.toList) with
  | none => rfl
  | some a =>
      dsimp only
      rw [harguments]
      cases hblank : allBlank a with
      | true => simp [argumentParameters_of_blank hblank]
      | false =>
          cases hparams : argumentParameters a with
          | nil => simp
          | cons p ps => simp

end ParmRule

-- ======================================================= the object

/-- The parameters that an object speaks of, in its signature and in its
documentation. -/
def KbObject.mentions (o : KbObject) : List Parameter :=
  o.declared ++ (o.documentation.map (·.parameters)).getD []

namespace Export

open KbDocs.Xml

variable {object : Element}

/-- The parameters that the `parm` rule of an object declares. -/
def ruleParameters (object : Element) : List Parameter :=
  (ParmRule.segments (partSource object rulesPart)).filterMap ParmRule.segmentParameter?

/-- The parameters that the flags of an object's variables declare. -/
def flaggedParameters (object : Element) : List Parameter :=
  (Signature.variableElements object).filterMap
    (Signature.flaggedParameter? ∘ Variable.ofElement)

/-- The rule of an object declares the parameters of its segments. -/
theorem parameters_ofRules? (object : Element) (procedure : String) :
    ((Signature.ofRules? object procedure).map (·.parameters)).getD []
      = ruleParameters object := by
  rw [Signature.ofRules?, ruleParameters]
  split
  case isTrue hempty =>
    rw [hempty]
    rfl
  case isFalse => exact ParmRule.parameters_signature? _ _

/-- A signature has the parameters of the rule or, where the rule
declares none, those of the flags. -/
theorem parameters_signatureOf (object : Element) :
    (signatureOf object).parameters = ruleParameters object
      ∨ ruleParameters object = []
        ∧ (signatureOf object).parameters = flaggedParameters object := by
  have hrule := parameters_ofRules? object (object.attributeD "name")
  rw [signatureOf, Signature.resolve]
  cases hrules : Signature.ofRules? object (object.attributeD "name") with
  | some s =>
      rw [hrules] at hrule
      exact Or.inl hrule
  | none =>
      rw [hrules] at hrule
      refine Or.inr ⟨hrule.symm, ?_⟩
      dsimp only
      rw [Signature.ofVariables?, flaggedParameters]
      cases (Signature.variableElements object).filterMap
        (Signature.flaggedParameter? ∘ Variable.ofElement) with
      | nil => rfl
      | cons p ps => rfl

/-- The parameters of the rule are in the signature in any case. -/
theorem mem_signatureOf_of_rule {p : Parameter} (h : p ∈ ruleParameters object) :
    p ∈ (signatureOf object).parameters := by
  rcases parameters_signatureOf object with heq | ⟨hnone, -⟩
  · rwa [heq]
  · rw [hnone] at h
    cases h

-- ====================================================== provenance

/-- What the export of an object states about a parameter. -/
inductive Stated (object : Element) : Parameter → Prop where
  /-- A segment of the `parm` rule declares it. -/
  | rule {p : Parameter} (h : p ∈ ruleParameters object) : Stated object p
  /-- A variable is flagged as it. -/
  | flag {p : Parameter} (h : p ∈ flaggedParameters object) : Stated object p
  /-- A tag of the comment documents it. -/
  | tag {p : Parameter}
      (h : p ∈ DocComment.accepted (partSource object sourcePart)) : Stated object p
  /-- A variable fills its gaps. -/
  | filled {p : Parameter} {v : Element} (h : Stated object p)
      (hv : v ∈ Signature.variableElements object) :
      Stated object (p.fill (Variable.ofElement v))

/-- The parameters of a signature were stated. -/
theorem stated_of_mem_signatureOf {p : Parameter}
    (h : p ∈ (signatureOf object).parameters) : Stated object p := by
  rcases parameters_signatureOf object with heq | ⟨-, heq⟩
  · rw [heq] at h
    exact .rule h
  · rw [heq] at h
    exact .flag h

/-- Filling the gaps of what was stated adds only what was stated. -/
theorem stated_of_mem_enrich {ps : List Parameter} (hps : ∀ p ∈ ps, Stated object p)
    {p : Parameter} (h : p ∈ enrich ps object) : Stated object p := by
  obtain ⟨q, hq, rfl⟩ := List.mem_map.mp h
  cases hv : variableNamed? object q.name with
  | none => exact hps q hq
  | some v =>
      obtain ⟨e, he, rfl⟩ := Option.map_eq_some_iff.mp hv
      exact .filled (hps q hq) (List.mem_filter.mp (List.mem_of_getLast? he)).1

/-- Merged documentation lists the declared parameters, unless it is the
comment. -/
theorem parameters_mergeDocumentation {doc : Option DocComment} {ps : List Parameter}
    {d : DocComment} (h : mergeDocumentation doc object ps = some d) :
    d.parameters = enrich ps object ∨ doc = some d := by
  cases doc with
  | none =>
      rw [mergeDocumentation_none] at h
      split at h
      case isTrue => cases h
      case isFalse =>
        cases h
        exact Or.inl rfl
  | some c =>
      by_cases hc : c.parameters = []
      · rw [mergeDocumentation_unlisted hc] at h
        cases h
        exact Or.inl rfl
      · rw [mergeDocumentation_listed hc] at h
        exact Or.inr h

/-- An object of a kind without source code speaks of no parameters. -/
theorem mentions_of_not_mem (object : Element) {kind : String} {sourceKinds : List String}
    (h : kind ∉ sourceKinds) : (resolveObject object kind sourceKinds).mentions = [] := by
  have hcarries : ¬ carriesSource kind sourceKinds = true :=
    fun hc => h (List.contains_iff_mem.mp hc)
  rw [resolveObject, if_neg hcarries]
  rfl

/-- Whatever a resolved object speaks of was stated in its export. -/
theorem stated_of_mem_mentions {kind : String} {sourceKinds : List String} {p : Parameter}
    (h : p ∈ (resolveObject object kind sourceKinds).mentions) : Stated object p := by
  by_cases hkind : kind ∈ sourceKinds
  · obtain ⟨hsignature, hdocumentation⟩ :=
      signature_documentation_resolveObject object hkind
    rw [KbObject.mentions, KbObject.declared, hsignature, hdocumentation] at h
    rcases List.mem_append.mp h with h | h
    · exact stated_of_mem_signatureOf h
    · cases hmerge : mergeDocumentation (comment? object) object
          (signatureOf object).parameters with
      | none =>
          rw [hmerge] at h
          cases h
      | some d =>
          rw [hmerge] at h
          rcases parameters_mergeDocumentation hmerge with heq | hcomment
          · refine stated_of_mem_enrich (fun q hq => stated_of_mem_signatureOf hq) ?_
            rwa [← heq]
          · refine .tag ?_
            rwa [← DocComment.parameters_eq_accepted hcomment]
  · rw [mentions_of_not_mem object hkind] at h
    cases h

-- ====================================================== documents

/-- The objects of a document are those of its root element. -/
theorem objects_of_parseExport {bytes : List UInt8} {source : String} {kinds : KindMap}
    {sourceKinds : List String} {content : ExportContent}
    (h : parseExport bytes source kinds sourceKinds = .ok content) :
    ∃ root, Xml.parse bytes = .ok root
      ∧ content.objects = assemble root kinds sourceKinds := by
  rw [parseExport] at h
  cases hparse : Xml.parse bytes with
  | error e =>
      rw [hparse] at h
      cases h
  | ok root =>
      rw [hparse] at h
      cases h
      exact ⟨root, rfl, rfl⟩

/-- What can be computed of a document's content holds of one. -/
theorem exists_content {α : Type} {r : Except ExportError ExportContent}
    {f : ExportContent → α} {a : α} (h : r.toOption.map f = some a) :
    ∃ content, r = .ok content ∧ f content = a := by
  cases r with
  | error e => cases h
  | ok content => exact ⟨content, rfl, Option.some.inj h⟩

/-- A document whose one task declares two parameters in its rule, with
white space wherever it is allowed. -/
def paddedDocument : String :=
  "<E><Objects><Object type='1'><Part type='9b0a32a3-de6d-4be1-a4dd-1b85d3741534'>"
    ++ "<Source> parm( Out : &amp; A ,in:&amp; B ) </Source></Part></Object></Objects></E>"

/-- The task speaks of both in its signature and again in the
documentation that is made up of it. -/
theorem mentions_paddedDocument :
    ∃ content, parseExport paddedDocument.toUTF8.toList "tasks.xml" [("1", "Task")] ["Task"]
        = .ok content
      ∧ content.objects.map (·.mentions)
        = [[{ name := "A", direction := "OUT" }, { name := "B" },
            { name := "A", direction := "OUT" }, { name := "B" }]] :=
  exists_content (by decide +kernel)

end Export

end KbDocs
