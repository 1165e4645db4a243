/-
The directions of the parameters that a document speaks of.

A direction is one of the data model wherever it is checked or given by
default: in the tags of a comment and for flagged variables. The `parm`
rule goes by letters in any case instead, and puts what it found into
upper case. The two agree on every letter but one: the dotted capital i
counts as an `i`, and is its own upper case (`upper_spelling_iff`).

So the directions of a document are those of the data model exactly if no
rule spells a direction with the dotted capital (`directions_iff_undotted`).
One half is an induction on where a parameter comes from
(`Stated.direction`); for the other, a rule that does so declares a
parameter which ends up in the signature.
-/
import KbDocs.Proofs.Export.Provenance

namespace KbDocs

-- ========================================================= the rule

namespace ParmRule

open KbDocs.Text

/-- The upper case of a spelling is a direction unless it begins with the
dotted capital. -/
theorem upper_spelling_iff :
    ∀ word ∈ spellings,
      (String.ofList (upper word) ∈ directions ↔ word.head? ≠ some dotted) := by
  decide +kernel

/-- A segment declares a parameter with one of the directions unless it
begins with the dotted capital. -/
theorem direction_segmentParameter? {s : List Char} {p : Parameter}
    (h : segmentParameter? s = some p) :
    p.direction ∈ directions ↔ s.head? ≠ some dotted := by
  obtain ⟨word, w, v, c, name, hword, -, -, rfl, rfl⟩ := segmentParameter?_eq_some_iff.mp h
  obtain ⟨first, letters, rfl⟩ := exists_cons_of_spelling word hword
  exact upper_spelling_iff _ hword

/-- A rules text in whose `parm` call no segment that declares a parameter
begins with the dotted capital. -/
def Undotted (rules : String) : Prop :=
  ∀ s ∈ segments rules, (segmentParameter? s).isSome → s.head? ≠ some dotted

end ParmRule

namespace Export

open KbDocs.Xml

variable {object : Element} {kind : String} {sourceKinds : List String}

-- ======================================================= one object

/-- Whatever is stated of a parameter has one of the directions, unless
the rule has the dotted capital. -/
theorem Stated.direction (hrule : ParmRule.Undotted (partSource object rulesPart))
    {p : Parameter} (h : Stated object p) : p.direction ∈ directions := by
  have hdefault : "IN" ∈ directions := by decide
  induction h with
  | rule h =>
      obtain ⟨s, hs, hp⟩ := List.mem_filterMap.mp h
      refine (ParmRule.direction_segmentParameter? hp).mpr (hrule s hs ?_)
      rw [hp]
      rfl
  | flag h =>
      obtain ⟨e, -, hp⟩ := List.mem_filterMap.mp h
      rw [Function.comp_apply, Signature.flaggedParameter?] at hp
      split at hp
      case isTrue =>
        cases hp
        exact hdefault
      case isFalse => cases hp
  | tag h =>
      obtain ⟨value, -, hp⟩ := List.mem_filterMap.mp h
      obtain ⟨_, _, _, -, -, -, ⟨-, hmem, -⟩ | ⟨hdirection, -⟩⟩ := Parameter.ofTag?_cases hp
      · exact hmem
      · rw [hdirection]
        exact hdefault
  | filled h hv ih => exact ih

/-- The directions of an object's parameters are those of the data model
exactly if its rule has no dotted capital. -/
theorem directions_resolveObject_iff (hkind : kind ∈ sourceKinds) :
    (∀ p ∈ (resolveObject object kind sourceKinds).mentions, p.direction ∈ directions)
      ↔ ParmRule.Undotted (partSource object rulesPart) := by
  constructor
  · intro h s hs hsome
    obtain ⟨p, hp⟩ := Option.isSome_iff_exists.mp hsome
    have hsignature : p ∈ (signatureOf object).parameters :=
      mem_signatureOf_of_rule (List.mem_filterMap.mpr ⟨s, hs, hp⟩)
    refine (ParmRule.direction_segmentParameter? hp).mp (h p ?_)
    rw [KbObject.mentions, KbObject.declared,
      (signature_documentation_resolveObject object hkind).1]
    exact List.mem_append_left _ hsignature
  · intro hrule p hp
    exact (stated_of_mem_mentions hp).direction hrule

-- ================================================== whole documents

/-- The directions of a document are those of the data model exactly if
no rule of an object that carries source code has the dotted capital. -/
theorem directions_iff_undotted {bytes : List UInt8} {source : String} {kinds : KindMap}
    {content : ExportContent} (h : parseExport bytes source kinds sourceKinds = .ok content) :
    ∃ root, Xml.parse bytes = .ok root
      ∧ ((∀ o ∈ content.objects, ∀ p ∈ o.mentions, p.direction ∈ directions)
        ↔ ∀ c ∈ firsts (candidates root kinds), c.kind ∈ sourceKinds →
            ParmRule.Undotted (partSource c.element rulesPart)) := by
  obtain ⟨root, hroot, hobjects⟩ := objects_of_parseExport h
  refine ⟨root, hroot, ?_⟩
  rw [hobjects, assemble, List.forall_mem_map]
  refine forall₂_congr fun c _ => ?_
  by_cases hkind : c.kind ∈ sourceKinds
  · simp only [hkind, forall_const]
    exact directions_resolveObject_iff hkind
  · simp [hkind, mentions_of_not_mem c.element hkind]

/-- The rule of the padded document has no dotted capital. -/
theorem undotted_paddedDocument :
    ∃ content root,
      parseExport paddedDocument.toUTF8.toList "tasks.xml" [("1", "Task")] ["Task"]
        = .ok content
      ∧ Xml.parse paddedDocument.toUTF8.toList = .ok root
      ∧ (∀ o ∈ content.objects, ∀ p ∈ o.mentions, p.direction ∈ directions)
      ∧ ∀ c ∈ firsts (candidates root [("1", "Task")]), c.kind ∈ ["Task"] →
          ParmRule.Undotted (partSource c.element rulesPart) := by
  obtain ⟨content, hparse, hmentions⟩ := mentions_paddedDocument
  obtain ⟨root, hroot, hiff⟩ := directions_iff_undotted hparse
  have hdirections : ∀ o ∈ content.objects, ∀ p ∈ o.mentions, p.direction ∈ directions := by
    have hall : ∀ ps ∈ content.objects.map (·.mentions), ∀ p ∈ ps,
        p.direction ∈ directions := by
      rw [hmentions]
      decide
    exact fun o ho => hall o.mentions (List.mem_map_of_mem ho)
  exact ⟨content, root, hparse, hroot, hdirections, hiff.mp hdirections⟩

/-- A document whose one procedure spells a direction with the dotted
capital. -/
def dottedDocument : String :=
  "<E><Objects><Object name='P' type='84a12160-f59b-4ad7-a683-ea4481ac23e9'>"
    ++ "<Part type='9b0a32a3-de6d-4be1-a4dd-1b85d3741534'>"
    ++ "<Source>parm(İn:&amp;A);</Source></Part></Object></Objects></E>"

/-- Its parameter ends up with a direction that is none of the data
model. -/
theorem not_directions_dottedDocument :
    ∃ content, parseExport dottedDocument.toUTF8.toList "<export>" builtinKinds
        builtinSourceKinds = .ok content
      ∧ ¬ ∀ o ∈ content.objects, ∀ p ∈ o.mentions, p.direction ∈ directions := by
  obtain ⟨content, hparse, hmentions⟩ : ∃ content,
      parseExport dottedDocument.toUTF8.toList "<export>" builtinKinds builtinSourceKinds
        = .ok content
      ∧ content.objects.map (·.mentions)
        = [[{ name := "A", direction := "İN" }, { name := "A", direction := "İN" }]] :=
    exists_content (by decide +kernel)
  refine ⟨content, hparse, fun h => ?_⟩
  have hall : ∀ ps ∈ content.objects.map (·.mentions), ∀ p ∈ ps,
      p.direction ∈ directions := by
    rw [List.forall_mem_map]
    exact h
  rw [hmentions] at hall
  exact absurd hall (by decide)

end Export

end KbDocs
