/-
The variables of an object, told by their places in its tree.

Parameters of the older format are variables with a flag. Which elements
count as the variables of an object is a matter of two walks, the first
to the variables part and the second through it; both follow document
order (DocumentOrder.lean), at any depth and without the start itself.
Here the walks are replaced by what they come to: the part is the first
one below the object (`part?_eq_some_iff`), the variables are those below
the part (`variableElements_of_part`), and the paths that ask for the two
give the same elements (`queryVariables_eq`).

`ofVariables?_scan` is then a statement about places only: one parameter
for every place below the part where a flagged variable stands, in
document order.
-/
import KbDocs.Proofs.Xml.DocumentOrder
import KbDocs.Signature.Resolve

namespace KbDocs.Signature

open KbDocs.Export KbDocs.Xml

-- ====================================================== the part

/-- The first part with an identifier, by its place. -/
theorem part?_eq_some_iff {object part : Element} {id : String} :
    part? object id = some part
      ↔ object.FirstBelow (fun p => p.tag = "Part" ∧ p.rawAttribute? "type" = some id) part := by
  have hcondition : (fun p : Element => p.tag = "Part" ∧ p.rawAttribute? "type" = some id)
      = fun p => (p.rawAttribute? "type" == some id && p.tag == "Part") = true := by
    funext p
    simp [and_comm]
  rw [part?, parts, Element.descendantsNamed, List.filter_filter,
    Element.head?_filter_descendants, hcondition]

/-- The variables part of an object: of the parts with its identifier
that are below the object, the first in document order. -/
def IsVariablesPart (object part : Element) : Prop :=
  object.FirstBelow (fun p => p.tag = "Part" ∧ p.rawAttribute? "type" = some variablesPart) part

theorem variableElements_of_part {object part : Element} (h : IsVariablesPart object part) :
    variableElements object = part.descendantsNamed "Variable" := by
  rw [variableElements, part?_eq_some_iff.mpr h]

theorem variableElements_of_no_part {object : Element}
    (h : ∀ part, ¬ IsVariablesPart object part) : variableElements object = [] := by
  unfold variableElements
  cases hpart : part? object variablesPart with
  | none => rfl
  | some part => exact absurd (part?_eq_some_iff.mp hpart) (h part)

theorem exists_variablesPart {object : Element} (h : variableElements object ≠ []) :
    ∃ part, IsVariablesPart object part := by
  by_contra hnone
  exact h (variableElements_of_no_part (not_exists.mp hnone))

/-- Objects with the same variables part have the same variables,
whatever else is in them. -/
theorem variableElements_congr {object other : Element}
    (h : ∀ part, IsVariablesPart other part ↔ IsVariablesPart object part) :
    variableElements other = variableElements object := by
  by_cases hpart : ∃ part, IsVariablesPart object part
  · obtain ⟨part, hpart⟩ := hpart
    rw [variableElements_of_part hpart, variableElements_of_part ((h part).mpr hpart)]
  · rw [not_exists] at hpart
    rw [variableElements_of_no_part hpart,
      variableElements_of_no_part fun part hother => hpart part ((h part).mp hother)]

/-- The variables of an object as paths ask for them. -/
def queryVariables (object : Element) : Except PathError (List Element) := do
  match ← object.findFirst (partPath variablesPart) with
  | none => return []
  | some part => part.findAll ".//Variable"

/-- The two paths give the variables of an object. -/
theorem queryVariables_eq (object : Element) :
    queryVariables object = .ok (variableElements object) := by
  have hpart : parsePath (partPath variablesPart)
      = .ok [.self, .descendant (some "Part"),
          .filter (.attributeIs "type" variablesPart true)] := rfl
  have hvariable : parsePath ".//Variable" = .ok [.self, .descendant (some "Variable")] := rfl
  have hfirst : object.findFirst (partPath variablesPart) = .ok (part? object variablesPart) := by
    unfold Element.findFirst
    rw [findAll_attributed object (by decide) (by decide) hpart]
    rfl
  unfold queryVariables variableElements
  rw [hfirst]
  cases part? object variablesPart with
  | none => rfl
  | some part => exact findAll_tagged part (by decide) (by decide) hvariable

-- ================================================= flagged variables

/-- A variable with the flag of a parameter and a name. -/
def Flagged (v : Element) : Prop :=
  v.tag = "Variable" ∧ (Variable.ofElement v).isParameter = true
    ∧ (Variable.ofElement v).name ≠ ""

/-- What a variable tells of a parameter; the direction is not recorded. -/
def asParameter (v : Variable) : Parameter :=
  { name := v.name, direction := "IN", type := v.type, description := v.description }

/-- Whether a variable is flagged and has a name. -/
def isFlagged (v : Element) : Bool :=
  (Variable.ofElement v).isParameter && (Variable.ofElement v).name ≠ ""

/-- The flagged ones of a list of variables, as parameters. -/
theorem filterMap_flaggedParameter? (l : List Element) :
    l.filterMap (flaggedParameter? ∘ Variable.ofElement)
      = (l.filter isFlagged).map (asParameter ∘ Variable.ofElement) := by
  induction l with
  | nil => rfl
  | cons v l ih =>
      rw [List.filterMap_cons, List.filter_cons]
      by_cases hv : isFlagged v = true
      · have hparameter : (flaggedParameter? ∘ Variable.ofElement) v
            = some (asParameter (Variable.ofElement v)) := if_pos hv
        rw [hparameter, if_pos hv, ih]
        rfl
      · have hparameter : (flaggedParameter? ∘ Variable.ofElement) v = none := if_neg hv
        rw [hparameter, if_neg hv, ih]

/-- A signature by flags is written from the parameters that the flagged
variables are. -/
theorem ofVariables?_eq_some_iff {object : Element} {procedure : String} {sig : Signature} :
    ofVariables? object procedure = some sig
      ↔ ∃ ps, ((variableElements object).filter isFlagged).map (asParameter ∘ Variable.ofElement)
          = ps ∧ ps ≠ [] ∧ sig = { parameters := ps, callText := canonicalCall procedure ps } := by
  rw [ofVariables?, filterMap_flaggedParameter?]
  cases ((variableElements object).filter isFlagged).map (asParameter ∘ Variable.ofElement) with
  | nil => simp
  | cons p ps => simp [eq_comm]

theorem ofVariables?_eq_none_iff {object : Element} {procedure : String} :
    ofVariables? object procedure = none ↔ (variableElements object).filter isFlagged = [] := by
  rw [ofVariables?, filterMap_flaggedParameter?]
  cases (variableElements object).filter isFlagged with
  | nil => simp
  | cons v l => simp

/-- The flagged ones of the variables below a part. -/
theorem filter_isFlagged (part : Element) :
    (part.descendantsNamed "Variable").filter isFlagged
      = part.descendants.filter fun v => isFlagged v && v.tag == "Variable" := by
  rw [Element.descendantsNamed, List.filter_filter]

theorem flagged_eq :
    Flagged = fun v => (isFlagged v && v.tag == "Variable") = true := by
  funext v
  simp [Flagged, isFlagged, and_comm, and_assoc]

/-- No variable of an object is flagged exactly if none is that stands
below its variables part. -/
theorem filter_isFlagged_eq_nil_iff {object : Element} :
    (variableElements object).filter isFlagged = []
      ↔ ∀ part, IsVariablesPart object part →
        ∀ place v, place ≠ [] → part.at? place = some v → ¬ Flagged v := by
  constructor
  · intro hnone part hpart place v hne hv hflagged
    rw [variableElements_of_part hpart, filter_isFlagged, List.filter_eq_nil_iff] at hnone
    rw [flagged_eq] at hflagged
    exact hnone v (Element.mem_descendants.mpr ⟨place, hne, hv⟩) hflagged
  · intro h
    by_cases hpart : ∃ part, IsVariablesPart object part
    · obtain ⟨part, hpart⟩ := hpart
      rw [variableElements_of_part hpart, filter_isFlagged, List.filter_eq_nil_iff]
      intro v hv hflagged
      obtain ⟨place, hne, hat⟩ := Element.mem_descendants.mp hv
      refine h part hpart place v hne hat ?_
      rw [flagged_eq]
      exact hflagged
    · rw [variableElements_of_no_part (not_exists.mp hpart)]
      rfl

/-- Flagged variables stand at the places that a walk through a part
collects. -/
theorem exists_traversed_flagged (part : Element) :
    ∃ places, part.Traversed Flagged places
      ∧ List.Forall₂ (fun place v => part.at? place = some v) places
        ((part.descendantsNamed "Variable").filter isFlagged) := by
  rw [filter_isFlagged, flagged_eq]
  exact part.exists_traversed _

/-- The flagged variables of an object declare a signature unless there
are none below its variables part. The signature has one parameter for
each place at which one of them stands, in document order, with what the
variable there tells. Nothing outside the part has any influence, and the
elements are those that the paths of the format lead to. -/
theorem ofVariables?_scan (object : Element) (procedure : String) :
    queryVariables object = .ok (variableElements object)
    ∧ (ofVariables? object procedure = none
      ↔ ∀ part, IsVariablesPart object part →
        ∀ place v, place ≠ [] → part.at? place = some v → ¬ Flagged v)
    ∧ (∀ sig, ofVariables? object procedure = some sig →
      ∃ part places, IsVariablesPart object part ∧ part.Traversed Flagged places
        ∧ List.Forall₂ (fun place p => ∃ v, part.at? place = some v
            ∧ p = { name := (Variable.ofElement v).name, direction := "IN"
                    type := (Variable.ofElement v).type
                    description := (Variable.ofElement v).description })
          places sig.parameters
        ∧ sig.callText = canonicalCall procedure sig.parameters)
    ∧ ∀ other, (∀ part, IsVariablesPart other part ↔ IsVariablesPart object part) →
      ofVariables? other procedure = ofVariables? object procedure := by
  refine ⟨queryVariables_eq object, ?_, ?_, ?_⟩
  · rw [ofVariables?_eq_none_iff, filter_isFlagged_eq_nil_iff]
  · intro sig h
    obtain ⟨ps, hps, hne, rfl⟩ := ofVariables?_eq_some_iff.mp h
    obtain ⟨part, hpart⟩ : ∃ part, IsVariablesPart object part := by
      refine exists_variablesPart fun hnone => hne ?_
      rw [← hps, hnone]
      rfl
    rw [variableElements_of_part hpart] at hps
    obtain ⟨places, htraversed, hplaces⟩ := exists_traversed_flagged part
    refine ⟨part, places, hpart, htraversed, ?_, rfl⟩
    rw [← hps, List.forall₂_map_right_iff]
    exact hplaces.imp fun place v hv => ⟨v, hv, rfl⟩
  · intro other h
    unfold ofVariables?
    rw [variableElements_congr h]

/-- A variable with a flag, a name of its own, and what else is in it. -/
def flaggedVariable (name : String) (inside : List Element) : Element :=
  .node "Variable" [] "" (.node "Properties" [] ""
    [.node "Property" [] "" [.node "Name" [] "IsParm" [] "", .node "Value" [] "true" [] ""] "",
     .node "Property" [] "" [.node "Name" [] "Name" [] "", .node "Value" [] name [] ""] ""] ""
    :: inside) ""

/-- An object with its variables part inside another part, one variable
inside another, and a second variables part. -/
def nestedObject : Element :=
  .node "Object" [] ""
    [.node "Part" [("type", sourcePart)] ""
      [.node "Part" [("type", variablesPart)] ""
        [flaggedVariable "A" [flaggedVariable "B" []], .node "Variable" [] "" [] ""] ""] "",
     .node "Part" [("type", variablesPart)] "" [flaggedVariable "C" []] ""] ""

/-- Both variables of the first part are found, and nothing of the
second. -/
theorem ofVariables?_scan_nested :
    ofVariables? nestedObject "P"
        = some { parameters := [{ name := "A" }, { name := "B" }]
                 callText := "P(in:&A, in:&B);" }
      ∧ ∃ part places, IsVariablesPart nestedObject part ∧ part.Traversed Flagged places
        ∧ places.length = 2 := by
  have hsig : ofVariables? nestedObject "P"
      = some { parameters := [{ name := "A" }, { name := "B" }]
               callText := "P(in:&A, in:&B);" } := by
    decide +kernel
  obtain ⟨part, places, hpart, htraversed, hplaces, -⟩ :=
    (ofVariables?_scan nestedObject "P").2.2.1 _ hsig
  exact ⟨hsig, part, places, hpart, htraversed, hplaces.length_eq⟩

end KbDocs.Signature
