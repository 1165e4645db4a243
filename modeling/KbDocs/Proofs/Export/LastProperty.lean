/-
Variables, read off the last values of their properties.

A variable is described by properties, each a name and a value, and a
property may be given more than once. Five names count. What a variable
is depends on the last value of each of them and on nothing else
(`Told`): not on how properties of different names are mixed, not on
values that are overwritten, not on properties of other names. A name
that is missing counts as one with an empty value.

# The step

Reading goes through the properties one by one. It keeps a bare type and
whether the variable is based on an attribute, and decides between the
two at the end, so what it holds on the way is not a variable yet. But it
is at every moment told by one value for each name (`ofValues`): a
property gives its name a new value and leaves all others as they are
(`set_ofValues`). Hence what is held at the end is told by the last
values (`foldl_set`).

# Edits

Whoever writes properties in another order, adds one that does not count
or repeats one before its last value makes a change that no last value
shows (`PropertyChange.lastValue_eq`). An edit is any number of such
changes, made or undone.
-/
import KbDocs.Export.Variable
import KbDocs.Proofs.Xml.DocumentOrder
import Mathlib.Data.List.Induction
import Mathlib.Logic.Function.Basic
import Mathlib.Logic.Relation

namespace KbDocs.Export

open KbDocs.Xml

-- ====================================================== the properties

/-- The names and values of a variable's properties as paths ask for
them. -/
def queryProperties (v : Element) : Except PathError (List (String × String)) := do
  (← v.findAll "Properties/Property").mapM fun p => do
    return (← p.textAt "Name", ← p.textAt "Value")

/-- The paths give the properties of a variable. -/
theorem queryProperties_eq (v : Element) : queryProperties v = .ok (propertyPairs v) := by
  have hname : ∀ p : Element, p.textAt "Name" = .ok (p.childText "Name") := fun p =>
    textAt_tag p (by decide) (by decide) rfl
  have hvalue : ∀ p : Element, p.textAt "Value" = .ok (p.childText "Value") := fun p =>
    textAt_tag p (by decide) (by decide) rfl
  unfold queryProperties propertyPairs
  rw [findAll_grouped v (by decide) (by decide) (by decide) (by decide) rfl]
  simp only [hname, hvalue]
  exact List.mapM_pure

/-- The names of the properties that count. -/
def propertyNames : List String :=
  ["IsParm", "Name", "Description", "ATTCUSTOMTYPE", "idBasedOn"]

/-- The value of the last property with a name, empty if no property has
it. -/
def LastValue (name : String) (properties : List (String × String)) (value : String) : Prop :=
  (∃ before after, properties = before ++ (name, value) :: after ∧ ∀ p ∈ after, p.1 ≠ name)
    ∨ (∀ p ∈ properties, p.1 ≠ name) ∧ value = ""

/-- What the properties of a variable tell, field by field. Of the two
values that the type depends on, the one that names a type comes
first. -/
structure Told (properties : List (String × String)) (v : Variable) : Prop where
  name : LastValue "Name" properties v.name
  description : LastValue "Description" properties v.description
  isParameter : ∃ flag, LastValue "IsParm" properties flag
    ∧ (v.isParameter = true ↔ flag = "True" ∨ flag = "true")
  type : ∃ custom basis, LastValue "ATTCUSTOMTYPE" properties custom
    ∧ LastValue "idBasedOn" properties basis
    ∧ v.type = if TypeName.bare custom ≠ "" then TypeName.bare custom
        else if "Attribute:".toList <+: basis.toList then "-" else ""

-- ========================================================= last values

/-- The last value of a name. -/
def lastValue (properties : List (String × String)) (name : String) : String :=
  ((properties.filter (·.1 == name)).getLast?.map (·.2)).getD ""

/-- One property more gives its name a new value. -/
theorem lastValue_concat (properties : List (String × String)) (name value : String) :
    lastValue (properties ++ [(name, value)])
      = Function.update (lastValue properties) name value := by
  funext other
  unfold lastValue
  rw [List.filter_append]
  by_cases hname : other = name
  · subst hname
    simp
  · rw [Function.update_of_ne hname, List.filter_cons_of_neg (by simpa using Ne.symm hname)]
    simp

/-- A property of another name has no part in the last value. -/
theorem lastValue_insert_of_ne {name : String} {p : String × String} (h : p.1 ≠ name)
    (before after : List (String × String)) :
    lastValue (before ++ p :: after) name = lastValue (before ++ after) name := by
  unfold lastValue
  rw [List.filter_append, List.filter_append, List.filter_cons_of_neg (by simpa using h)]

/-- Behind a property of the same name, what stands before has no part in
the last value. -/
theorem lastValue_append_of_mem {name : String} {after : List (String × String)}
    (h : ∃ q ∈ after, q.1 = name) (before : List (String × String)) :
    lastValue (before ++ after) name = lastValue after name := by
  obtain ⟨q, hq, hname⟩ := h
  have hne : after.filter (·.1 == name) ≠ [] :=
    List.ne_nil_of_mem (List.mem_filter.mpr ⟨hq, by simpa using hname⟩)
  unfold lastValue
  rw [List.filter_append, List.getLast?_append, List.getLast?_eq_some_getLast hne]
  rfl

theorem lastValue_lastValue (properties : List (String × String)) (name : String) :
    LastValue name properties (lastValue properties name) := by
  unfold lastValue
  cases hlast : (properties.filter (·.1 == name)).getLast? with
  | none =>
      rw [List.getLast?_eq_none_iff, List.filter_eq_nil_iff] at hlast
      exact Or.inr ⟨fun p hp => by simpa using hlast p hp, rfl⟩
  | some p =>
      obtain ⟨kept, hkept⟩ := List.getLast?_eq_some_iff.mp hlast
      obtain ⟨before, behind, rfl, -, hbehind⟩ := List.filter_eq_append_iff.mp hkept
      obtain ⟨passed, after, rfl, -, hp, hafter⟩ := List.filter_eq_cons_iff.mp hbehind
      rw [List.filter_eq_nil_iff] at hafter
      refine Or.inl ⟨before ++ passed, after, ?_, fun q hq => by simpa using hafter q hq⟩
      rw [beq_iff_eq] at hp
      rw [← hp]
      simp

/-- Properties have one last value for each name. -/
theorem LastValue.eq_lastValue {name value : String} {properties : List (String × String)}
    (h : LastValue name properties value) : value = lastValue properties name := by
  rcases h with ⟨before, after, rfl, hafter⟩ | ⟨hnone, rfl⟩
  · have hmem : ∃ q ∈ (name, value) :: after, q.1 = name := ⟨_, List.mem_cons_self .., rfl⟩
    have hnil : after.filter (·.1 == name) = [] := by
      rw [List.filter_eq_nil_iff]
      intro p hp
      simpa using hafter p hp
    rw [lastValue_append_of_mem hmem, lastValue, List.filter_cons_of_pos (by simp), hnil]
    rfl
  · have hnil : properties.filter (·.1 == name) = [] := by
      rw [List.filter_eq_nil_iff]
      intro p hp
      simpa using hnone p hp
    rw [lastValue, hnil]
    rfl

-- ============================================================ the step

/-- What has been read when each name has a value. -/
def VariableProperties.ofValues (value : String → String) : VariableProperties where
  isParameter := isTrueText (value "IsParm")
  name := value "Name"
  description := value "Description"
  customType := TypeName.bare (value "ATTCUSTOMTYPE")
  attributeBased := refersToAttribute (value "idBasedOn")

/-- One property more gives its name a value, and no other. -/
theorem VariableProperties.set_ofValues (value : String → String) (name new : String) :
    (ofValues value).set name new = ofValues (Function.update value name new) := by
  unfold set
  split
  case h_6 hflag hname hdescription hcustom hbasis =>
    unfold ofValues
    rw [Function.update_of_ne (Ne.symm hflag), Function.update_of_ne (Ne.symm hname),
      Function.update_of_ne (Ne.symm hdescription), Function.update_of_ne (Ne.symm hcustom),
      Function.update_of_ne (Ne.symm hbasis)]
  all_goals simp [ofValues, Function.update]

/-- Reading property by property, the last values count. -/
theorem VariableProperties.foldl_set (properties : List (String × String)) :
    properties.foldl (fun v (name, value) => v.set name value) {}
      = ofValues (lastValue properties) := by
  induction properties using List.reverseRecOn with
  | nil =>
      -- a name without a property reads as one with an empty value
      have hbare : TypeName.bare "" = "" := by decide +kernel
      show ({} : VariableProperties) = ofValues fun _ => ""
      rw [ofValues, hbare]
      rfl
  | append_singleton properties p ih =>
      obtain ⟨name, value⟩ := p
      rw [List.foldl_append, ih, List.foldl_cons, List.foldl_nil, lastValue_concat]
      exact set_ofValues _ name value

theorem Variable.ofElement_eq (v : Element) :
    Variable.ofElement v
      = (VariableProperties.ofValues (lastValue (propertyPairs v))).toVariable := by
  rw [Variable.ofElement, VariableProperties.foldl_set]

/-- A variable is what its properties tell. -/
theorem told_ofElement (v : Element) : Told (propertyPairs v) (Variable.ofElement v) := by
  rw [Variable.ofElement_eq]
  refine ⟨lastValue_lastValue _ _, lastValue_lastValue _ _, ⟨_, lastValue_lastValue _ _, ?_⟩,
    ⟨_, _, lastValue_lastValue _ _, lastValue_lastValue _ _, ?_⟩⟩
  · show isTrueText _ = true ↔ _
    simp [isTrueText]
  · have hmark : ∀ basis : String,
        (refersToAttribute basis = true) = ("Attribute:".toList <+: basis.toList) := fun basis =>
      propext List.isPrefixOf_iff_prefix
    simp only [VariableProperties.toVariable, VariableProperties.ofValues, hmark]
    rfl

/-- Variables with the same last values are the same. -/
theorem ofElement_congr {v w : Element}
    (h : ∀ name ∈ propertyNames,
      lastValue (propertyPairs w) name = lastValue (propertyPairs v) name) :
    Variable.ofElement w = Variable.ofElement v := by
  simp only [propertyNames, List.forall_mem_cons] at h
  obtain ⟨hflag, hname, hdescription, hcustom, hbasis, -⟩ := h
  rw [Variable.ofElement_eq, Variable.ofElement_eq]
  simp only [VariableProperties.ofValues, hflag, hname, hdescription, hcustom, hbasis]

-- =============================================================== edits

/-- A change of the properties that the last values do not show. -/
inductive PropertyChange : List (String × String) → List (String × String) → Prop
  /-- Another order, in which those of one name stay as they were among
  themselves. -/
  | reordered {properties others : List (String × String)}
      (h : ∀ name, others.filter (·.1 == name) = properties.filter (·.1 == name)) :
      PropertyChange properties others
  /-- One more property of a name that does not count. -/
  | unknown (before after : List (String × String)) (p : String × String)
      (h : p.1 ∉ propertyNames) : PropertyChange (before ++ after) (before ++ p :: after)
  /-- One more property of a name that is given again behind it. -/
  | overwritten (before after : List (String × String)) (p : String × String)
      (h : ∃ q ∈ after, q.1 = p.1) : PropertyChange (before ++ after) (before ++ p :: after)

/-- Properties that differ by such changes, made or undone. -/
def PropertyEdit : List (String × String) → List (String × String) → Prop :=
  Relation.EqvGen PropertyChange

theorem PropertyChange.lastValue_eq {properties others : List (String × String)}
    (h : PropertyChange properties others) {name : String} (hname : name ∈ propertyNames) :
    lastValue others name = lastValue properties name := by
  cases h with
  | reordered h => rw [lastValue, lastValue, h]
  | unknown before after p h =>
      refine lastValue_insert_of_ne ?_ before after
      rintro rfl
      exact h hname
  | overwritten before after p h =>
      by_cases hp : p.1 = name
      · subst hp
        obtain ⟨q, hq, hsame⟩ := h
        rw [lastValue_append_of_mem ⟨q, List.mem_cons_of_mem p hq, hsame⟩,
          lastValue_append_of_mem ⟨q, hq, hsame⟩]
        exact lastValue_append_of_mem ⟨q, hq, hsame⟩ [p]
      · exact lastValue_insert_of_ne hp before after

theorem PropertyEdit.lastValue_eq {properties others : List (String × String)}
    (h : PropertyEdit properties others) {name : String} (hname : name ∈ propertyNames) :
    lastValue others name = lastValue properties name := by
  induction h with
  | rel properties others h => exact h.lastValue_eq hname
  | refl properties => rfl
  | symm properties others _ ih => exact ih.symm
  | trans properties between others _ _ ihleft ihright => exact ihright.trans ihleft

/-- A variable is told by the last values of its properties, which are
those that the paths of the format lead to. Variables with the same last
values are the same, whatever else their properties are; so they may be
written in another order, added where they do not count and repeated
before their last value. -/
theorem ofElement_lastValues (v : Element) :
    queryProperties v = .ok (propertyPairs v)
    ∧ Told (propertyPairs v) (Variable.ofElement v)
    ∧ (∀ w, (∀ name ∈ propertyNames, ∀ value,
        LastValue name (propertyPairs v) value → LastValue name (propertyPairs w) value) →
      Variable.ofElement w = Variable.ofElement v)
    ∧ ∀ w, PropertyEdit (propertyPairs v) (propertyPairs w) →
      Variable.ofElement w = Variable.ofElement v := by
  refine ⟨queryProperties_eq v, told_ofElement v, fun w h => ?_, fun w h => ?_⟩
  · refine ofElement_congr fun name hname => ?_
    exact (h name hname _ (lastValue_lastValue (propertyPairs v) name)).eq_lastValue.symm
  · exact ofElement_congr fun name hname => h.lastValue_eq hname

/-- A property of a variable. -/
def propertyElement (name value : String) : Element :=
  .node "Property" [] "" [.node "Name" [] name [] "", .node "Value" [] value [] ""] ""

/-- A variable whose type is named first and then left empty, in two
groups of properties. -/
def retypedVariable : Element :=
  .node "Variable" [] "" [.node "Properties" [] ""
      [propertyElement "ATTCUSTOMTYPE" "sdt:Messages", propertyElement " Name " "Id"] "",
    .node "Properties" [] ""
      [propertyElement "idBasedOn" "Attribute:UserId", propertyElement "ATTCUSTOMTYPE" " "] ""] ""

/-- The same with the type left empty from the start, the properties in
another order and one more among them. -/
def untypedVariable : Element :=
  .node "Variable" [] "" [.node "Properties" [] ""
    [propertyElement "ATTCUSTOMTYPE" "", propertyElement "Length" "4",
      propertyElement "idBasedOn" "Attribute:UserId", propertyElement "Name" "Id\n"] ""] ""

/-- The empty value counts, and the variable is based on an attribute. -/
theorem ofElement_lastValues_retyped :
    Variable.ofElement untypedVariable = Variable.ofElement retypedVariable
      ∧ Variable.ofElement retypedVariable = { name := "Id", type := "-" } := by
  have hbefore : propertyPairs retypedVariable = [] ++ ("ATTCUSTOMTYPE", "sdt:Messages")
      :: [("Name", "Id"), ("idBasedOn", "Attribute:UserId"), ("ATTCUSTOMTYPE", "")] := by
    decide +kernel
  have hafter : propertyPairs untypedVariable = [("ATTCUSTOMTYPE", "")] ++ ("Length", "4")
      :: [("idBasedOn", "Attribute:UserId"), ("Name", "Id")] := by
    decide +kernel
  have horder : PropertyChange
      ([] ++ [("Name", "Id"), ("idBasedOn", "Attribute:UserId"), ("ATTCUSTOMTYPE", "")])
      ([("ATTCUSTOMTYPE", "")] ++ [("idBasedOn", "Attribute:UserId"), ("Name", "Id")]) := by
    refine .reordered fun name => ?_
    by_cases hname : "Name" = name
    · subst hname
      rfl
    · by_cases hbasis : "idBasedOn" = name
      · subst hbasis
        rfl
      · simp [List.filter_cons, hname, hbasis]
  refine ⟨(ofElement_lastValues retypedVariable).2.2.2 untypedVariable ?_, by decide +kernel⟩
  rw [hbefore, hafter]
  exact .trans _ _ _ (.symm _ _ (.rel _ _ (.overwritten _ _ _ (by simp))))
    (.trans _ _ _ (.rel _ _ horder) (.rel _ _ (.unknown _ _ _ (by decide))))

end KbDocs.Export
