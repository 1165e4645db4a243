/-
Filling the gaps of parameters from the variables of objects.

What an object knows about a name is what its last variable of that name
tells, in document order and below its variables part (`Knows`); the
name is the attribute of the variable, while what it tells comes from its
properties. An object that does not know a name has nothing to supply
(`Supplies`).

# One object, and a series of them

One step fills every gap with what the object supplies and keeps the rest
(`filled_fillFrom`). A series of steps is the same for each field on its
own: names do not change, so every object is asked about the same name,
and a field stays as it is once it is not empty. What it holds in the end
is the first text that is not empty, its own to begin with and then what
the objects supply one after another (`filledAlong_foldl`). Filling from
the same object again is the case where the second one supplies nothing
new.
-/
import KbDocs.Proofs.Signature.Variables

namespace KbDocs

open KbDocs.Export KbDocs.Xml

-- ====================================================== what is known

/-- The variable that an object knows a name by: below its variables
part, the last in document order with that name attribute. -/
def Knows (object : Element) (name : String) (v : Element) : Prop :=
  name ≠ "" ∧ ∃ part, Signature.IsVariablesPart object part
    ∧ part.LastBelow (fun d => d.tag = "Variable" ∧ d.attribute? "Name" = some name) v

/-- What an object supplies for a field of a parameter: what the variable
of that name tells, or nothing. -/
def Supplies (object : Element) (name : String) (field : Variable → String) (value : String) :
    Prop :=
  (∃ v, Knows object name v ∧ value = field (Variable.ofElement v))
    ∨ (∀ v, ¬ Knows object name v) ∧ value = ""

/-- The last of the variables with a name, by its place. -/
theorem getLast?_named_iff {object v : Element} {name : String} :
    ((Signature.variableElements object).filter fun v =>
        name ≠ "" && v.attribute? "Name" == some name).getLast? = some v
      ↔ Knows object name v := by
  have hcondition : name ≠ "" →
      (fun d : Element => d.tag = "Variable" ∧ d.attribute? "Name" = some name)
        = fun d => ((decide (name ≠ "") && d.attribute? "Name" == some name)
            && d.tag == "Variable") = true := by
    intro hname
    funext d
    simp [hname, and_comm]
  constructor
  · intro h
    obtain ⟨hv, hnamed⟩ := List.mem_filter.mp (List.mem_of_getLast? h)
    have hname : name ≠ "" := by
      rw [Bool.and_eq_true, decide_eq_true_eq] at hnamed
      exact hnamed.1
    obtain ⟨part, hpart⟩ := Signature.exists_variablesPart (List.ne_nil_of_mem hv)
    rw [Signature.variableElements_of_part hpart, Element.descendantsNamed, List.filter_filter,
      Element.getLast?_filter_descendants, ← hcondition hname] at h
    exact ⟨hname, part, hpart, h⟩
  · rintro ⟨hname, part, hpart, hlast⟩
    rwa [Signature.variableElements_of_part hpart, Element.descendantsNamed, List.filter_filter,
      Element.getLast?_filter_descendants, ← hcondition hname]

/-- The variable of a name is read off the last one, by place. -/
theorem variableNamed?_eq_some_iff {object : Element} {name : String} {x : Variable} :
    variableNamed? object name = some x
      ↔ ∃ v, Knows object name v ∧ x = Variable.ofElement v := by
  unfold variableNamed?
  dsimp only
  rw [Option.map_eq_some_iff]
  refine exists_congr fun v => ?_
  rw [getLast?_named_iff, eq_comm]

/-- What is supplied for a field. -/
def supplied (object : Element) (name : String) (field : Variable → String) : String :=
  ((variableNamed? object name).map field).getD ""

theorem supplies_supplied (object : Element) (name : String) (field : Variable → String) :
    Supplies object name field (supplied object name field) := by
  unfold supplied
  cases h : variableNamed? object name with
  | none =>
      refine Or.inr ⟨fun v hv => ?_, rfl⟩
      rw [variableNamed?_eq_some_iff.mpr ⟨v, hv, rfl⟩] at h
      cases h
  | some x =>
      obtain ⟨v, hv, rfl⟩ := variableNamed?_eq_some_iff.mp h
      exact Or.inl ⟨v, hv, rfl⟩

-- ============================================================ one step

/-- A field of a parameter after one step: kept, or if it was empty what
the object supplies. -/
def FieldFilled (object : Element) (name : String) (field : Variable → String)
    (before after : String) : Prop :=
  (before ≠ "" → after = before) ∧ (before = "" → Supplies object name field after)

/-- A parameter after one step. -/
structure Filled (object : Element) (p q : Parameter) : Prop where
  name : q.name = p.name
  direction : q.direction = p.direction
  type : FieldFilled object p.name Variable.type p.type q.type
  description : FieldFilled object p.name Variable.description p.description q.description

/-- A parameter with its gaps filled. -/
def fillFrom (object : Element) (p : Parameter) : Parameter :=
  { p with
    type := orElseText p.type (supplied object p.name Variable.type)
    description := orElseText p.description (supplied object p.name Variable.description) }

theorem orElseText_empty (text : String) : orElseText text "" = text := by
  unfold orElseText
  split
  case isTrue h => exact h.symm
  case isFalse => rfl

/-- Filling gaps is a step on each parameter by itself. -/
theorem enrich_eq_map (ps : List Parameter) (object : Element) :
    enrich ps object = ps.map (fillFrom object) := by
  unfold enrich
  refine List.map_congr_left fun p _ => ?_
  unfold fillFrom supplied
  cases variableNamed? object p.name with
  | none => simp [orElseText_empty]
  | some v => rfl

theorem fieldFilled_orElseText (object : Element) (name : String) (field : Variable → String)
    (before : String) :
    FieldFilled object name field before (orElseText before (supplied object name field)) := by
  unfold orElseText
  constructor
  · intro h
    rw [if_neg h]
  · intro h
    rw [if_pos h]
    exact supplies_supplied object name field

theorem filled_fillFrom (object : Element) (p : Parameter) : Filled object p (fillFrom object p) :=
  ⟨rfl, rfl, fieldFilled_orElseText .., fieldFilled_orElseText ..⟩

-- ============================================================ a series

/-- The first of some texts that is not empty. -/
def firstText (texts : List String) : String :=
  (texts.find? (· ≠ "")).getD ""

/-- A field of a parameter after a series of steps: the first text that is
not empty among its own and what the objects supply. -/
def FieldFilledAlong (objects : List Element) (name : String) (field : Variable → String)
    (before after : String) : Prop :=
  ∃ values, List.Forall₂ (fun object value => Supplies object name field value) objects values
    ∧ after = firstText (before :: values)

/-- A parameter after a series of steps. -/
structure FilledAlong (objects : List Element) (p q : Parameter) : Prop where
  name : q.name = p.name
  direction : q.direction = p.direction
  type : FieldFilledAlong objects p.name Variable.type p.type q.type
  description : FieldFilledAlong objects p.name Variable.description p.description q.description

theorem firstText_singleton (text : String) : firstText [text] = text := by
  unfold firstText
  by_cases h : text = ""
  · simp [h]
  · simp [h]

/-- A text and the next one count as the one that fills the other. -/
theorem firstText_orElseText (text other : String) (rest : List String) :
    firstText (orElseText text other :: rest) = firstText (text :: other :: rest) := by
  unfold firstText orElseText
  by_cases h : text = ""
  · simp [h]
  · simp [h]

theorem FieldFilledAlong.nil (name : String) (field : Variable → String) (text : String) :
    FieldFilledAlong [] name field text text :=
  ⟨[], .nil, (firstText_singleton text).symm⟩

/-- One more object in front. -/
theorem FieldFilledAlong.cons {object : Element} {objects : List Element} {name : String}
    {field : Variable → String} {before after : String}
    (h : FieldFilledAlong objects name field
      (orElseText before (supplied object name field)) after) :
    FieldFilledAlong (object :: objects) name field before after := by
  obtain ⟨values, hvalues, rfl⟩ := h
  exact ⟨supplied object name field :: values, .cons (supplies_supplied ..) hvalues,
    firstText_orElseText ..⟩

/-- A series of steps fills each field by the first text that is not
empty. -/
theorem filledAlong_foldl (objects : List Element) (ps : List Parameter) :
    List.Forall₂ (FilledAlong objects) ps (objects.foldl enrich ps) := by
  induction objects generalizing ps with
  | nil =>
      refine List.forall₂_same.mpr fun p _ => ?_
      exact ⟨rfl, rfl, .nil .., .nil ..⟩
  | cons object objects ih =>
      rw [List.foldl_cons, enrich_eq_map]
      have h := ih (ps.map (fillFrom object))
      rw [List.forall₂_map_left_iff] at h
      exact h.imp fun p q hq => ⟨hq.name, hq.direction, hq.type.cons, hq.description.cons⟩

/-- Filling a gap twice from the same text is filling it once. -/
theorem orElseText_idem (text other : String) :
    orElseText (orElseText text other) other = orElseText text other := by
  unfold orElseText
  by_cases h : text = ""
  · simp [h]
  · simp [h]

/-- Nothing is supplied where there is no object. -/
theorem fillFrom_empty (p : Parameter) : fillFrom Element.empty p = p := by
  have hnone : ∀ name, variableNamed? Element.empty name = none := fun _ => rfl
  unfold fillFrom supplied
  simp [hnone, orElseText_empty]

/-- Filling gaps keeps the parameters in number and order, their names,
their directions, and every type and description that is not empty; an
empty one becomes what the last variable of that name tells. So a second
time changes nothing, and along a series of objects each field ends as
the first text that is not empty. -/
theorem enrich_fills_gaps (ps : List Parameter) :
    (∀ object, List.Forall₂ (Filled object) ps (enrich ps object))
    ∧ enrich ps Element.empty = ps
    ∧ (∀ object, enrich (enrich ps object) object = enrich ps object)
    ∧ ∀ objects, List.Forall₂ (FilledAlong objects) ps (objects.foldl enrich ps) := by
  refine ⟨fun object => ?_, ?_, fun object => ?_, fun objects => filledAlong_foldl objects ps⟩
  · rw [enrich_eq_map, List.forall₂_map_right_iff]
    exact List.forall₂_same.mpr fun p _ => filled_fillFrom object p
  · rw [enrich_eq_map]
    exact List.map_id'' fillFrom_empty ps
  · rw [enrich_eq_map, enrich_eq_map, List.map_map]
    refine List.map_congr_left fun p _ => ?_
    simp [fillFrom, orElseText_idem]

end KbDocs
