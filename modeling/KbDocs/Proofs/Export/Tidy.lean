/-
The texts of parameters are tidy: the name is there, and neither the
name nor the type nor the description has white space at its ends.

Everything that looks a parameter up goes by its name, character by
character, so a name that kept a blank would silently go without its
type. Parameters are made in four ways, and each is shown to make tidy
ones only: from a segment of the `parm` rule, where the segment being
trimmed keeps the name from being blank (`tidy_of_segment`); from a
flagged variable, whose properties are read one at a time
(`VariableProperties.Tidy.set`, `VariableProperties.Tidy.foldl`); from
the words of a tag; and by filling gaps. `Stated.tidy` puts them
together by induction on where a parameter comes from.
-/
import KbDocs.Proofs.Export.Provenance
import KbDocs.Proofs.Text.Words
import KbDocs.Proofs.TypeName

namespace KbDocs

open KbDocs.Text

/-- A parameter with a name and no white space at the ends of its
texts. -/
structure Parameter.Tidy (p : Parameter) : Prop where
  name_ne : p.name ≠ ""
  name : Trimmed p.name.toList
  type : Trimmed p.type.toList
  description : Trimmed p.description.toList

/-- The empty text is trimmed. -/
theorem trimmed_empty : Trimmed "".toList := rfl

-- ===================================================== the variables

/-- The text of a child has no white space at its ends. -/
theorem Xml.Element.trimmed_childText (e : Xml.Element) (tag : String) :
    Trimmed (e.childText tag).toList := by
  rw [childText]
  cases (e.childrenNamed tag).head? with
  | none => exact trimmed_empty
  | some c => exact trimmed_trimmed c.innerText

namespace Export

/-- Properties whose texts have no white space at their ends. -/
structure VariableProperties.Tidy (v : VariableProperties) : Prop where
  name : Trimmed v.name.toList
  description : Trimmed v.description.toList
  customType : Trimmed v.customType.toList

/-- One more property with a trimmed value keeps the properties tidy. -/
theorem VariableProperties.Tidy.set {v : VariableProperties} (h : v.Tidy) (name : String)
    {value : String} (hvalue : Trimmed value.toList) : (v.set name value).Tidy := by
  unfold VariableProperties.set
  split
  case h_2 => exact { h with name := hvalue }
  case h_3 => exact { h with description := hvalue }
  case h_4 => exact { h with customType := TypeName.trimmed_bare value }
  all_goals exact ⟨h.name, h.description, h.customType⟩

theorem VariableProperties.Tidy.foldl {v : VariableProperties} (h : v.Tidy)
    {pairs : List (String × String)} (hpairs : ∀ x ∈ pairs, Trimmed x.2.toList) :
    (pairs.foldl (fun v (name, value) => v.set name value) v).Tidy := by
  induction pairs generalizing v with
  | nil => exact h
  | cons x pairs ih =>
      rw [List.foldl_cons]
      exact ih (h.set x.1 (hpairs x (List.mem_cons_self ..)))
        fun y hy => hpairs y (List.mem_cons_of_mem x hy)

/-- A variable whose texts have no white space at their ends. -/
structure Variable.Tidy (v : Variable) : Prop where
  name : Trimmed v.name.toList
  type : Trimmed v.type.toList
  description : Trimmed v.description.toList

theorem VariableProperties.Tidy.toVariable {v : VariableProperties} (h : v.Tidy) :
    v.toVariable.Tidy where
  name := h.name
  description := h.description
  type := by
    rw [VariableProperties.toVariable]
    dsimp only
    split
    case isTrue => exact h.customType
    case isFalse =>
      split
      case isTrue => decide
      case isFalse => exact trimmed_empty

/-- Every variable that is read is tidy. -/
theorem Variable.tidy_ofElement (e : Xml.Element) : (Variable.ofElement e).Tidy := by
  refine VariableProperties.Tidy.toVariable (VariableProperties.Tidy.foldl ?_ ?_)
  · exact ⟨trimmed_empty, trimmed_empty, trimmed_empty⟩
  · intro x hx
    obtain ⟨p, -, rfl⟩ := List.mem_map.mp hx
    exact p.trimmed_childText "Value"

end Export

-- =================================================== the four makers

/-- A trimmed segment declares a tidy parameter: its last character is
visible, so not all behind the ampersand is blank. -/
theorem Parameter.tidy_of_segment {s : List Char} (hs : Trimmed s) {p : Parameter}
    (h : ParmRule.segmentParameter? s = some p) : p.Tidy := by
  obtain ⟨word, w, v, c, name, -, -, -, rfl, rfl⟩ :=
    ParmRule.segmentParameter?_eq_some_iff.mp h
  have hsplit : word ++ w ++ ':' :: (v ++ '&' :: c :: name)
      = (word ++ w ++ ':' :: (v ++ ['&'])) ++ c :: name := by simp
  rw [hsplit] at hs
  have hvisible : allBlank (c :: name) = false :=
    allBlank_of_trimmed_append hs (List.cons_ne_nil c name)
  refine ⟨?_, ?_, trimmed_empty, trimmed_empty⟩
  · intro hempty
    have hblank := trim_eq_nil_iff.mp (String.ofList_eq_empty_iff.mp hempty)
    rw [hblank] at hvisible
    cases hvisible
  · rw [String.toList_ofList]
    exact trimmed_trim (c :: name)

/-- A flagged variable declares a tidy parameter. -/
theorem Parameter.tidy_of_flag {v : Export.Variable} (hv : v.Tidy) {p : Parameter}
    (h : Signature.flaggedParameter? v = some p) : p.Tidy := by
  rw [Signature.flaggedParameter?] at h
  split at h
  case isTrue hflag =>
    cases h
    rw [Bool.and_eq_true, decide_eq_true_eq] at hflag
    exact ⟨hflag.2, hv.name, hv.type, hv.description⟩
  case isFalse => cases h

/-- A tag documents a tidy parameter: it is made of words. -/
theorem Parameter.tidy_of_tag {value : String} {p : Parameter} (h : ofTag? value = some p) :
    p.Tidy := by
  obtain ⟨name, second, rest, hwords, hname, hdescription, htype⟩ := ofTag?_cases h
  have hword : ∀ w ∈ name :: second :: rest, w ≠ [] ∧ Visible w := by
    rw [← hwords]
    exact fun w hw => mem_words hw
  obtain ⟨hne, hvisible⟩ := hword name (by simp)
  refine ⟨?_, ?_, ?_, ?_⟩
  · rw [hname]
    exact fun hempty => hne (String.ofList_eq_empty_iff.mp hempty)
  · rw [hname, String.toList_ofList]
    exact hvisible.trimmed
  · rcases htype with ⟨-, -, htype⟩ | ⟨-, htype⟩
    · rw [htype, String.toList_ofList]
      cases rest with
      | nil => exact trimmed_empty
      | cons third rest => exact (hword third (by simp)).2.trimmed
    · rw [htype, String.toList_ofList]
      exact (hword second (by simp)).2.trimmed
  · rw [hdescription, String.toList_ofList]
    exact trimmed_trim _

theorem trimmed_orElseText {s t : String} (hs : Trimmed s.toList) (ht : Trimmed t.toList) :
    Trimmed (orElseText s t).toList := by
  rw [orElseText]
  split
  case isTrue => exact ht
  case isFalse => exact hs

/-- Filling gaps keeps a parameter tidy. -/
theorem Parameter.Tidy.fill {p : Parameter} (hp : p.Tidy) {v : Export.Variable}
    (hv : v.Tidy) : (p.fill v).Tidy where
  name_ne := hp.name_ne
  name := hp.name
  type := trimmed_orElseText hp.type hv.type
  description := trimmed_orElseText hp.description hv.description

-- ===================================================== whole documents

namespace Export

/-- The segments of a rule are trimmed. -/
theorem trimmed_of_mem_segments {rules : String} {s : List Char}
    (h : s ∈ ParmRule.segments rules) : Trimmed s := by
  rw [ParmRule.segments] at h
  split at h
  case h_1 => cases h
  case h_2 arguments harguments =>
    obtain ⟨segment, -, rfl⟩ := List.mem_map.mp h
    exact trimmed_trim segment

/-- Whatever is stated of a parameter is tidy. -/
theorem Stated.tidy {object : Xml.Element} {p : Parameter} (h : Stated object p) :
    p.Tidy := by
  induction h with
  | rule h =>
      obtain ⟨s, hs, hp⟩ := List.mem_filterMap.mp h
      exact Parameter.tidy_of_segment (trimmed_of_mem_segments hs) hp
  | flag h =>
      obtain ⟨e, -, hp⟩ := List.mem_filterMap.mp h
      exact Parameter.tidy_of_flag (Variable.tidy_ofElement e) hp
  | tag h =>
      obtain ⟨value, -, hp⟩ := List.mem_filterMap.mp h
      exact Parameter.tidy_of_tag hp
  | @filled p v _ _ ih => exact ih.fill (Variable.tidy_ofElement v)

/-- All parameters that the objects of a document speak of are tidy. -/
theorem tidy_of_parseExport {bytes : List UInt8} {source : String} {kinds : KindMap}
    {sourceKinds : List String} {content : ExportContent}
    (h : parseExport bytes source kinds sourceKinds = .ok content) :
    ∀ o ∈ content.objects, ∀ p ∈ o.mentions, p.Tidy := by
  obtain ⟨root, -, hobjects⟩ := objects_of_parseExport h
  intro o ho p hp
  rw [hobjects] at ho
  obtain ⟨c, -, rfl⟩ := List.mem_map.mp ho
  exact (stated_of_mem_mentions hp).tidy

/-- The parameters of the padded document are tidy. -/
theorem tidy_paddedDocument :
    ∃ content, parseExport paddedDocument.toUTF8.toList "tasks.xml" [("1", "Task")] ["Task"]
        = .ok content
      ∧ content.objects.map (·.mentions)
        = [[{ name := "A", direction := "OUT" }, { name := "B" },
            { name := "A", direction := "OUT" }, { name := "B" }]]
      ∧ ∀ o ∈ content.objects, ∀ p ∈ o.mentions, p.Tidy := by
  obtain ⟨content, hparse, hmentions⟩ := mentions_paddedDocument
  exact ⟨content, hparse, hmentions, tidy_of_parseExport hparse⟩

end Export

end KbDocs
