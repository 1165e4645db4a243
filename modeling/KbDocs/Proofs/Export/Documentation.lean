/-
What is known of a resolved object's documentation.

An author's documentation comes from the block comment in the source; an
object with declared parameters and no such comment gets documentation
that nobody wrote. Merging the two has one lemma for each case of the
comment: none (`mergeDocumentation_none`), one that lists parameters
(`mergeDocumentation_listed`), and one that does not
(`mergeDocumentation_unlisted`). `documentation_resolveObject` says in
one equation which of the two an object ends up with, and everything
after it speaks of resolved objects only, no matter how they were
exported:

- `Resolved.documented_eq`: documentation counts as written exactly if
  the source has a comment;
- `Resolved.documentation_isNone_eq`: there is no documentation at all
  exactly if, besides, no parameter is declared.

`resolved_of_extract` shows that all objects of an export package are
resolved ones, by induction on the members of the archive.
-/
import KbDocs.Extraction
import KbDocs.Proofs.DocComment.Tags

namespace KbDocs

-- ================================================ the block comment

/-- Documentation in a source was written by somebody: no tag says
otherwise. -/
theorem DocComment.ofSource?_autoGenerated {source : String} {doc : DocComment}
    (h : ofSource? source = some doc) : doc.autoGenerated = false := by
  rw [eq_of_ofSource? h]
  rfl

/-- An empty source has no documentation. -/
theorem DocComment.ofSource?_empty : ofSource? "" = none := by
  decide

/-- The parameters that the signature of an object declares. -/
def KbObject.declared (o : KbObject) : List Parameter :=
  (o.signature.map (·.parameters)).getD []

namespace Export

open KbDocs.Xml

-- ======================================================== one object

/-- Without a comment, the parameters make up documentation if there are
any. -/
theorem mergeDocumentation_none (object : Element) (ps : List Parameter) :
    mergeDocumentation none object ps
      = if ps = [] then none
        else some { parameters := enrich ps object, autoGenerated := true } := by
  cases ps with
  | nil => rfl
  | cons p ps => rfl

/-- A comment that lists parameters is kept as it is. -/
theorem mergeDocumentation_listed {d : DocComment} (h : d.parameters ≠ [])
    (object : Element) (ps : List Parameter) :
    mergeDocumentation (some d) object ps = some d := by
  have hlisted : d.parameters.isEmpty = false := by simpa using h
  cases ps with
  | nil => rfl
  | cons p ps => simp [mergeDocumentation, hlisted]

/-- A comment that lists no parameters gets the declared ones. -/
theorem mergeDocumentation_unlisted {d : DocComment} (h : d.parameters = [])
    (object : Element) (ps : List Parameter) :
    mergeDocumentation (some d) object ps
      = some { d with parameters := enrich ps object } := by
  cases ps with
  | nil =>
      -- nothing is declared either, so the empty list stays
      have hempty : { d with parameters := [] } = d := by rw [← h]
      rw [enrich, List.map_nil, hempty]
      rfl
  | cons p ps => simp [mergeDocumentation, h]

/-- Merging leaves no documentation only if there was none and there are
no parameters. -/
theorem mergeDocumentation_isNone (doc : Option DocComment) (object : Element)
    (ps : List Parameter) :
    (mergeDocumentation doc object ps).isNone = (doc.isNone && ps.isEmpty) := by
  cases doc with
  | none =>
      rw [mergeDocumentation_none]
      cases ps <;> rfl
  | some d =>
      by_cases hd : d.parameters = []
      · rw [mergeDocumentation_unlisted hd]
        rfl
      · rw [mergeDocumentation_listed hd]
        rfl

/-- Merging does not change whether somebody wrote the documentation. -/
theorem mergeDocumentation_written (doc : Option DocComment) (object : Element)
    (ps : List Parameter) :
    (mergeDocumentation doc object ps).any (fun d => !d.autoGenerated)
      = doc.any fun d => !d.autoGenerated := by
  cases doc with
  | none =>
      rw [mergeDocumentation_none]
      cases ps <;> rfl
  | some d =>
      by_cases hd : d.parameters = []
      · rw [mergeDocumentation_unlisted hd]
        rfl
      · rw [mergeDocumentation_listed hd]

/-- The documentation of a resolved object is the comment in its source,
merged with the parameters it declares. -/
theorem documentation_resolveObject (object : Element) (kind : String)
    (sourceKinds : List String) :
    (resolveObject object kind sourceKinds).documentation
      = mergeDocumentation
          (DocComment.ofSource? (resolveObject object kind sourceKinds).sourceCode)
          object (resolveObject object kind sourceKinds).declared := by
  rw [resolveObject]
  cases carriesSource kind sourceKinds with
  | false =>
      simp [KbObject.declared, mergeDocumentation, DocComment.ofSource?_empty]
  | true =>
      by_cases hsource : partSource object sourcePart = ""
      · simp [KbObject.declared, hsource, DocComment.ofSource?_empty]
      · simp [KbObject.declared, hsource]

/-- An object that was resolved from an export. -/
def Resolved (sourceKinds : List String) (o : KbObject) : Prop :=
  ∃ object kind, o = resolveObject object kind sourceKinds

section Resolved

variable {sourceKinds : List String} {o : KbObject} (h : Resolved sourceKinds o)

include h

/-- Documentation counts as written exactly if the source has a
comment. -/
theorem Resolved.documented_eq :
    o.documented = (DocComment.ofSource? o.sourceCode).isSome := by
  obtain ⟨object, kind, rfl⟩ := h
  have hdocumented : ∀ o : KbObject,
      o.documented = o.documentation.any fun d => !d.autoGenerated := by
    intro o
    rw [KbObject.documented]
    cases o.documentation <;> rfl
  rw [hdocumented, documentation_resolveObject, mergeDocumentation_written]
  cases hdoc : DocComment.ofSource? (resolveObject object kind sourceKinds).sourceCode with
  | none => rfl
  | some doc => simp [DocComment.ofSource?_autoGenerated hdoc]

/-- There is no documentation at all exactly if the source has no comment
and no parameter is declared. -/
theorem Resolved.documentation_isNone_eq :
    o.documentation.isNone
      = ((DocComment.ofSource? o.sourceCode).isNone && o.declared.isEmpty) := by
  obtain ⟨object, kind, rfl⟩ := h
  rw [documentation_resolveObject, mergeDocumentation_isNone]

end Resolved

-- ==================================================== whole packages

/-- The objects of a document are resolved. -/
theorem resolved_of_assemble {root : Element} {kinds : KindMap}
    {sourceKinds : List String} {o : KbObject}
    (h : o ∈ assemble root kinds sourceKinds) : Resolved sourceKinds o := by
  obtain ⟨c, -, rfl⟩ := List.mem_map.mp h
  exact ⟨c.element, c.kind, rfl⟩

/-- A document adds only resolved objects to an extraction. -/
theorem resolved_addContent {sourceKinds : List String} {x : Extraction}
    (hx : ∀ o ∈ x.objects, Resolved sourceKinds o) (name source : String)
    (bytes : List UInt8) (kinds : KindMap) :
    ∀ o ∈ (x.addContent name (parseExport bytes source kinds sourceKinds)).objects,
      Resolved sourceKinds o := by
  intro o ho
  rw [parseExport] at ho
  cases hparse : Xml.parse bytes with
  | error e =>
      rw [hparse] at ho
      exact hx o ho
  | ok root =>
      rw [hparse] at ho
      rcases List.mem_append.mp ho with ho | ho
      · exact hx o ho
      · exact resolved_of_assemble ho

theorem resolved_addMembers {others : Archive.Unpackers} {bytes : List UInt8}
    {config : Config} {x : Extraction} (hx : ∀ o ∈ x.objects, Resolved config.sourceKinds o)
    (ms : List Archive.Member) :
    ∀ o ∈ (x.addMembers others bytes config ms).1.objects, Resolved config.sourceKinds o := by
  induction ms generalizing x with
  | nil => exact hx
  | cons m ms ih =>
      rw [Extraction.addMembers]
      split
      · split
        · exact hx
        · exact ih (resolved_addContent hx _ _ _ _)
      · exact ih hx

/-- The objects of an export package are resolved. -/
theorem resolved_of_extract {tree : Files.FileTree} {path : Files.FilePath}
    {config : Config} {others : Archive.Unpackers} {x : Extraction}
    (h : (extract tree path config others).result = .ok x) :
    ∀ o ∈ x.objects, Resolved config.sourceKinds o := by
  unfold extract at h
  split at h
  case h_1 => cases h
  case h_2 => cases h
  case h_3 =>
    split at h
    case h_1 => cases h
    case h_2 bytes hread =>
      split at h
      case h_1 => cases h
      case h_2 ms hmembers =>
        dsimp only at h
        split at h
        case h_1 => cases h
        case h_2 y hadd =>
          cases h
          have hall : ∀ o ∈ (y, (none : Option Archive.ArchiveFault)).1.objects,
              Resolved config.sourceKinds o := by
            rw [← hadd]
            exact resolved_addMembers (fun o ho => by cases ho) ms
          exact hall

end Export

end KbDocs
