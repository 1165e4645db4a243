/-
Which elements the objects of a package come from.

A document keeps the first object of each name and kind identifier. The
walk that does so begins anew with every document, and a package just
puts the objects of its documents one after another: `records` lists the
elements they come from, and `objects_of_extract` says that these are
all objects there are.

So an object that several documents export is in the package once for
each of them (`count_keys_records`). A package has one record of each object
exactly if no two of its documents export the same
(`nodup_keys_records_iff`).
-/
import KbDocs.Proofs.Export.FirstWins
import KbDocs.Proofs.Export.Provenance
import KbDocs.Proofs.Extraction.Faults

namespace KbDocs.Extraction

open Archive Export Files

-- ========================================================== documents

/-- The objects of known kinds that a document lists; none if it does not
decode. -/
def Document.candidates (config : Config) (d : Document) : List Candidate :=
  match Xml.parse d.contents with
  | .ok root => Export.candidates root config.kinds
  | .error _ => []

/-- A document lists an object with a name and a kind identifier. -/
def Document.Exports (config : Config) (key : String × String) (d : Document) : Prop :=
  key ∈ (d.candidates config).map (·.key)

instance (config : Config) (key : String × String) :
    DecidablePred (Document.Exports config key) :=
  fun d => inferInstanceAs (Decidable (key ∈ (d.candidates config).map (·.key)))

/-- The object that a candidate is resolved to. -/
def resolved (config : Config) (c : Candidate) : KbObject :=
  resolveObject c.element c.kind config.sourceKinds

/-- The elements that the objects of some documents come from, in
order. -/
def records (config : Config) (ds : List Document) : List Candidate :=
  ds.flatMap fun d => firsts (d.candidates config)

section Documents

variable {config : Config}

/-- The objects of a document that decodes come from the elements that it
keeps, and one that does not decode keeps none. -/
theorem objects_of_content (d : Document) :
    ((d.content config).toOption.map (·.objects)).getD []
      = (firsts (d.candidates config)).map (resolved config) := by
  cases hcontent : d.content config with
  | ok content =>
      obtain ⟨root, hroot, hobjects⟩ := objects_of_parseExport hcontent
      rw [Document.candidates, hroot]
      exact hobjects
  | error e =>
      rw [Document.content, parseExport] at hcontent
      cases hparse : Xml.parse d.contents with
      | ok root =>
          rw [hparse] at hcontent
          cases hcontent
      | error fault =>
          rw [Document.candidates, hparse]
          rfl

/-- The objects of documents that decode come from the elements that the
documents keep. -/
theorem objects_of_decoded (ds : List Document) :
    (decoded config ds).flatMap (·.objects) = (records config ds).map (resolved config) := by
  induction ds with
  | nil => rfl
  | cons d ds ih =>
      rw [records, List.flatMap_cons, List.map_append, ← objects_of_content, ← records, ← ih,
        decoded, List.filterMap_cons]
      cases d.content config <;> rfl

/-- An object has one record for each document that exports it. -/
theorem count_keys_records (ds : List Document) (key : String × String) :
    ((records config ds).map (·.key)).count key
      = ds.countP (Document.Exports config key) := by
  induction ds with
  | nil => rfl
  | cons d ds ih =>
      rw [records, List.flatMap_cons, List.map_append, List.count_append, count_keys_firsts,
        ← records, ih, List.countP_cons, Nat.add_comm]
      simp [Document.Exports]

/-- There is one record of each object exactly if no two documents export
the same. -/
theorem nodup_keys_records_iff (ds : List Document) :
    ((records config ds).map (·.key)).Nodup
      ↔ ds.Pairwise fun d e => ∀ key, d.Exports config key → ¬ e.Exports config key := by
  rw [records, List.map_flatMap, List.nodup_flatMap]
  constructor
  · rintro ⟨-, hapart⟩
    refine hapart.imp fun {d e} hdisjoint key hd he => ?_
    exact hdisjoint (mem_keys_firsts.mpr hd) (mem_keys_firsts.mpr he)
  · intro hapart
    refine ⟨fun d _ => nodup_keys_keptAfter [] _, hapart.imp fun {d e} hkeys => ?_⟩
    intro key hd he
    exact hkeys key (mem_keys_firsts.mp hd) (mem_keys_firsts.mp he)

end Documents

-- =========================================================== packages

section Packages

variable {tree : FileTree} {path : FilePath} {config : Config} {x : Extraction}
  {others : Unpackers}

/-- An extraction that succeeds has read an archive. -/
theorem exists_archive (h : (extract tree path config others).result = .ok x) :
    ∃ bytes ms, tree.read path = .ok bytes ∧ members bytes = .ok ms := by
  unfold extract at h
  split at h
  case h_1 => cases h
  case h_2 => cases h
  case h_3 =>
    split at h
    case h_1 => cases h
    case h_2 bytes hread =>
      split at h
      case h_1 => cases h
      case h_2 ms hms => exact ⟨bytes, ms, hread, hms⟩

/-- All its documents were delivered, and are what was extracted. -/
theorem gathered_of_extract (h : (extract tree path config others).result = .ok x) :
    ∃ bytes ms, tree.read path = .ok bytes ∧ members bytes = .ok ms
      ∧ Delivers bytes ms others ∧ Gathered config {} (documents bytes ms others) x := by
  obtain ⟨bytes, ms, hread, hms⟩ := exists_archive h
  have hdelivers : Delivers bytes ms others := by
    by_contra hfails
    obtain ⟨pre, m, post, fault, hsplit, hpre, hm, hfault⟩ := exists_first_fault hfails
    rw [result_of_undelivered hread hms hsplit hpre hm hfault] at h
    cases h
  obtain ⟨y, hresult, hy⟩ := gathered_extract hread hms hdelivers config
  rw [h] at hresult
  cases hresult
  exact ⟨bytes, ms, hread, hms, hdelivers, hy⟩

/-- The objects of a package come from the elements that its documents
keep. -/
theorem objects_of_extract (h : (extract tree path config others).result = .ok x) :
    ∃ bytes ms, tree.read path = .ok bytes ∧ members bytes = .ok ms
      ∧ x.objects = (records config (documents bytes ms others)).map (resolved config) := by
  obtain ⟨bytes, ms, hread, hms, -, hx⟩ := gathered_of_extract h
  refine ⟨bytes, ms, hread, hms, ?_⟩
  rw [hx.objects, List.nil_append, objects_of_decoded]

end Packages

/-- The objects of a package come from elements that its documents keep,
document by document. A document keeps the first element of each name and
kind identifier, in order; the package has a record of an object for each
document that exports it, and so one of each exactly if no two documents
export the same. -/
theorem extract_records {tree : FileTree} {path : FilePath} {config : Config}
    {others : Unpackers} {x : Extraction} (h : (extract tree path config others).result = .ok x) :
    ∃ bytes ms, tree.read path = .ok bytes ∧ members bytes = .ok ms
      ∧ x.objects = (records config (documents bytes ms others)).map (resolved config)
      ∧ (∀ d ∈ documents bytes ms others,
          (firsts (d.candidates config)).Sublist (d.candidates config)
          ∧ ((firsts (d.candidates config)).map (·.key)).Nodup
          ∧ ∀ c, c ∈ firsts (d.candidates config)
            ↔ ∃ pre post, d.candidates config = pre ++ c :: post ∧ ∀ e ∈ pre, e.key ≠ c.key)
      ∧ (∀ key, ((records config (documents bytes ms others)).map (·.key)).count key
          = (documents bytes ms others).countP (Document.Exports config key))
      ∧ (((records config (documents bytes ms others)).map (·.key)).Nodup
          ↔ (documents bytes ms others).Pairwise fun d e =>
            ∀ key, d.Exports config key → ¬ e.Exports config key) := by
  obtain ⟨bytes, ms, hread, hms, hobjects⟩ := objects_of_extract h
  refine ⟨bytes, ms, hread, hms, hobjects, ?_, ?_, ?_⟩
  · intro d _
    refine ⟨firsts_sublist _, nodup_keys_keptAfter [] _, fun c => mem_firsts⟩
  · exact count_keys_records _
  · exact nodup_keys_records_iff _

-- ========================================================== an archive

/-- Two exports of one object; the first also lists it a second time, and
an object of its own. -/
def sharedArchive : List UInt8 :=
  archiveOf [
    { name := "a.xml"
      text := "<E><Objects><Object name='P' type='1'/><Object name=' P ' type='1'/>"
        ++ "<Object name='Q' type='1'/></Objects></E>" },
    { name := "b.xml", text := "<E><Objects><Object name='P' type='1'/></Objects></E>" }]

/-- What the two exports come to: the repetition within the first is
left out, the one in the second is not. -/
theorem exists_sharedArchive :
    ∃ ms, members sharedArchive = .ok ms ∧ Delivers sharedArchive ms
      ∧ (records taskConfig (documents sharedArchive ms)).map (·.key)
        = [("P", "1"), ("Q", "1"), ("P", "1")]
      ∧ ((records taskConfig (documents sharedArchive ms)).map
          fun c => (resolved taskConfig c).path) = ["P", "Q", "P"] :=
  exists_members (by decide +kernel)

/-- The object that both documents export has two records, and the one
that the first lists twice has no third. -/
theorem extract_records_shared :
    ∃ x ms, (extract (packageTree sharedArchive) ⟨"", ["a.xpz"]⟩ taskConfig).result = .ok x
      ∧ members sharedArchive = .ok ms
      ∧ x.objects.map (·.path) = ["P", "Q", "P"]
      ∧ (documents sharedArchive ms).countP (Document.Exports taskConfig ("P", "1")) = 2
      ∧ (documents sharedArchive ms).countP (Document.Exports taskConfig ("Q", "1")) = 1 := by
  obtain ⟨ms, hms, hdelivers, hkeys, hpaths⟩ := exists_sharedArchive
  obtain ⟨x, hresult, -⟩ :=
    gathered_extract (read_packageTree sharedArchive) hms hdelivers taskConfig
  obtain ⟨bytes, ms', hread, hms', hobjects, -, hcount, -⟩ := extract_records hresult
  rw [read_packageTree] at hread
  cases hread
  rw [hms] at hms'
  cases hms'
  refine ⟨x, ms, hresult, hms, ?_, ?_, ?_⟩
  · rw [hobjects, List.map_map]
    exact hpaths
  · rw [← hcount, hkeys]
    decide
  · rw [← hcount, hkeys]
    decide

/-- So there is not one record of each object in this package. -/
theorem not_nodup_sharedArchive :
    ∃ x ms, (extract (packageTree sharedArchive) ⟨"", ["a.xpz"]⟩ taskConfig).result = .ok x
      ∧ members sharedArchive = .ok ms
      ∧ x.objects
        = (records taskConfig (documents sharedArchive ms)).map (resolved taskConfig)
      ∧ ¬ ((records taskConfig (documents sharedArchive ms)).map (·.key)).Nodup := by
  obtain ⟨ms, hms, hdelivers, hkeys, -⟩ := exists_sharedArchive
  obtain ⟨x, hresult, hx⟩ :=
    gathered_extract (read_packageTree sharedArchive) hms hdelivers taskConfig
  refine ⟨x, ms, hresult, hms, ?_, ?_⟩
  · rw [hx.objects, List.nil_append, objects_of_decoded]
  · rw [hkeys]
    decide

end KbDocs.Extraction
