/-
What a damaged member does to an extraction.

A document that does not decode costs a warning and nothing else. One
that the archive cannot even deliver, because its checksum is wrong, its
data corrupt, or it is encrypted or packed by an unknown method, is not
treated like that: the first of them ends the extraction, and what was
extracted before it is lost (`result_of_undelivered`).

`FaultsIsolated` says what an extraction would return that treats the two
alike. `faultsIsolated_iff_delivers`: it is returned exactly if there is
no such member.
-/
import KbDocs.Proofs.Extraction.Fold

namespace KbDocs.Extraction

open Archive Files

/-- The documents among some members that an archive fails to deliver. -/
def undelivered (bytes : List UInt8) (ms : List Member) (others : Unpackers := .none) :
    List Member :=
  (ms.filter isDocument).filter fun m => (m.read bytes others).toOption.isNone

/-- The result of an extraction that goes on after every document that is
not delivered or does not decode: all objects of the others, in order,
and one warning for each of these. -/
def FaultsIsolated (config : Config) (bytes : List UInt8) (ms : List Member)
    (r : Except ExtractError Extraction) (others : Unpackers := .none) : Prop :=
  ∃ x, r = .ok x
    ∧ x.objects = (decoded config (documents bytes ms others)).flatMap (·.objects)
    ∧ x.warnings.length
      = (undelivered bytes ms others).length + (rejected config (documents bytes ms others)).length

section Faults

variable {tree : FileTree} {path : FilePath} {bytes : List UInt8} {ms : List Member}
  {config : Config} {others : Unpackers}

theorem undelivered_eq_nil (h : Delivers bytes ms others) : undelivered bytes ms others = [] := by
  rw [undelivered, List.filter_eq_nil_iff]
  intro m hm
  obtain ⟨hmem, hdocument⟩ := List.mem_filter.mp hm
  obtain ⟨contents, hcontents⟩ := h m hmem hdocument
  rw [hcontents]
  simp [Except.toOption]

/-- If some document is not delivered, there is a first one. -/
theorem exists_first_fault (h : ¬ Delivers bytes ms others) :
    ∃ pre m post fault, ms = pre ++ m :: post ∧ Delivers bytes pre others
      ∧ isDocument m = true ∧ m.read bytes others = .error fault := by
  induction ms with
  | nil => exact absurd (fun m hm => by cases hm) h
  | cons m ms ih =>
      by_cases hm : isDocument m = true → ∃ contents, m.read bytes others = .ok contents
      · have hrest : ¬ Delivers bytes ms others := by
          intro hall
          refine h fun k hk => ?_
          rcases List.mem_cons.mp hk with rfl | hk
          · exact hm
          · exact hall k hk
        obtain ⟨pre, k, post, fault, rfl, hpre, hk, hfault⟩ := ih hrest
        refine ⟨m :: pre, k, post, fault, rfl, fun j hj => ?_, hk, hfault⟩
        rcases List.mem_cons.mp hj with rfl | hj
        · exact hm
        · exact hpre j hj
      · obtain ⟨hdocument, hnone⟩ := Classical.not_imp.mp hm
        cases hread : m.read bytes others with
        | ok contents => exact absurd ⟨contents, hread⟩ hnone
        | error fault =>
            exact ⟨[], m, ms, fault, rfl, (fun k hk => by cases hk), hdocument, hread⟩

/-- The first document that is not delivered is what the extraction ends
with, whatever stands before and behind it. -/
theorem result_of_undelivered {pre post : List Member} {m : Member} {fault : ArchiveFault}
    (hread : tree.read path = .ok bytes) (hms : members bytes = .ok ms)
    (hsplit : ms = pre ++ m :: post) (hpre : Delivers bytes pre others)
    (hm : isDocument m = true) (hfault : m.read bytes others = .error fault) :
    (extract tree path config others).result = .error (.archive fault) := by
  have hstop : addMembers others bytes config (opened path) ms
      = ((documents bytes pre others).foldl (absorb config) (opened path), some fault) := by
    rw [hsplit, addMembers_append hpre, addMembers, if_pos hm, hfault]
  exact result_extract_error hread hms hstop

end Faults

/-- A package with a readable directory is extracted in spite of damaged
members exactly if it has none among its documents. Otherwise nothing is
returned but the fault of the first of them. -/
theorem faultsIsolated_iff_delivers {tree : FileTree} {path : FilePath}
    {bytes : List UInt8} {ms : List Member} {others : Unpackers}
    (hread : tree.read path = .ok bytes) (hms : members bytes = .ok ms) (config : Config) :
    (FaultsIsolated config bytes ms (extract tree path config others).result others
      ↔ ∀ m ∈ ms, isDocument m = true → ∃ contents, m.read bytes others = .ok contents)
    ∧ ∀ pre m post fault, ms = pre ++ m :: post →
        (∀ k ∈ pre, isDocument k = true → ∃ contents, k.read bytes others = .ok contents) →
        isDocument m = true → m.read bytes others = .error fault →
        (extract tree path config others).result = .error (.archive fault) := by
  refine ⟨⟨?_, ?_⟩, ?_⟩
  · rintro ⟨x, hresult, -, -⟩
    by_contra hdelivers
    obtain ⟨pre, m, post, fault, hsplit, hpre, hm, hfault⟩ := exists_first_fault hdelivers
    rw [result_of_undelivered hread hms hsplit hpre hm hfault] at hresult
    cases hresult
  · intro hdelivers
    obtain ⟨x, hresult, hx⟩ := gathered_extract hread hms hdelivers config
    refine ⟨x, hresult, hx.objects, ?_⟩
    rw [hx.warnings, undelivered_eq_nil hdelivers]
    simp
  · intro pre m post fault hsplit hpre hm hfault
    exact result_of_undelivered hread hms hsplit hpre hm hfault

/-- Two exports, and the checksum that the archive gives for the
second. -/
def twoExports (checksum : UInt32) : List UInt8 :=
  archiveOf [{ name := "a.xml", text := exportText "KB" "P" },
    { name := "b.xml", text := "<E/>", checksum := checksum }]

/-- With the right checksum both are delivered, and no fault is there to
be isolated. -/
theorem faultsIsolated_intact :
    ∃ ms, members (twoExports (Archive.checksum "<E/>".toUTF8.toList)) = .ok ms
      ∧ ms.map (·.name) = ["a.xml", "b.xml"]
      ∧ FaultsIsolated taskConfig (twoExports (Archive.checksum "<E/>".toUTF8.toList)) ms
          (extract (packageTree (twoExports (Archive.checksum "<E/>".toUTF8.toList)))
            ⟨"", ["a.xpz"]⟩ taskConfig).result := by
  obtain ⟨ms, hms, hnames, hdelivers⟩ : ∃ ms,
      members (twoExports (Archive.checksum "<E/>".toUTF8.toList)) = .ok ms
      ∧ ms.map (·.name) = ["a.xml", "b.xml"]
      ∧ Delivers (twoExports (Archive.checksum "<E/>".toUTF8.toList)) ms :=
    exists_members (by decide +kernel)
  refine ⟨ms, hms, hnames, ?_⟩
  exact (faultsIsolated_iff_delivers (read_packageTree _) hms taskConfig).1.mpr hdelivers

/-- With a wrong one the extraction fails, although the first export is
delivered and decodes. -/
theorem not_faultsIsolated_damaged :
    ∃ ms, members (twoExports 0) = .ok ms
      ∧ (undelivered (twoExports 0) ms).map (·.name) = ["b.xml"]
      ∧ (rejected taskConfig (documents (twoExports 0) ms)).length = 0
      ∧ ((decoded taskConfig (documents (twoExports 0) ms)).flatMap (·.objects)).map (·.path)
        = ["P"]
      ∧ (extract (packageTree (twoExports 0)) ⟨"", ["a.xpz"]⟩ taskConfig).result
        = .error (.archive (.wrongChecksum "b.xml"))
      ∧ ¬ FaultsIsolated taskConfig (twoExports 0) ms
          (extract (packageTree (twoExports 0)) ⟨"", ["a.xpz"]⟩ taskConfig).result := by
  obtain ⟨ms, hms, hnames, hrejected, hobjects, hdelivers, hdamaged⟩ : ∃ ms,
      members (twoExports 0) = .ok ms
      ∧ (undelivered (twoExports 0) ms).map (·.name) = ["b.xml"]
      ∧ (rejected taskConfig (documents (twoExports 0) ms)).length = 0
      ∧ ((decoded taskConfig (documents (twoExports 0) ms)).flatMap (·.objects)).map (·.path)
        = ["P"]
      ∧ Delivers (twoExports 0) (ms.take 1)
      ∧ (ms.drop 1).map (fun m => (isDocument m, m.read (twoExports 0)))
        = [(true, .error (.wrongChecksum "b.xml"))] :=
    exists_members (by decide +kernel)
  have hresult : (extract (packageTree (twoExports 0)) ⟨"", ["a.xpz"]⟩ taskConfig).result
      = .error (.archive (.wrongChecksum "b.xml")) := by
    obtain ⟨m, hlast, hm⟩ := List.map_eq_singleton_iff.mp hdamaged
    have hsplit : ms = ms.take 1 ++ m :: [] := by rw [← hlast, List.take_append_drop]
    obtain ⟨hdocument, hfault⟩ := Prod.mk.inj hm
    exact result_of_undelivered (read_packageTree _) hms hsplit hdelivers hdocument hfault
  refine ⟨ms, hms, hnames, hrejected, hobjects, hresult, ?_⟩
  rintro ⟨x, hx, -, -⟩
  rw [hresult] at hx
  cases hx

end KbDocs.Extraction
