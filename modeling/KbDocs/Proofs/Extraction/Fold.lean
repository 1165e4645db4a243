/-
Extraction as a fold over the documents of an archive.

An archive that delivers all its documents is read to the end, one
document after another (`addMembers_append`). What a document adds is
said once for a single one (`gathered_absorb`) and carried over to lists
(`gathered_foldl`): the objects of those that decode, in order; a message
for each that does not, in order; and the first name of a knowledge base
that is not empty.

`extract_delivered` is that of whole packages, whatever packing methods
are known. Since a document that does not decode leaves no trace but its
message, and a member that is no document leaves none at all, packages
with the same decodable documents hold the same objects under the same
name.
-/
import KbDocs.Extraction
import KbDocs.Proofs.Files.Tree
import KbDocs.Proofs.Text.Ending

namespace KbDocs.Extraction

open Archive Export Files Files.FileTree

-- ========================================================== documents

/-- A document as an archive delivers it: the name of its member and its
contents. -/
structure Document where
  name : String
  contents : List UInt8

/-- What a document turns out to hold. -/
def Document.content (config : Config) (d : Document) : Except ExportError ExportContent :=
  parseExport d.contents d.name config.kinds config.sourceKinds

def Document.decodes (config : Config) (d : Document) : Bool :=
  (d.content config).toOption.isSome

/-- The documents that an archive delivers, in its order. -/
def documents (bytes : List UInt8) (ms : List Member) (others : Unpackers := .none) :
    List Document :=
  (ms.filter isDocument).filterMap fun m =>
    (m.read bytes others).toOption.map fun contents => ⟨m.name, contents⟩

/-- An archive delivers every document among some members. -/
def Delivers (bytes : List UInt8) (ms : List Member) (others : Unpackers := .none) : Prop :=
  ∀ m ∈ ms, isDocument m = true → ∃ contents, m.read bytes others = .ok contents

instance (bytes : List UInt8) (ms : List Member) (others : Unpackers) :
    Decidable (Delivers bytes ms others) :=
  decidable_of_iff
    (∀ m ∈ ms, isDocument m = true → (m.read bytes others).toOption.isSome = true) <| by
      refine forall₃_congr fun m _ _ => ?_
      cases m.read bytes others <;> simp [Except.toOption]

/-- What the documents that decode hold, in order. -/
def decoded (config : Config) (ds : List Document) : List ExportContent :=
  ds.filterMap fun d => (d.content config).toOption

/-- What is wrong with the others, in order. -/
def rejected (config : Config) (ds : List Document) : List ExportError :=
  ds.filterMap fun d =>
    match d.content config with
    | .ok _ => none
    | .error e => some e

/-- The first name of a knowledge base that is not empty. -/
def firstName (contents : List ExportContent) : String :=
  ((contents.map (·.kbName)).find? (· ≠ "")).getD ""

/-- A member is a document if it is no directory and its name ends in
`.xml` in any case. -/
theorem isDocument_iff {m : Member} :
    isDocument m = true
      ↔ m.isDirectory = false ∧ ∃ stem ending, m.name.toList = stem ++ ending
        ∧ ending.map Char.toLower = ".xml".toList := by
  rw [isDocument, Bool.and_eq_true, Bool.not_eq_true', List.isSuffixOf_iff_suffix,
    Text.suffix_lower_iff (by simp [documentSuffix, Text.isPlain])]
  rfl

section Documents

variable {bytes : List UInt8} {m : Member} {ms : List Member} {others : Unpackers}

theorem documents_cons_delivered {contents : List UInt8} (hm : isDocument m = true)
    (h : m.read bytes others = .ok contents) :
    documents bytes (m :: ms) others = ⟨m.name, contents⟩ :: documents bytes ms others := by
  rw [documents, List.filter_cons_of_pos hm, List.filterMap_cons, h]
  rfl

theorem documents_cons_other (hm : isDocument m = false) :
    documents bytes (m :: ms) others = documents bytes ms others := by
  rw [documents, List.filter_cons_of_neg (by simp [hm])]
  rfl

end Documents

-- =========================================================== the fold

section Fold

variable {config : Config}

/-- The extraction with one more document. -/
def absorb (config : Config) (x : Extraction) (d : Document) : Extraction :=
  x.addContent d.name (d.content config)

theorem firstName_append (cs ds : List ExportContent) :
    firstName (cs ++ ds) = if firstName cs = "" then firstName ds else firstName cs := by
  rw [firstName, firstName, List.map_append, List.find?_append]
  cases hfind : (cs.map (·.kbName)).find? (· ≠ "") with
  | none => rfl
  | some name =>
      have hname : name ≠ "" := by simpa using List.find?_some hfind
      rw [Option.some_or, Option.getD_some, if_neg hname]

/-- `y` is `x` with what some documents hold. -/
structure Gathered (config : Config) (x : Extraction) (ds : List Document)
    (y : Extraction) : Prop where
  objects : y.objects = x.objects ++ (decoded config ds).flatMap (·.objects)
  warnings : y.warnings = x.warnings ++ (rejected config ds).map (·.message)
  kbName : y.kbName = if x.kbName = "" then firstName (decoded config ds) else x.kbName

/-- A document that decodes adds its objects, and a name if there was
none; one that does not adds its message. -/
theorem gathered_absorb (x : Extraction) (d : Document) :
    Gathered config x [d] (absorb config x d) := by
  have hdecoded : decoded config [d] = (d.content config).toOption.toList := by
    rw [decoded, List.filterMap_cons]
    cases (d.content config).toOption <;> rfl
  cases hcontent : d.content config with
  | error e =>
      have hrejected : rejected config [d] = [e] := by
        simp [rejected, hcontent]
      refine ⟨?_, ?_, ?_⟩
      · simp [absorb, hcontent, hdecoded, addContent, Except.toOption]
      · simp [absorb, hcontent, hrejected, addContent]
      · by_cases hname : x.kbName = ""
        · simp [absorb, hcontent, hdecoded, addContent, Except.toOption, hname, firstName]
        · simp [absorb, hcontent, addContent, hname]
  | ok c =>
      have hrejected : rejected config [d] = [] := by
        simp [rejected, hcontent]
      refine ⟨?_, ?_, ?_⟩
      · simp [absorb, hcontent, hdecoded, addContent, Except.toOption]
      · simp [absorb, hcontent, hrejected, addContent]
      · have hfirst : firstName [c] = c.kbName := by
          by_cases hc : c.kbName = ""
          · simp [firstName, hc]
          · simp [firstName, hc]
        simp [absorb, hcontent, hdecoded, addContent, Except.toOption, hfirst]

theorem Gathered.trans {x y z : Extraction} {ds es : List Document}
    (h : Gathered config x ds y) (h' : Gathered config y es z) :
    Gathered config x (ds ++ es) z := by
  refine ⟨?_, ?_, ?_⟩
  · rw [h'.objects, h.objects, decoded, decoded, decoded, List.filterMap_append,
      List.flatMap_append, List.append_assoc]
  · rw [h'.warnings, h.warnings, rejected, rejected, rejected, List.filterMap_append,
      List.map_append, List.append_assoc]
  · rw [h'.kbName, h.kbName, decoded, decoded, decoded, List.filterMap_append,
      firstName_append]
    by_cases hname : x.kbName = ""
    · simp only [hname, if_true]
    · simp only [hname, if_false]

/-- Absorbing documents one after another gathers all of them. -/
theorem gathered_foldl (ds : List Document) (x : Extraction) :
    Gathered config x ds (ds.foldl (absorb config) x) := by
  induction ds generalizing x with
  | nil =>
      refine ⟨(List.append_nil _).symm, (List.append_nil _).symm, ?_⟩
      split
      case isTrue hname => exact hname
      case isFalse => rfl
  | cons d ds ih => exact (gathered_absorb x d).trans (ih (absorb config x d))

/-- Members whose documents are all delivered are absorbed, and the
extraction goes on with those behind them. -/
theorem addMembers_append {others : Unpackers} {bytes : List UInt8} {pre : List Member}
    (hpre : Delivers bytes pre others) (x : Extraction) (ms : List Member) :
    addMembers others bytes config x (pre ++ ms)
      = addMembers others bytes config
          ((documents bytes pre others).foldl (absorb config) x) ms := by
  induction pre generalizing x with
  | nil => rfl
  | cons m pre ih =>
      have hrest : Delivers bytes pre others := fun k hk => hpre k (List.mem_cons_of_mem m hk)
      rw [List.cons_append, addMembers]
      cases hm : isDocument m with
      | true =>
          obtain ⟨contents, hcontents⟩ := hpre m List.mem_cons_self hm
          rw [if_pos rfl, hcontents, documents_cons_delivered hm hcontents]
          exact ih hrest _
      | false =>
          rw [if_neg Bool.false_ne_true, documents_cons_other hm]
          exact ih hrest x

end Fold

-- ============================================================ packages

section Packages

variable {tree : FileTree} {path : FilePath} {bytes : List UInt8} {ms : List Member}
  {config : Config} {others : Unpackers}

/-- How an extraction begins. -/
def opened (path : FilePath) : Extraction :=
  { log := [⟨.info, "Opening XPZ file: " ++ path.toString⟩] }

/-- A package whose members are all read is extracted. -/
theorem result_extract_ok {x : Extraction} (hread : tree.read path = .ok bytes)
    (hms : members bytes = .ok ms)
    (h : addMembers others bytes config (opened path) ms = (x, none)) :
    ∃ y, (extract tree path config others).result = .ok y ∧ y.objects = x.objects
      ∧ y.warnings = x.warnings ∧ y.kbName = x.kbName := by
  rw [opened] at h
  simp only [extract, look_of_read hread, hread, hms, h]
  exact ⟨_, rfl, rfl, rfl, rfl⟩

/-- A package with a member that cannot be read is not. -/
theorem result_extract_error {x : Extraction} {fault : ArchiveFault}
    (hread : tree.read path = .ok bytes) (hms : members bytes = .ok ms)
    (h : addMembers others bytes config (opened path) ms = (x, some fault)) :
    (extract tree path config others).result = .error (.archive fault) := by
  rw [opened] at h
  simp only [extract, look_of_read hread, hread, hms, h]

/-- What is extracted from a package that delivers all its documents. -/
theorem gathered_extract (hread : tree.read path = .ok bytes)
    (hms : members bytes = .ok ms) (hdelivers : Delivers bytes ms others) (config : Config) :
    ∃ x, (extract tree path config others).result = .ok x
      ∧ Gathered config {} (documents bytes ms others) x := by
  have hall : addMembers others bytes config (opened path) ms
      = ((documents bytes ms others).foldl (absorb config) (opened path), none) := by
    have hend : addMembers others bytes config (opened path) (ms ++ []) = _ :=
      addMembers_append hdelivers (opened path) []
    rwa [List.append_nil] at hend
  have hgathered : Gathered config (opened path) (documents bytes ms others) _ :=
    gathered_foldl (documents bytes ms others) (opened path)
  obtain ⟨y, hresult, hobjects, hwarnings, hname⟩ := result_extract_ok hread hms hall
  refine ⟨y, hresult, ?_, ?_, ?_⟩
  · exact hobjects.trans hgathered.objects
  · exact hwarnings.trans hgathered.warnings
  · exact hname.trans hgathered.kbName

end Packages

/-- What decodes is known from the documents that do. -/
theorem decoded_filter (config : Config) (ds : List Document) :
    decoded config (ds.filter (·.decodes config)) = decoded config ds := by
  rw [decoded, decoded, List.filterMap_filter]
  refine congrArg (List.filterMap · ds) (funext fun d => ?_)
  rw [Document.decodes]
  cases (d.content config).toOption <;> rfl

/-- A package that delivers its documents, which are the members with the
ending of documents in any case, is extracted: the objects are those of
the documents that decode, in order; each of the others is a warning, in
order; and the first name that is not empty is that of the knowledge
base. Any other package with the same decodable documents holds the same
objects under the same name. -/
theorem extract_delivered {tree : FileTree} {path : FilePath} {bytes : List UInt8}
    {ms : List Member} {others : Unpackers} (hread : tree.read path = .ok bytes)
    (hms : members bytes = .ok ms) (hdelivers : Delivers bytes ms others) (config : Config) :
    (∀ m : Member, isDocument m = true
      ↔ m.isDirectory = false ∧ ∃ stem ending, m.name.toList = stem ++ ending
        ∧ ending.map Char.toLower = ".xml".toList)
    ∧ ∃ x, (extract tree path config others).result = .ok x
      ∧ x.objects = (decoded config (documents bytes ms others)).flatMap (·.objects)
      ∧ x.warnings = (rejected config (documents bytes ms others)).map (·.message)
      ∧ x.kbName
        = (((decoded config (documents bytes ms others)).map (·.kbName)).find? (· ≠ "")).getD ""
      ∧ ∀ (tree' : FileTree) (path' : FilePath) (bytes' : List UInt8) (ms' : List Member),
          tree'.read path' = .ok bytes' → members bytes' = .ok ms' →
          Delivers bytes' ms' others →
          (documents bytes' ms' others).filter (·.decodes config)
            = (documents bytes ms others).filter (·.decodes config) →
          ∃ x', (extract tree' path' config others).result = .ok x'
            ∧ x'.objects = x.objects ∧ x'.kbName = x.kbName := by
  refine ⟨fun m => isDocument_iff, ?_⟩
  obtain ⟨x, hresult, hx⟩ := gathered_extract hread hms hdelivers config
  refine ⟨x, hresult, hx.objects, hx.warnings, hx.kbName, ?_⟩
  intro tree' path' bytes' ms' hread' hms' hdelivers' hsame
  obtain ⟨x', hresult', hx'⟩ := gathered_extract hread' hms' hdelivers' config
  have hdecoded : decoded config (documents bytes' ms' others)
      = decoded config (documents bytes ms others) := by
    rw [← decoded_filter, hsame, decoded_filter]
  refine ⟨x', hresult', ?_, ?_⟩
  · rw [hx'.objects, hx.objects, hdecoded]
  · rw [hx'.kbName, hx.kbName, hdecoded]

-- ========================================================== an archive

/-- A number in some bytes, lowest byte first. -/
def numeral (size n : Nat) : List UInt8 :=
  (List.range size).map fun i => (n >>> (8 * i)).toUInt8

/-- A file that is stored in an archive as it is, and the checksum that
the archive gives for it. -/
structure StoredFile where
  name : String
  text : String
  checksum : UInt32 := Archive.checksum text.toUTF8.toList

/-- What an archive says of a stored file both in front of it and in the
directory: version, four numbers that are zero, checksum, size twice, and
the sizes of the name and of nothing else. -/
def StoredFile.fields (f : StoredFile) : List UInt8 :=
  numeral 2 20 ++ numeral 8 0 ++ numeral 4 f.checksum.toNat
    ++ numeral 4 f.text.utf8ByteSize ++ numeral 4 f.text.utf8ByteSize
    ++ numeral 2 f.name.utf8ByteSize ++ numeral 2 0

def StoredFile.record (f : StoredFile) : List UInt8 :=
  mark 3 4 ++ f.fields ++ f.name.toUTF8.toList ++ f.text.toUTF8.toList

/-- The directory of stored files, the first of which has an offset. -/
def directoryFrom (offset : Nat) : List StoredFile → List UInt8
  | [] => []
  | f :: rest =>
      mark 1 2 ++ numeral 2 20 ++ f.fields ++ numeral 10 0 ++ numeral 4 offset
        ++ f.name.toUTF8.toList ++ directoryFrom (offset + f.record.length) rest

def archiveOf (files : List StoredFile) : List UInt8 :=
  let records := files.flatMap StoredFile.record
  let directory := directoryFrom 0 files
  records ++ directory ++ mark 5 6 ++ numeral 4 0 ++ numeral 2 files.length
    ++ numeral 2 files.length ++ numeral 4 directory.length ++ numeral 4 records.length
    ++ numeral 2 0

/-- What can be tried out on the members of an archive holds of them. -/
theorem exists_members {bytes : List UInt8} {P : List Member → Prop} [DecidablePred P]
    (h : (members bytes).toOption.any P = true) : ∃ ms, members bytes = .ok ms ∧ P ms := by
  cases hms : members bytes with
  | error fault =>
      rw [hms] at h
      cases h
  | ok ms =>
      rw [hms] at h
      exact ⟨ms, rfl, of_decide_eq_true h⟩

def packageTree (bytes : List UInt8) : FileTree :=
  ⟨[(["a.xpz"], .file bytes)]⟩

theorem read_packageTree (bytes : List UInt8) :
    (packageTree bytes).read ⟨"", ["a.xpz"]⟩ = .ok bytes := by
  rfl

/-- An export of one object, from a knowledge base with a name. -/
def exportText (kbName object : String) : String :=
  "<E><Source><Version name='" ++ kbName ++ "'/></Source><Objects><Object name='"
    ++ object ++ "' type='1'/></Objects></E>"

def taskConfig : Config :=
  { kinds := [("1", "Task")] }

/-- An archive with two exports, the first from a knowledge base without
a name; an export that breaks off; and members that are no exports. -/
def mixedArchive : List UInt8 :=
  archiveOf [{ name := "notes.txt", text := "<E>" }, { name := "cut.xml", text := "<E>" },
    { name := "first.xml", text := exportText "" "P" }, { name := "sub.xml/", text := "" },
    { name := "SECOND.XML", text := exportText "KB" "Q" }]

/-- Both objects are extracted, with one warning. -/
theorem extract_mixedArchive :
    ∃ x, (extract (packageTree mixedArchive) ⟨"", ["a.xpz"]⟩ taskConfig).result = .ok x
      ∧ x.objects.map (·.path) = ["P", "Q"]
      ∧ x.warnings = ["Failed to parse cut.xml: no element found: line 1, column 3"]
      ∧ x.kbName = "KB" := by
  obtain ⟨ms, hms, hdelivers, hobjects, hwarnings, hname⟩ : ∃ ms,
      members mixedArchive = .ok ms ∧ Delivers mixedArchive ms
      ∧ ((decoded taskConfig (documents mixedArchive ms)).flatMap (·.objects)).map (·.path)
        = ["P", "Q"]
      ∧ (rejected taskConfig (documents mixedArchive ms)).map (·.message)
        = ["Failed to parse cut.xml: no element found: line 1, column 3"]
      ∧ (((decoded taskConfig (documents mixedArchive ms)).map (·.kbName)).find?
          (· ≠ "")).getD "" = "KB" :=
    exists_members (by decide +kernel)
  obtain ⟨-, x, hresult, hx, hx', hx'', -⟩ :=
    extract_delivered (read_packageTree mixedArchive) hms hdelivers taskConfig
  refine ⟨x, hresult, ?_, ?_, ?_⟩
  · rw [hx, hobjects]
  · rw [hx', hwarnings]
  · rw [hx'', hname]

end KbDocs.Extraction
