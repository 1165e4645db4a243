/-
Running a second time.

Runs are not all or nothing: a page that cannot be written is left out,
and what the directory held before decides which pages those are. But it
decides nothing else. Once the directory is there, a run is the series of
the writes that the directory accepts (`generate_of_ready`), and which
writes it accepts depends on the directories of the tree, which no write
changes.

So a second run writes the same files in the same order, which leaves
every location as it was (`generate_again`); and what a file that was
written ends up with is what was planned last for it (`finalContent`),
no matter what was there before and which other pages failed.
-/
import KbDocs.Proofs.Files.Attempts
import KbDocs.Proofs.Site.Kept
import KbDocs.Proofs.Site.Plan

namespace KbDocs.Site

open KbDocs.Files KbDocs.Files.FileTree KbDocs.Page

-- ========================================================== the steps

section Steps

variable {directory : FilePath} {home : Location} {s s' : Progress} {page : PlannedPage}
  {pages : List PlannedPage}

/-- A step writes a page that the directory accepts. -/
theorem writePage_of_accepts (h : Home s.tree directory home) (hup : page.file ≠ "..")
    (hpage : Accepts s.tree home page.file) :
    ∃ log, writePage directory s page
      = ({ tree := s.tree.put (home ++ [page.file]) (.file page.content.toUTF8.toList)
           files := s.files ++ [directory.child page.file], log := log }, none) := by
  rw [writePage]
  simp only [write_child_of_accepts h hup hpage]
  exact ⟨_, rfl⟩

/-- It reports any other page, and goes on. -/
theorem writePage_of_not_accepts (h : Home s.tree directory home) (hup : page.file ≠ "..")
    (hclean : '\x00' ∉ page.file.toList) (hpage : ¬ Accepts s.tree home page.file) :
    ∃ log, writePage directory s page = ({ s with log := log }, none) := by
  obtain ⟨e, hwrite, hnull⟩ := write_child_error h hup hpage page.content.toUTF8.toList
  rw [writePage]
  cases e with
  | nullByte => exact absurd (hnull.mp rfl) hclean
  | failed cause path =>
      simp only [hwrite]
      exact ⟨_, rfl⟩

/-- Unless the name is one that no file can have. -/
theorem writePage_of_null (directory : FilePath) (s : Progress)
    (hnull : '\x00' ∈ page.file.toList) :
    (writePage directory s page).2 = some .nullByte := by
  have hpath : hasNull (directory.child page.file) = true := by
    simp [hasNull, FilePath.child, hnull]
  have hwrite : s.tree.write (directory.child page.file) page.content.toUTF8.toList
      = .error .nullByte := by
    rw [write, if_pos hpath]
  rw [writePage]
  simp only [hwrite]

/-- So steps that come to an end had no such name before them. -/
theorem clean_of_writePages (h : writePages directory s pages = (s', none)) :
    ∀ page ∈ pages, '\x00' ∉ page.file.toList := by
  induction pages generalizing s with
  | nil => simp
  | cons page rest ih =>
      rw [writePages] at h
      split at h
      case h_1 s₁ heq =>
        refine List.forall_mem_cons.mpr ⟨fun hnull => ?_, ih h⟩
        have hend := writePage_of_null directory s hnull
        rw [heq] at hend
        cases hend
      case h_2 => cases h

/-- And steps that have no such name before them write, in order, what
the directory accepts. -/
theorem writePages_of_home (h : Home s.tree directory home)
    (hup : ∀ page ∈ pages, page.file ≠ "..")
    (hclean : ∀ page ∈ pages, '\x00' ∉ page.file.toList) :
    ∃ s', writePages directory s pages = (s', none)
      ∧ SameDirectories s.tree s'.tree
      ∧ writeAll directory s.tree (accepted s.tree home (pages.map PlannedPage.entry))
        = .ok s'.tree
      ∧ s'.files = s.files
          ++ (accepted s.tree home (pages.map PlannedPage.entry)).map
              fun w => directory.child w.1 := by
  induction pages generalizing s with
  | nil => exact ⟨s, rfl, .refl s.tree, rfl, (List.append_nil _).symm⟩
  | cons page rest ih =>
      obtain ⟨hup₀, hup⟩ := List.forall_mem_cons.mp hup
      obtain ⟨hclean₀, hclean⟩ := List.forall_mem_cons.mp hclean
      by_cases hpage : Accepts s.tree home page.file
      · have hsame := sameDirectories_put hpage.free page.content.toUTF8.toList
        have hwrite := write_child_of_accepts h hup₀ hpage page.content.toUTF8.toList
        obtain ⟨log, hstep⟩ := writePage_of_accepts h hup₀ hpage
        obtain ⟨s', hrest, hdirs, hall, hfiles⟩ := ih (s := (writePage directory s page).1)
          (by rw [hstep]; exact h.of_same hsame) hup hclean
        rw [hstep] at hrest hdirs hall hfiles
        dsimp only at hdirs hall hfiles
        rw [← hsame.accepted_eq] at hall hfiles
        have hcons : accepted s.tree home ((page :: rest).map PlannedPage.entry)
            = page.entry :: accepted s.tree home (rest.map PlannedPage.entry) :=
          List.filter_cons_of_pos (decide_eq_true hpage)
        refine ⟨s', ?_, hsame.trans hdirs, ?_, ?_⟩
        · rw [writePages, hstep]
          exact hrest
        · rw [hcons, writeAll_cons (w := page.entry) hwrite]
          exact hall
        · rw [hfiles, hcons, List.map_cons, List.append_assoc]
          rfl
      · obtain ⟨log, hstep⟩ := writePage_of_not_accepts h hup₀ hclean₀ hpage
        have hskip : accepted s.tree home ((page :: rest).map PlannedPage.entry)
            = accepted s.tree home (rest.map PlannedPage.entry) :=
          List.filter_cons_of_neg (by simpa [PlannedPage.entry] using hpage)
        obtain ⟨s', hrest, hdirs, hall, hfiles⟩ :=
          ih (s := { s with log := log }) h hup hclean
        refine ⟨s', ?_, hdirs, ?_, ?_⟩
        · rw [writePages, hstep]
          exact hrest
        · rw [hskip]
          exact hall
        · rw [hskip]
          exact hfiles

theorem sameDirectories_of_writePages (h : writePages directory s pages = (s', none))
    (hhome : Home s.tree directory home) (hup : ∀ page ∈ pages, page.file ≠ "..") :
    SameDirectories s.tree s'.tree := by
  obtain ⟨s'', hend, hsame, -⟩ := writePages_of_home hhome hup (clean_of_writePages h)
  rw [h] at hend
  cases hend
  exact hsame

end Steps

-- ============================================================ the run

section Run

variable {tree tree₀ : FileTree} {objects : List KbObject} {kbName : String}
  {directory : FilePath} {home : Location} {generatedAt : Timestamp} {summary : Summary}

/-- What a run reports that wrote some files. -/
def report (objects : List KbObject) (directory : FilePath)
    (ws : List (String × List UInt8)) : Summary :=
  { directory := directory
    procedureCount := (procedures objects).length
    undocumented := undocumented objects
    files := ws.map fun w => directory.child w.1 }

/-- What the file of a name ends up with if it is written: what is
planned last for it. -/
def finalContent (objects : List KbObject) (kbName : String) (generatedAt : Timestamp)
    (file : String) : Option (List UInt8) :=
  (writes objects kbName generatedAt).reverse.lookup file

theorem file_ne_up {page : PlannedPage} (h : page ∈ plan objects) : page.file ≠ ".." := by
  obtain ⟨name, -, hfile⟩ := pageName_of_mem_plan h
  rw [hfile]
  exact fileOf_ne_up name

/-- Nothing stops a run: its directory is there, every planned page has a
name that a file can have, and the overview can be written. -/
structure Ready (tree : FileTree) (objects : List KbObject) (kbName : String)
    (directory : FilePath) (home : Location) : Prop where
  there : Home tree directory home
  clean : ∀ page ∈ plan objects, '\x00' ∉ page.file.toList
  overview : Accepts tree home (fileOf (ofKb kbName))

theorem Ready.of_same (h : Ready tree objects kbName directory home)
    (hsame : SameDirectories tree tree₀) : Ready tree₀ objects kbName directory home :=
  ⟨h.there.of_same hsame, h.clean, hsame.accepts_iff.mp h.overview⟩

/-- A run that is ready is the series of the writes that its directory
accepts, and reports these. -/
theorem generate_of_ready (h : Ready tree objects kbName directory home)
    (generatedAt : Timestamp) :
    (generate tree objects kbName directory generatedAt).result
        = .ok (report objects directory
            (accepted tree home (writes objects kbName generatedAt)))
      ∧ writeAll directory tree (accepted tree home (writes objects kbName generatedAt))
        = .ok (generate tree objects kbName directory generatedAt).tree := by
  obtain ⟨s, hpages, hsame, hall, hfiles⟩ := writePages_of_home
    (s := ⟨tree, [], [⟨.info,
      "Generating Markdown documentation in: " ++ directory.toString⟩]⟩)
    h.there (fun page => file_ne_up) h.clean
  have hwrite := write_child_of_accepts (h.there.of_same hsame) (fileOf_ne_up (ofKb kbName))
    (hsame.accepts_iff.mp h.overview) (overview objects kbName generatedAt).toUTF8.toList
  have hwrites : accepted tree home (writes objects kbName generatedAt)
      = accepted tree home ((plan objects).map PlannedPage.entry)
        ++ [(fileOf (ofKb kbName), (overview objects kbName generatedAt).toUTF8.toList)] := by
    rw [writes, accepted, List.filter_append]
    congr 1
    exact List.filter_cons_of_pos (decide_eq_true h.overview)
  rw [generate, ensureDirectory_of_home h.there]
  simp only [hpages, hwrite]
  constructor
  · rw [hfiles, hwrites, report, List.map_append]
    rfl
  · rw [hwrites]
    exact writeAll_concat.mpr ⟨s.tree, hall, hwrite⟩

/-- Once the directory is made, it is as if it had been there. -/
theorem generate_of_ensureDirectory (h : tree.ensureDirectory directory = (tree₀, none)) :
    generate tree objects kbName directory generatedAt
      = generate tree₀ objects kbName directory generatedAt := by
  obtain ⟨home, hhome⟩ := exists_home_of_ensureDirectory h
  rw [generate, generate, h, ensureDirectory_of_home hhome]

/-- A completed run is one that got ready by making its directory. -/
theorem exists_ready_of_generate
    (h : (generate tree objects kbName directory generatedAt).result = .ok summary) :
    ∃ tree₀ home, Ready tree₀ objects kbName directory home
      ∧ generate tree objects kbName directory generatedAt
        = generate tree₀ objects kbName directory generatedAt := by
  cases hensure : tree.ensureDirectory directory with
  | mk tree₀ failure =>
      cases failure with
      | some e =>
          rw [generate, hensure] at h
          cases h
      | none =>
          obtain ⟨home, hhome⟩ := exists_home_of_ensureDirectory hensure
          have heq : generate tree objects kbName directory generatedAt
              = generate tree₀ objects kbName directory generatedAt :=
            generate_of_ensureDirectory hensure
          refine ⟨tree₀, home, ?_, heq⟩
          rw [heq, generate, ensureDirectory_of_home hhome] at h
          dsimp only at h
          split at h
          case h_1 => cases h
          case h_2 s hpages =>
            have hclean := clean_of_writePages hpages
            have hsame := sameDirectories_of_writePages hpages hhome (fun page => file_ne_up)
            split at h
            case h_1 => cases h
            case h_2 tree' hwrite =>
              have hoverview := ((write_child_iff (hhome.of_same hsame)
                (fileOf_ne_up (ofKb kbName))).mp hwrite).1
              exact ⟨hhome, hclean, hsame.accepts_iff.mpr hoverview⟩

/-- A completed run that is repeated on the files it left completes with
the same report, and leaves every location as it is. Whatever was there
before the first run, and whichever of its pages could not be written,
the files it reports hold what was planned last for their names. -/
theorem generate_again
    (h : (generate tree objects kbName directory generatedAt).result = .ok summary) :
    (generate (generate tree objects kbName directory generatedAt).tree objects kbName
        directory generatedAt).result = .ok summary
      ∧ (∀ l,
          (generate (generate tree objects kbName directory generatedAt).tree objects kbName
            directory generatedAt).tree.get? l
          = (generate tree objects kbName directory generatedAt).tree.get? l)
      ∧ ∀ path ∈ summary.files, ∃ file content, path = directory.child file
          ∧ finalContent objects kbName generatedAt file = some content
          ∧ (generate tree objects kbName directory generatedAt).tree.read path
            = .ok content := by
  obtain ⟨tree₀, home, hready, heq⟩ := exists_ready_of_generate h
  rw [heq] at h ⊢
  obtain ⟨hreport, hfirst⟩ := generate_of_ready hready generatedAt
  rw [hreport] at h
  cases h
  have hup : ∀ w ∈ accepted tree₀ home (writes objects kbName generatedAt), w.1 ≠ ".." :=
    fun w hw => writes_ne_up (List.mem_of_mem_filter hw)
  have hsame := (writeAll_frame hready.there hup hfirst).1
  have hagain := generate_of_ready (hready.of_same hsame) generatedAt
  rw [← hsame.accepted_eq] at hagain
  refine ⟨hagain.1, get?_writeAll_again hready.there hup hfirst hagain.2, ?_⟩
  intro path hpath
  obtain ⟨w, hw, rfl⟩ := List.mem_map.mp hpath
  obtain ⟨content, hlast⟩ := exists_last hw
  have haccepts : Accepts tree₀ home w.1 := of_decide_eq_true (List.mem_filter.mp hw).2
  refine ⟨w.1, content, rfl, ?_, read_writeAll hup hfirst hlast⟩
  rw [finalContent, ← lookup_accepted haccepts, hlast]

end Run

-- ============================================================= a case

/-- Two procedures with a page each. -/
def twoProcedures : List KbObject :=
  [{ name := "P", kind := Export.procedureKind, path := "P" },
    { name := "Q", kind := Export.procedureKind, path := "Q" }]

/-- A directory `docs` in which a directory has the name of the page of
`P`, and in which there is an old page of `Q`. -/
def occupied : FileTree :=
  { entries := [(["docs"], .directory), (["docs", "P.md"], .directory),
      (["docs", "Q.md"], .file [0])] }

/-- The page of `P` cannot be written, and a second run is like the
first. -/
theorem generate_again_occupied :
    ∃ summary, (generate occupied twoProcedures "KB" ⟨"", ["docs"]⟩
        ⟨2024, 1, 31, 12, 0, 0⟩).result = .ok summary
      ∧ summary.files = ["Q.md", "root.md", "KB.md"].map (FilePath.child ⟨"", ["docs"]⟩)
      ∧ (generate (generate occupied twoProcedures "KB" ⟨"", ["docs"]⟩
          ⟨2024, 1, 31, 12, 0, 0⟩).tree twoProcedures "KB" ⟨"", ["docs"]⟩
          ⟨2024, 1, 31, 12, 0, 0⟩).result = .ok summary := by
  obtain ⟨summary, hrun, hfiles⟩ : ∃ summary,
      (generate occupied twoProcedures "KB" ⟨"", ["docs"]⟩
        ⟨2024, 1, 31, 12, 0, 0⟩).result = .ok summary
      ∧ summary.files = ["Q.md", "root.md", "KB.md"].map (FilePath.child ⟨"", ["docs"]⟩) :=
    Outcome.exists_summary (by decide +kernel)
  exact ⟨summary, hrun, hfiles, (generate_again hrun).1⟩

end KbDocs.Site
