/-
Runs in which some pages cannot be written.

A page that cannot be written costs one warning and nothing else. What
there is to write is known before the first write, so no failure can
change it; and a write that fails leaves the files as they are, so no
failure brings about another one. Which writes fail is a question of the
names and of the directories of the tree (`Faults`), and any names can be
made to fail (`exists_faults`).

`failures_contained` puts this together. Only two steps can end a run:
making its directory, and writing the overview. If both succeed, the
report has the files that did not fail, in the order of the plan, and is
otherwise the report of a run without failures; the files have the
contents of such a run; and the log has one warning for each page that
failed, at its place among the notices (`log_writePages`).

A name with a null character is not among the failures: no path can have
it, and to write it is an error of another kind, which ends the run
(`result_of_null`).
-/
import KbDocs.Proofs.Site.Rerun

namespace KbDocs.Site

open KbDocs.Files KbDocs.Files.FileTree KbDocs.Page

-- ======================================================= single writes

/-- The attempt to write a page into a directory. -/
def PlannedPage.attempt (page : PlannedPage) (tree : FileTree) (directory : FilePath) :
    Except FileError FileTree :=
  tree.write (directory.child page.file) page.content.toUTF8.toList

/-- The attempt to write the overview into a directory. -/
def attemptOverview (tree : FileTree) (objects : List KbObject) (kbName : String)
    (directory : FilePath) (generatedAt : Timestamp) : Except FileError FileTree :=
  tree.write (directory.child (fileOf (ofKb kbName)))
    (overview objects kbName generatedAt).toUTF8.toList

/-- The warning that a page could not be written. -/
def PlannedPage.warning (page : PlannedPage) (e : FileError) : LogEntry :=
  ⟨.warning, page.failure ++ ": " ++ e.message⟩

/-- The pages of some names cannot be written into a directory, for
reasons of the file system, and all others can. -/
structure Faults (tree : FileTree) (directory : FilePath) (pages : List PlannedPage)
    (failing : List String) : Prop where
  refused : ∀ page ∈ pages, page.file ∈ failing →
    ∃ cause path, page.attempt tree directory = .error (.failed cause path)
  written : ∀ page ∈ pages, page.file ∉ failing →
    ∃ tree', page.attempt tree directory = .ok tree'

/-- What is logged about a page: what there is to say before it is
written, and a warning if it cannot be. -/
def PlannedPage.entries (page : PlannedPage) (tree : FileTree) (directory : FilePath) : Log :=
  page.notice ++
    match page.attempt tree directory with
    | .ok _ => []
    | .error e => [page.warning e]

section Steps

variable {directory : FilePath} {home : Location} {s s' : Progress} {page : PlannedPage}
  {pages : List PlannedPage} {tree tree₀ : FileTree}

/-- What a step that goes on adds to the log. -/
theorem log_writePage (h : (writePage directory s page).2 = none) :
    (writePage directory s page).1.log = s.log ++ page.entries s.tree directory := by
  unfold writePage PlannedPage.entries PlannedPage.attempt at *
  dsimp only at h ⊢
  cases hwrite : s.tree.write (directory.child page.file) page.content.toUTF8.toList with
  | ok tree => simp
  | error e =>
      rw [hwrite] at h
      cases e with
      | nullByte => cases h
      | failed cause path => simp [PlannedPage.warning]

/-- Steps end early for a name that no file can have, and for nothing
else. -/
theorem nullByte_of_writePages {e : FileError}
    (h : writePages directory s pages = (s', some e)) : e = .nullByte := by
  induction pages generalizing s with
  | nil => cases h
  | cons page rest ih =>
      rw [writePages] at h
      split at h
      case h_1 => exact ih h
      case h_2 s₁ e₁ hstep =>
        cases h
        rw [writePage] at hstep
        split at hstep
        case h_1 => cases hstep
        case h_2 =>
          cases hstep
          rfl
        case h_3 => cases hstep

/-- A step leaves the directories as they are. -/
theorem sameDirectories_writePage (h : Home s.tree directory home) (hup : page.file ≠ "..") :
    SameDirectories s.tree (writePage directory s page).1.tree := by
  rcases writePage_cases directory s page with ⟨hwrite, -, -⟩ | ⟨htree, -⟩
  · obtain ⟨haccepts, htree⟩ := (write_child_iff h hup).mp hwrite
    rw [htree]
    exact sameDirectories_put haccepts.free _
  · rw [htree]
    exact .refl s.tree

theorem entries_of_same (hsame : SameDirectories tree tree₀) (h : Home tree directory home)
    (hup : page.file ≠ "..") :
    page.entries tree directory = page.entries tree₀ directory := by
  have herror : ∀ e, page.attempt tree directory = .error e
      ↔ page.attempt tree₀ directory = .error e :=
    fun e => hsame.write_child_error_iff h hup
  unfold PlannedPage.entries
  cases hwrite : page.attempt tree directory with
  | error e => rw [(herror e).mp hwrite]
  | ok t =>
      cases hwrite₀ : page.attempt tree₀ directory with
      | ok t₀ => rfl
      | error e =>
          rw [(herror e).mpr hwrite₀] at hwrite
          cases hwrite

/-- What steps that come to an end add to the log, page by page: no page
depends on what became of those before it. -/
theorem log_writePages (hhome : Home s.tree directory home)
    (hup : ∀ page ∈ pages, page.file ≠ "..") (h : writePages directory s pages = (s', none)) :
    s'.log = s.log ++ pages.flatMap fun page => page.entries s.tree directory := by
  induction pages generalizing s with
  | nil =>
      cases h
      simp
  | cons page rest ih =>
      obtain ⟨hup₀, hup⟩ := List.forall_mem_cons.mp hup
      have hsame := sameDirectories_writePage hhome hup₀
      rw [writePages] at h
      split at h
      case h_2 => cases h
      case h_1 s₁ hstep =>
        have hlog := log_writePage (by rw [hstep])
        rw [hstep] at hlog hsame
        dsimp only at hlog hsame
        have hrest : (rest.flatMap fun page => page.entries s₁.tree directory)
            = rest.flatMap fun page => page.entries s.tree directory := by
          refine List.flatMap_congr fun page hpage => ?_
          exact (entries_of_same hsame hhome (hup page hpage)).symm
        rw [ih (hhome.of_same hsame) hup h, hlog, hrest, List.flatMap_cons, List.append_assoc]

end Steps

-- ============================================================ the run

section Run

variable {tree tree₀ : FileTree} {objects : List KbObject} {kbName : String}
  {directory : FilePath} {home : Location} {generatedAt : Timestamp} {failing : List String}
  {s : Progress}

/-- The first entry of a log. -/
def openingEntry (directory : FilePath) : LogEntry :=
  ⟨.info, "Generating Markdown documentation in: " ++ directory.toString⟩

/-- Faults are names that the directory does not accept. -/
theorem faults_iff (h : Home tree directory home) :
    Faults tree directory (plan objects) failing
      ↔ ∀ page ∈ plan objects, '\x00' ∉ page.file.toList
          ∧ (Accepts tree home page.file ↔ page.file ∉ failing) := by
  constructor
  · intro hfaults page hpage
    have hup := file_ne_up hpage
    by_cases hfailing : page.file ∈ failing
    · obtain ⟨cause, path, hwrite⟩ := hfaults.refused page hpage hfailing
      unfold PlannedPage.attempt at hwrite
      constructor
      · intro hnull
        rw [write_child_eq h hup, if_pos hnull] at hwrite
        cases hwrite
      · refine ⟨fun haccepts => ?_, fun hnot => absurd hfailing hnot⟩
        rw [write_child_of_accepts h hup haccepts] at hwrite
        cases hwrite
    · obtain ⟨tree', hwrite⟩ := hfaults.written page hpage hfailing
      have haccepts := ((write_child_iff h hup).mp hwrite).1
      exact ⟨haccepts.clean, fun _ => hfailing, fun _ => haccepts⟩
  · intro hpages
    refine ⟨fun page hpage hfailing => ?_, fun page hpage hfailing => ?_⟩
    · obtain ⟨hclean, haccepts⟩ := hpages page hpage
      have hrefused : ¬ Accepts tree home page.file := fun h => haccepts.mp h hfailing
      obtain ⟨e, hwrite, hnull⟩ :=
        write_child_error h (file_ne_up hpage) hrefused page.content.toUTF8.toList
      cases e with
      | nullByte => exact absurd (hnull.mp rfl) hclean
      | failed cause path => exact ⟨cause, path, hwrite⟩
    · have haccepts := (hpages page hpage).2.mpr hfailing
      exact ⟨_, write_child_of_accepts h (file_ne_up hpage) haccepts _⟩

theorem attemptOverview_ok_iff (h : Home tree directory home) :
    (∃ tree', attemptOverview tree objects kbName directory generatedAt = .ok tree')
      ↔ Accepts tree home (fileOf (ofKb kbName)) := by
  unfold attemptOverview
  constructor
  · intro ⟨tree', hwrite⟩
    exact ((write_child_iff h (fileOf_ne_up _)).mp hwrite).1
  · intro haccepts
    exact ⟨_, write_child_of_accepts h (fileOf_ne_up _) haccepts _⟩

/-- A run whose pages are done ends as the overview does. -/
theorem generate_of_writePages (h : Home tree directory home)
    (hpages : writePages directory ⟨tree, [], [openingEntry directory]⟩ (plan objects)
      = (s, none)) :
    generate tree objects kbName directory generatedAt
      = match attemptOverview s.tree objects kbName directory generatedAt with
        | .error e => ⟨s.tree, s.log, .error e⟩
        | .ok tree' =>
            ⟨tree', s.log, .ok
              { directory := directory
                procedureCount := (procedures objects).length
                undocumented := undocumented objects
                files := s.files ++ [directory.child (fileOf (ofKb kbName))] }⟩ := by
  unfold openingEntry at hpages
  rw [generate, ensureDirectory_of_home h]
  simp only [hpages]
  rfl

/-- Without names that no file can have, every run comes to its
overview. -/
theorem exists_writePages_of_clean (h : Home tree directory home)
    (hclean : ∀ page ∈ plan objects, '\x00' ∉ page.file.toList) :
    ∃ s, writePages directory ⟨tree, [], [openingEntry directory]⟩ (plan objects) = (s, none)
      ∧ SameDirectories tree s.tree
      ∧ s.log = openingEntry directory
          :: (plan objects).flatMap fun page => page.entries tree directory := by
  have hup : ∀ page ∈ plan objects, page.file ≠ ".." := fun page => file_ne_up
  obtain ⟨s, hpages, hsame, -, -⟩ :=
    writePages_of_home (s := ⟨tree, [], [openingEntry directory]⟩) h hup hclean
  exact ⟨s, hpages, hsame, log_writePages h hup hpages⟩

/-- With such a name, none does. -/
theorem result_of_null (h : Home tree directory home)
    (hnull : ¬ ∀ page ∈ plan objects, '\x00' ∉ page.file.toList) :
    (generate tree objects kbName directory generatedAt).result = .error .nullByte := by
  rw [generate, ensureDirectory_of_home h]
  dsimp only
  split
  case h_1 s e hpages => rw [nullByte_of_writePages hpages]
  case h_2 s hpages => exact absurd (clean_of_writePages hpages) hnull

/-- So the file system can fail a run at its overview alone. -/
theorem result_failed_iff (h : Home tree directory home) {cause : FileCause}
    {path : FilePath} :
    (generate tree objects kbName directory generatedAt).result = .error (.failed cause path)
      ↔ (∀ page ∈ plan objects, '\x00' ∉ page.file.toList)
        ∧ attemptOverview tree objects kbName directory generatedAt
          = .error (.failed cause path) := by
  by_cases hclean : ∀ page ∈ plan objects, '\x00' ∉ page.file.toList
  · obtain ⟨s, hpages, hsame, -⟩ := exists_writePages_of_clean h hclean
    have herror : attemptOverview tree objects kbName directory generatedAt
          = .error (.failed cause path)
        ↔ attemptOverview s.tree objects kbName directory generatedAt
          = .error (.failed cause path) :=
      hsame.write_child_error_iff h (fileOf_ne_up _)
    rw [generate_of_writePages h hpages, and_iff_right hclean, herror]
    cases attemptOverview s.tree objects kbName directory generatedAt with
    | error e => simp
    | ok tree' => simp
  · rw [result_of_null h hclean]
    simp [hclean]

/-- Some names more can be made to fail, as long as the overview's is not
among them. -/
theorem exists_faults (h : Home tree directory home)
    (hfaults : Faults tree directory (plan objects) failing)
    (hoverview : ∃ tree', attemptOverview tree objects kbName directory generatedAt = .ok tree')
    {more : List String} (hmore : fileOf (ofKb kbName) ∉ more) :
    ∃ blocked : FileTree, blocked.ensureDirectory directory = (blocked, none)
      ∧ Faults blocked directory (plan objects) (failing ++ more)
      ∧ ∃ tree', attemptOverview blocked objects kbName directory generatedAt = .ok tree' := by
  have hblocked := h.block more
  refine ⟨tree.block home more, ensureDirectory_of_home hblocked, ?_, ?_⟩
  · refine (faults_iff hblocked).mpr fun page hpage => ?_
    obtain ⟨hclean, haccepts⟩ := (faults_iff h).mp hfaults page hpage
    rw [accepts_block, haccepts, List.mem_append, not_or]
    exact ⟨hclean, Iff.rfl⟩
  · rw [attemptOverview_ok_iff h] at hoverview
    rw [attemptOverview_ok_iff hblocked, accepts_block]
    exact ⟨hoverview, hmore⟩

-- ---------------------------------------------------- what is in the files

private theorem lookup_map_of_mem {α : Type} {name : α → String} {content : α → List UInt8}
    (hname : ∀ a b, name a = name b → a = b) {xs : List α} {a : α} (ha : a ∈ xs) :
    (xs.map fun x => (name x, content x)).lookup (name a) = some (content a) := by
  induction xs with
  | nil => cases ha
  | cons x xs ih =>
      rw [List.map_cons, List.lookup_cons]
      by_cases hx : name a = name x
      · rw [hname a x hx]
        simp
      · have hmem : a ∈ xs := by
          rcases List.mem_cons.mp ha with rfl | hmem
          · exact absurd rfl hx
          · exact hmem
        rw [beq_eq_false_iff_ne.mpr hx]
        exact ih hmem

/-- The overview is the last page that is planned. -/
theorem finalContent_overview :
    finalContent objects kbName generatedAt (fileOf (ofKb kbName))
      = some (overview objects kbName generatedAt).toUTF8.toList := by
  unfold finalContent writes
  simp

/-- Only the overview is planned after the page of a package. -/
theorem finalContent_package {package : String} (h : package ∈ packages objects)
    (hne : package ≠ ofKb kbName) :
    finalContent objects kbName generatedAt (fileOf package)
      = some (indexPage objects package).toUTF8.toList := by
  have hlast : (fileOf package == fileOf (ofKb kbName)) = false :=
    beq_eq_false_iff_ne.mpr fun heq => hne (eq_of_fileOf heq)
  have hpackage : ((packages objects).reverse.map fun package =>
        (fileOf package, (indexPage objects package).toUTF8.toList)).lookup (fileOf package)
      = some (indexPage objects package).toUTF8.toList :=
    lookup_map_of_mem (fun _ _ => eq_of_fileOf) (List.mem_reverse.mpr h)
  unfold finalContent
  rw [writes_eq, pages]
  simp only [List.map_append, List.map_map, List.map_cons, List.map_nil, List.reverse_append,
    List.reverse_cons, List.reverse_nil, List.nil_append, List.singleton_append,
    List.lookup_cons, hlast, ← List.map_reverse, Function.comp_def]
  rw [List.lookup_append, hpackage, Option.some_or]

/-- What is planned last for the name of a page, and that is something. -/
theorem exists_finalContent {page : PlannedPage} (h : page ∈ plan objects) :
    ∃ content, finalContent objects kbName generatedAt page.file = some content := by
  have hmem : page.entry ∈ writes objects kbName generatedAt :=
    List.mem_append_left _ (List.mem_map_of_mem h)
  exact exists_last hmem

/-- A file that is accepted has what is planned last for it. -/
theorem read_of_ready (h : Ready tree objects kbName directory home) {file : String}
    {content : List UInt8} (hfile : Accepts tree home file)
    (hlast : finalContent objects kbName generatedAt file = some content) :
    (generate tree objects kbName directory generatedAt).tree.read (directory.child file)
      = .ok content := by
  have hup : ∀ w ∈ accepted tree home (writes objects kbName generatedAt), w.1 ≠ ".." :=
    fun w hw => writes_ne_up (List.mem_of_mem_filter hw)
  refine read_writeAll hup (generate_of_ready h generatedAt).2 ?_
  rw [lookup_accepted hfile]
  exact hlast

-- ------------------------------------------------------- what is contained

/-- A run went on in spite of its faults. It completed; its report has
the pages that did not fail, in the order of the objects, then the
packages that did not, in their order, and the overview, and is
otherwise a matter of the objects alone. Every file that did not fail has
what is planned last for it, whatever else failed: that of a package
lists all of its procedures. The log has one warning for each page that
failed. -/
structure Contained (outcome : Outcome) (tree₀ : FileTree) (objects : List KbObject)
    (kbName : String) (directory : FilePath) (generatedAt : Timestamp)
    (failing : List String) : Prop where
  completed : outcome.result = .ok
    { directory := directory
      procedureCount := (procedures objects).length
      undocumented := undocumented objects
      files := (((procedures objects).map fun o => fileOf (ofObject o)).filter (· ∉ failing)
          ++ ((packages objects).map fileOf).filter (· ∉ failing)
          ++ [fileOf (ofKb kbName)]).map directory.child }
  written : ∀ page ∈ plan objects, page.file ∉ failing → ∃ content,
    finalContent objects kbName generatedAt page.file = some content
      ∧ outcome.tree.read (directory.child page.file) = .ok content
  indexes : ∀ package ∈ packages objects, fileOf package ∉ failing → package ≠ ofKb kbName →
    outcome.tree.read (directory.child (fileOf package))
      = .ok (indexPage objects package).toUTF8.toList
  overview : outcome.tree.read (directory.child (fileOf (ofKb kbName)))
    = .ok (overview objects kbName generatedAt).toUTF8.toList
  warned : ∃ reason : PlannedPage → FileError,
    (∀ page ∈ plan objects, page.file ∈ failing →
      page.attempt tree₀ directory = .error (reason page))
    ∧ outcome.log = openingEntry directory :: (plan objects).flatMap fun page =>
        page.notice ++ if page.file ∈ failing then [page.warning (reason page)] else []

/-- Why a page cannot be written; where it can, this says nothing. -/
def PlannedPage.reason (page : PlannedPage) (tree : FileTree) (directory : FilePath) :
    FileError :=
  match page.attempt tree directory with
  | .ok _ => .nullByte
  | .error e => e

theorem attempt_eq_reason {page : PlannedPage}
    (hfaults : Faults tree directory (plan objects) failing) (h : page ∈ plan objects)
    (hfailing : page.file ∈ failing) :
    page.attempt tree directory = .error (page.reason tree directory) := by
  obtain ⟨cause, path, hwrite⟩ := hfaults.refused page h hfailing
  unfold PlannedPage.reason
  rw [hwrite]

theorem entries_of_faults {page : PlannedPage}
    (hfaults : Faults tree directory (plan objects) failing) (h : page ∈ plan objects) :
    page.entries tree directory
      = page.notice
        ++ if page.file ∈ failing then [page.warning (page.reason tree directory)]
          else [] := by
  unfold PlannedPage.entries
  by_cases hfailing : page.file ∈ failing
  · rw [attempt_eq_reason hfaults h hfailing, if_pos hfailing]
  · obtain ⟨tree', hwrite⟩ := hfaults.written page h hfailing
    rw [hwrite, if_neg hfailing]

/-- The files that are reported are those of the plan that did not fail,
and the overview's. -/
theorem files_of_faults (h : Home tree directory home)
    (hfaults : Faults tree directory (plan objects) failing)
    (hoverview : Accepts tree home (fileOf (ofKb kbName))) :
    (accepted tree home (writes objects kbName generatedAt)).map (fun w => directory.child w.1)
      = (((procedures objects).map fun o => fileOf (ofObject o)).filter (· ∉ failing)
          ++ ((packages objects).map fileOf).filter (· ∉ failing)
          ++ [fileOf (ofKb kbName)]).map directory.child := by
  have hplan : (plan objects).map PlannedPage.file
      = ((procedures objects).map fun o => fileOf (ofObject o))
        ++ (packages objects).map fileOf := by
    rw [plan, List.map_append, List.map_map, List.map_map]
    rfl
  have hfilter : (plan objects).filter (fun page => Accepts tree home page.file)
      = (plan objects).filter fun page => page.file ∉ failing :=
    List.filter_congr fun page hpage =>
      decide_eq_decide.mpr ((faults_iff h).mp hfaults page hpage).2
  have hpages : (accepted tree home ((plan objects).map PlannedPage.entry)).map Prod.fst
      = ((plan objects).map PlannedPage.file).filter (· ∉ failing) := by
    calc (accepted tree home ((plan objects).map PlannedPage.entry)).map Prod.fst
        = ((plan objects).filter fun page => Accepts tree home page.file).map
            PlannedPage.file := by
          rw [accepted, List.filter_map, List.map_map]
          rfl
      _ = ((plan objects).map PlannedPage.file).filter (· ∉ failing) := by
          rw [hfilter, List.filter_map]
          rfl
  have hlast : accepted tree home
        [(fileOf (ofKb kbName), (overview objects kbName generatedAt).toUTF8.toList)]
      = [(fileOf (ofKb kbName), (overview objects kbName generatedAt).toUTF8.toList)] :=
    List.filter_cons_of_pos (decide_eq_true hoverview)
  rw [← List.filter_append, ← hplan, ← hpages, writes, accepted, List.filter_append,
    ← accepted, ← accepted, hlast]
  simp

theorem contained_of_faults (h : Home tree directory home)
    (hfaults : Faults tree directory (plan objects) failing)
    (hoverview : Accepts tree home (fileOf (ofKb kbName))) :
    Contained (generate tree objects kbName directory generatedAt) tree objects kbName
      directory generatedAt failing := by
  have hpages := (faults_iff h).mp hfaults
  have hready : Ready tree objects kbName directory home :=
    ⟨h, fun page hpage => (hpages page hpage).1, hoverview⟩
  obtain ⟨hreport, -⟩ := generate_of_ready hready generatedAt
  constructor
  case completed =>
    rw [hreport, report, files_of_faults h hfaults hoverview]
  case written =>
    intro page hpage hfailing
    obtain ⟨content, hlast⟩ := exists_finalContent hpage
    exact ⟨content, hlast, read_of_ready hready ((hpages page hpage).2.mpr hfailing) hlast⟩
  case indexes =>
    intro package hpackage hfailing hne
    have hpage : planPackage objects package ∈ plan objects :=
      List.mem_append_right _ (List.mem_map_of_mem hpackage)
    exact read_of_ready hready ((hpages _ hpage).2.mpr hfailing)
      (finalContent_package hpackage hne)
  case overview => exact read_of_ready hready hoverview finalContent_overview
  case warned =>
    refine ⟨fun page => page.reason tree directory,
      fun page hpage => attempt_eq_reason hfaults hpage, ?_⟩
    obtain ⟨s, hwrites, -, hlog⟩ :=
      exists_writePages_of_clean h fun page hpage => (hpages page hpage).1
    have hend : (generate tree objects kbName directory generatedAt).log = s.log := by
      rw [generate_of_writePages h hwrites]
      split
      · rfl
      · rfl
    rw [hend, hlog, List.flatMap_congr fun page hpage => entries_of_faults hfaults hpage]

/-- The file system fails a run exactly if the directory cannot be made,
or if the run comes to its overview and that cannot be written, and with
the error of that step. Let both succeed, and let pages of some names
fail and all others not. Then the failures are contained. This is so for
any set of names: from a tree in which some fail there is another in
which any others fail as well. -/
theorem failures_contained :
    (∀ cause path,
      (generate tree objects kbName directory generatedAt).result = .error (.failed cause path)
      ↔ (tree.ensureDirectory directory).2 = some (.failed cause path)
        ∨ ∃ tree₀, tree.ensureDirectory directory = (tree₀, none)
          ∧ (∀ page ∈ plan objects, '\x00' ∉ page.file.toList)
          ∧ attemptOverview tree₀ objects kbName directory generatedAt
            = .error (.failed cause path))
    ∧ ∀ tree₀ tree', tree.ensureDirectory directory = (tree₀, none) →
        attemptOverview tree₀ objects kbName directory generatedAt = .ok tree' →
        Faults tree₀ directory (plan objects) failing →
        Contained (generate tree objects kbName directory generatedAt) tree₀ objects kbName
            directory generatedAt failing
          ∧ ∀ more, fileOf (ofKb kbName) ∉ more → ∃ blocked : FileTree,
              blocked.ensureDirectory directory = (blocked, none)
              ∧ Faults blocked directory (plan objects) (failing ++ more)
              ∧ ∃ tree', attemptOverview blocked objects kbName directory generatedAt
                  = .ok tree' := by
  constructor
  · intro cause path
    cases hensure : tree.ensureDirectory directory with
    | mk tree₀ failure =>
        cases failure with
        | some e =>
            rw [generate, hensure]
            simp
        | none =>
            obtain ⟨home, hhome⟩ := exists_home_of_ensureDirectory hensure
            rw [generate_of_ensureDirectory hensure, result_failed_iff hhome]
            simp
  · intro tree₀ tree' hensure hoverview hfaults
    obtain ⟨home, hhome⟩ := exists_home_of_ensureDirectory hensure
    have haccepts := (attemptOverview_ok_iff hhome).mp ⟨tree', hoverview⟩
    rw [generate_of_ensureDirectory hensure]
    exact ⟨contained_of_faults hhome hfaults haccepts,
      fun more => exists_faults hhome hfaults ⟨tree', hoverview⟩⟩

end Run

-- ============================================================= a case

/-- A directory `docs` in which directories have the names of the page of
one procedure and of the page of its package. -/
def hindered : FileTree :=
  { entries := [(["docs"], .directory), (["docs", "a-b.md"], .directory),
      (["docs", "core.md"], .directory)] }

/-- The page of the other procedure is written, and the overview. -/
theorem failures_contained_hindered :
    Faults hindered ⟨"", ["docs"]⟩ (plan libraryObjects) ["a-b.md", "core.md"]
      ∧ Contained (generate hindered libraryObjects "KB" ⟨"", ["docs"]⟩
          ⟨2024, 1, 31, 12, 0, 0⟩) hindered libraryObjects "KB" ⟨"", ["docs"]⟩
          ⟨2024, 1, 31, 12, 0, 0⟩ ["a-b.md", "core.md"] := by
  have hhome : Home hindered ⟨"", ["docs"]⟩ ["docs"] := ⟨rfl, rfl, rfl⟩
  have hfaults : Faults hindered ⟨"", ["docs"]⟩ (plan libraryObjects) ["a-b.md", "core.md"] :=
    (faults_iff hhome).mpr (by decide +kernel)
  have hensure := ensureDirectory_of_home hhome
  obtain ⟨tree', hoverview⟩ : ∃ tree', attemptOverview hindered libraryObjects "KB"
      ⟨"", ["docs"]⟩ ⟨2024, 1, 31, 12, 0, 0⟩ = .ok tree' :=
    (attemptOverview_ok_iff hhome).mpr (by decide +kernel)
  exact ⟨hfaults, (failures_contained.2 _ _ hensure hoverview hfaults).1⟩

end KbDocs.Site
