/-
A run stays in its directory.

Whatever the objects and the knowledge base are called, and however the
run ends, it writes files directly inside its directory only, with names
that lead nowhere else; and it makes no directories but its own and those
that are missing above it. `confined_generate` says so of every location
of the file tree.

The run is a series of confined changes: the directories first, then one
page after another, then the overview. A page that cannot be written
changes nothing, and a run that breaks off has only made fewer changes.
-/
import KbDocs.Proofs.Files.Confined
import KbDocs.Proofs.Page.Apart
import KbDocs.Proofs.Site.Plan
import KbDocs.Proofs.Site.Run

namespace KbDocs.Site

open KbDocs.Files KbDocs.Files.FileTree KbDocs.Page

/-- A file that a page can have: a name and the ending of pages. -/
def PageFile (file : String) : Prop :=
  ∃ name, PageName name ∧ file = name ++ ".md"

section Run

variable {directory : FilePath}

theorem confined_writeFile {t t' : FileTree} {name : String} {content : List UInt8}
    (hname : PageName name)
    (h : t.write (directory.child (fileOf name)) content = .ok t') :
    Confined PageFile directory t t' :=
  confined_write ⟨name, hname, rfl⟩ (fileOf_ne_up name) h

/-- A step that plans a page with a name makes a confined change. -/
theorem confined_writePage {page : PlannedPage}
    (hpage : ∃ name, PageName name ∧ page.file = fileOf name) (s : Progress) :
    Confined PageFile directory s.tree (writePage directory s page).1.tree := by
  obtain ⟨name, hname, hfile⟩ := hpage
  rcases writePage_cases directory s page with ⟨hwrite, -, -⟩ | ⟨htree, -⟩
  · rw [hfile] at hwrite
    exact confined_writeFile hname hwrite
  · rw [htree]
    exact .refl s.tree

/-- So do all steps up to the one that ends the run. -/
theorem confined_writePages {pages : List PlannedPage}
    (hpages : ∀ page ∈ pages, ∃ name, PageName name ∧ page.file = fileOf name)
    {s s' : Progress} {e : Option FileError}
    (h : writePages directory s pages = (s', e)) :
    Confined PageFile directory s.tree s'.tree := by
  induction pages generalizing s with
  | nil =>
      cases h
      exact .refl _
  | cons page rest ih =>
      have hstep : Confined PageFile directory s.tree (writePage directory s page).1.tree :=
        confined_writePage (hpages page List.mem_cons_self) s
      rw [writePages] at h
      split at h
      case h_1 s₁ heq =>
        rw [heq] at hstep
        exact hstep.trans (ih (fun p hp => hpages p (List.mem_cons_of_mem page hp)) h)
      case h_2 s₁ e₁ heq =>
        cases h
        rw [heq] at hstep
        exact hstep

end Run

/-- Whether it completes or fails, a run leaves every location of the
tree as it was, but for files of pages directly inside its directory, and
for its directory and those above it, which it makes where they are
missing. -/
theorem confined_generate (tree : FileTree) (objects : List KbObject) (kbName : String)
    (directory : FilePath) (generatedAt : Timestamp) :
    Confined PageFile directory tree
      (generate tree objects kbName directory generatedAt).tree := by
  have hdirectory : Confined PageFile directory tree _ := confined_ensureDirectory tree
  have hplan : ∀ page ∈ plan objects, ∃ name, PageName name ∧ page.file = fileOf name :=
    fun page hpage => pageName_of_mem_plan hpage
  unfold generate
  dsimp only
  split
  case h_1 t e hensure =>
    rw [hensure] at hdirectory
    exact hdirectory
  case h_2 t hensure =>
    rw [hensure] at hdirectory
    split
    case h_1 s e hpages =>
      exact hdirectory.trans (confined_writePages hplan hpages)
    case h_2 s hpages =>
      have hsteps := hdirectory.trans (confined_writePages hplan hpages)
      split
      case h_1 => exact hsteps
      case h_2 t' hwrite =>
        exact hsteps.trans (confined_writeFile (pageName_ofKb kbName) hwrite)

end KbDocs.Site
