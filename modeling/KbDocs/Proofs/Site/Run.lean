/-
Runs that write a site, step by step.

A step writes one page or leaves the files alone (`writePage_cases`), and
each page that was written adds one path to the report. So a run reports
files of its pages in order (`files_writePages`), and one that reports as
many as it has pages has written them all, one after another into one
directory (`writeAll_of_writePages`).

`generate_ok` takes a completed run apart, and `writeAll_of_generate`
puts the two together: a run that reports every file is a series of
writes. `files_of_generate` says which files that are.
-/
import KbDocs.Proofs.Files.Tree
import KbDocs.Site

namespace KbDocs.Site

open KbDocs.Files KbDocs.Files.FileTree KbDocs.Page

-- =========================================================== the steps

/-- The name and the content of the file of a page. -/
def PlannedPage.entry (page : PlannedPage) : String × List UInt8 :=
  (page.file, page.content.toUTF8.toList)

/-- A step writes its page and goes on, or leaves the files alone. -/
theorem writePage_cases (directory : FilePath) (s : Progress) (page : PlannedPage) :
    (s.tree.write (directory.child page.file) page.content.toUTF8.toList
        = .ok (writePage directory s page).1.tree
      ∧ (writePage directory s page).1.files = s.files ++ [directory.child page.file]
      ∧ (writePage directory s page).2 = none)
    ∨ ((writePage directory s page).1.tree = s.tree
      ∧ (writePage directory s page).1.files = s.files) := by
  unfold writePage
  dsimp only
  split
  case h_1 tree hwrite => exact .inl ⟨hwrite, rfl, rfl⟩
  case h_2 => exact .inr ⟨rfl, rfl⟩
  case h_3 => exact .inr ⟨rfl, rfl⟩

/-- A run reports files of its pages, in order and each at most once. -/
theorem files_writePages (directory : FilePath) (s : Progress)
    (pages : List PlannedPage) :
    ∃ files, List.Sublist files (pages.map fun page => directory.child page.file)
      ∧ (writePages directory s pages).1.files = s.files ++ files := by
  induction pages generalizing s with
  | nil => exact ⟨[], .slnil, (List.append_nil _).symm⟩
  | cons page rest ih =>
      obtain ⟨first, hfirst, hstep⟩ : ∃ first,
          List.Sublist first [directory.child page.file]
          ∧ (writePage directory s page).1.files = s.files ++ first := by
        rcases writePage_cases directory s page with ⟨-, hfiles, -⟩ | ⟨-, hfiles⟩
        · exact ⟨_, List.Sublist.refl _, hfiles⟩
        · exact ⟨[], List.nil_sublist _, hfiles.trans (List.append_nil _).symm⟩
      rw [writePages, List.map_cons]
      split
      case h_1 s' heq =>
        rw [heq] at hstep
        obtain ⟨files, hsub, hfiles⟩ := ih s'
        refine ⟨first ++ files, hfirst.append hsub, ?_⟩
        rw [hfiles, hstep, List.append_assoc]
      case h_2 s' e heq =>
        rw [heq] at hstep
        refine ⟨first, ?_, hstep⟩
        exact hfirst.trans (List.Sublist.cons_cons _ (List.nil_sublist _))

/-- A run reports no more files than it has pages. -/
theorem length_files_writePages_le (directory : FilePath) (s : Progress)
    (pages : List PlannedPage) :
    (writePages directory s pages).1.files.length ≤ s.files.length + pages.length := by
  obtain ⟨files, hsub, hfiles⟩ := files_writePages directory s pages
  have hlength := hsub.length_le
  rw [List.length_map] at hlength
  rw [hfiles, List.length_append]
  omega

/-- A run that reports as many files as it has pages has written all of
them. -/
theorem writeAll_of_writePages {directory : FilePath} {s : Progress}
    {pages : List PlannedPage}
    (h : (writePages directory s pages).1.files.length
      = s.files.length + pages.length) :
    writeAll directory s.tree (pages.map PlannedPage.entry)
      = .ok (writePages directory s pages).1.tree := by
  induction pages generalizing s with
  | nil => rfl
  | cons page rest ih =>
      rcases writePage_cases directory s page with ⟨hwrite, hfiles, hnone⟩ | ⟨-, hfiles⟩
      · have hstep : writePages directory s (page :: rest)
            = writePages directory (writePage directory s page).1 rest := by
          rw [writePages]
          split
          case h_1 s' heq => rw [heq]
          case h_2 s' e heq =>
            rw [heq] at hnone
            cases hnone
        rw [hstep, List.length_cons] at h
        rw [hstep, List.map_cons, writeAll_cons (w := page.entry) hwrite]
        refine ih ?_
        rw [hfiles, h]
        simp
        omega
      · -- a page that is not reported is never made up for
        exfalso
        rw [writePages, List.length_cons] at h
        split at h
        case h_1 s' heq =>
          have := length_files_writePages_le directory s' rest
          rw [heq] at hfiles
          dsimp only at hfiles
          rw [hfiles] at this
          omega
        case h_2 s' e heq =>
          rw [heq] at hfiles
          dsimp only at h hfiles
          rw [hfiles] at h
          omega

-- ============================================================ the run

variable {tree : FileTree} {objects : List KbObject} {kbName : String}
  {directory : FilePath} {generatedAt : Timestamp}

/-- A run that answers a question about its summary has one. -/
theorem Outcome.exists_summary {α : Type} {o : Outcome} {f : Summary → α} {a : α}
    (h : o.result.toOption.map f = some a) :
    ∃ summary, o.result = .ok summary ∧ f summary = a := by
  cases hresult : o.result with
  | ok summary =>
      rw [hresult] at h
      exact ⟨summary, rfl, Option.some.inj h⟩
  | error e =>
      rw [hresult] at h
      cases h

/-- What a completed run did, and what it reports. -/
theorem generate_ok {summary : Summary}
    (h : (generate tree objects kbName directory generatedAt).result = .ok summary) :
    ∃ s₀ s, s₀.files = [] ∧ writePages directory s₀ (plan objects) = (s, none)
      ∧ s.tree.write (directory.child (fileOf (ofKb kbName)))
          (overview objects kbName generatedAt).toUTF8.toList
        = .ok (generate tree objects kbName directory generatedAt).tree
      ∧ summary = { directory := directory
                    procedureCount := (procedures objects).length
                    undocumented := undocumented objects
                    files := s.files ++ [directory.child (fileOf (ofKb kbName))] } := by
  unfold generate at h ⊢
  dsimp only at h ⊢
  split at h
  case h_1 => cases h
  case h_2 t₁ hensure =>
    split at h
    case h_1 => cases h
    case h_2 s hpages =>
      split at h
      case h_1 => cases h
      case h_2 t₂ hwrite =>
        cases h
        refine ⟨_, s, rfl, hpages, ?_, rfl⟩
        simp only [hwrite]

/-- The files of a run, in the order they are written: those of the plan,
and then the overview. -/
def writes (objects : List KbObject) (kbName : String) (generatedAt : Timestamp) :
    List (String × List UInt8) :=
  (plan objects).map PlannedPage.entry
    ++ [(fileOf (ofKb kbName), (overview objects kbName generatedAt).toUTF8.toList)]

/-- A run that reports every file is a series of writes. -/
theorem writeAll_of_generate {summary : Summary}
    (h : (generate tree objects kbName directory generatedAt).result = .ok summary)
    (hfiles : summary.files.length = (plan objects).length + 1) :
    ∃ t, writeAll directory t (writes objects kbName generatedAt)
      = .ok (generate tree objects kbName directory generatedAt).tree := by
  obtain ⟨s₀, s, hnone, hpages, hwrite, rfl⟩ := generate_ok h
  have hlength : (writePages directory s₀ (plan objects)).1.files.length
      = s₀.files.length + (plan objects).length := by
    rw [hpages, hnone]
    simpa using hfiles
  have hall := writeAll_of_writePages hlength
  rw [hpages] at hall
  exact ⟨s₀.tree, writeAll_concat.mpr ⟨s.tree, hall, hwrite⟩⟩

/-- The report of a run that reports every file, in the order of the
writes. -/
theorem files_of_generate {summary : Summary}
    (h : (generate tree objects kbName directory generatedAt).result = .ok summary)
    (hfiles : summary.files.length = (plan objects).length + 1) :
    summary.files
      = (writes objects kbName generatedAt).map fun w => directory.child w.1 := by
  obtain ⟨s₀, s, hnone, hpages, -, rfl⟩ := generate_ok h
  obtain ⟨files, hsub, heq⟩ := files_writePages directory s₀ (plan objects)
  rw [hpages, hnone, List.nil_append] at heq
  dsimp only at heq hfiles ⊢
  have hlength : files.length
      = ((plan objects).map fun page => directory.child page.file).length := by
    rw [heq, List.length_append, List.length_singleton] at hfiles
    rw [List.length_map]
    omega
  rw [heq, hsub.eq_of_length hlength, writes, List.map_append, List.map_map]
  rfl

end KbDocs.Site
