/-
What commands put on the screen.

After the extraction, a command does nothing but print. `Prints` says of
some steps that they put a text on the screen, if it can be printed, and
that the run ends there otherwise; steps that print one after another
print the texts one after another (`Prints.seq`). `ended_iff` takes this
to the outcome of a whole run: the run ends well, with a text on the
screen, exactly if its steps print that text.
-/
import KbDocs.CommandLine.Run

namespace KbDocs.CommandLine

open Console Files

-- =============================================================== steps

section Steps

variable {α β : Type} {x : Run α} {s s' : Session}

theorem run_bind_ok {a : α} (h : x.run s = (.ok a, s')) (f : α → Run β) :
    (x >>= f).run s = (f a).run s' := by
  have hbind : (x >>= f).run s
      = (match x.run s with | (result, s') => ExceptT.bindCont f result s') := rfl
  rw [hbind, h]
  rfl

theorem run_bind_error {e : Stop} (h : (x.run s).1 = .error e) (f : α → Run β) :
    ((x >>= f).run s).1 = .error e := by
  have hbind : (x >>= f).run s
      = (match x.run s with | (result, s') => ExceptT.bindCont f result s') := rfl
  rw [hbind]
  rcases hx : x.run s with ⟨result, s'⟩
  rw [hx] at h
  cases h
  rfl

end Steps

-- ========================================================== extraction

theorem run_get (s : Session) : (get : Run Session).run s = (.ok s, s) := rfl

theorem run_note (log : Log) (s : Session) :
    (Run.note log).run s = (.ok (), { s with log := s.log ++ log }) := rfl

/-- This is what a command line has to go on: there are settings and a
package, and this is what is extracted from it. -/
def Extracts (tree : FileTree) (input : String) (config : Option String)
    (x : Extraction) (tools : Tools := {}) : Prop :=
  ∃ c, Config.load tree (FilePath.ofString (config.getD Config.fileName)) tools.loader = .ok c
    ∧ checkInput tree (FilePath.ofString input) = .ok ()
    ∧ (extract tree (FilePath.ofString input) c tools.unpackers).result = .ok x

/-- Commands go on with what was extracted, with nothing on the screen
yet. -/
theorem Extracts.run {tree : FileTree} {input : String} {config : Option String}
    {x : Extraction} {tools : Tools} (h : Extracts tree input config x tools) :
    ∃ s, s.screen = "" ∧ ∀ f : Extraction → Run Unit,
      (do f (← Run.extraction tools.unpackers (FilePath.ofString input)
        (← Run.settings tools.loader config))).run { tree } = (f x).run s := by
  obtain ⟨c, hconfig, hcheck, hresult⟩ := h
  have hsettings : (Run.settings tools.loader config).run { tree } = (.ok c, { tree }) := by
    unfold Run.settings
    rw [run_bind_ok (run_get _)]
    simp only [hconfig]
    rfl
  have hextraction : (Run.extraction tools.unpackers (FilePath.ofString input) c).run { tree }
      = (.ok x, { tree, log := [] ++ (extract tree (FilePath.ofString input) c
          tools.unpackers).log }) := by
    unfold Run.extraction
    rw [run_bind_ok (run_get _)]
    simp only [hcheck]
    rw [run_bind_ok (run_note _ _)]
    simp only [hresult]
    rfl
  refine ⟨{ tree, log := [] ++ (extract tree (FilePath.ofString input) c
    tools.unpackers).log }, rfl, fun f => ?_⟩
  rw [run_bind_ok hsettings, run_bind_ok hextraction]

-- ============================================================ printing

/-- Steps that print a text and do nothing else. -/
structure Prints (steps : Run Unit) (text : Except MarkupError String) : Prop where
  printed : ∀ s t, text = .ok t → steps.run s = (.ok (), { s with screen := s.screen ++ t })
  refused : ∀ s e, text = .error e → (steps.run s).1 = .error (.escaped (.markup e))

theorem prints_print (text : Except MarkupError String) : Prints (Run.print text) text where
  printed s t h := by
    subst h
    rfl
  refused s e h := by
    subst h
    rfl

theorem prints_nothing : Prints (pure ()) (.ok "") where
  printed s t h := by
    cases h
    rw [String.append_empty]
    rfl
  refused s e h := by cases h

/-- Two texts one after another, if both can be printed. -/
def both (text more : Except MarkupError String) : Except MarkupError String :=
  text.bind fun t => more.map fun u => t ++ u

/-- Steps that print one after another print one text after another. -/
theorem Prints.seq {steps next : Run Unit} {text more : Except MarkupError String}
    (h : Prints steps text) (hnext : Prints next more) :
    Prints (steps >>= fun _ => next) (both text more) := by
  cases text with
  | error e =>
      refine ⟨fun s t heq => (by cases heq), fun s e' heq => ?_⟩
      cases heq
      exact run_bind_error (h.refused s e rfl) _
  | ok t =>
      have hstep := fun s => run_bind_ok (h.printed s t rfl) fun _ => next
      refine ⟨fun s t' heq => ?_, fun s e heq => ?_⟩
      · rw [hstep]
        cases more with
        | error e => cases heq
        | ok u =>
            cases heq
            rw [hnext.printed _ u rfl, String.append_assoc]
      · rw [hstep]
        cases more with
        | ok u => cases heq
        | error e' =>
            cases heq
            exact hnext.refused _ e rfl

/-- Lines that are printed one after another are all on the screen in the
end, unless one of them cannot be printed. -/
theorem forM_say_ok_iff {texts : List String} (screen : Renderer) (line : String → String)
    (s : Session) :
    ((texts.forM fun w => Run.say screen (line w)).run s).1 = .ok ()
      ↔ ∀ w ∈ texts, ∃ t, screen.printed (line w) = .ok t := by
  induction texts generalizing s with
  | nil => exact ⟨fun _ w hw => absurd hw List.not_mem_nil, fun _ => rfl⟩
  | cons w rest ih =>
      have hcons : ((w :: rest).forM fun w => Run.say screen (line w))
          = Run.say screen (line w) >>= fun _ =>
              rest.forM fun w => Run.say screen (line w) := rfl
      have hsay : Prints (Run.say screen (line w)) (screen.printed (line w)) :=
        prints_print _
      rw [hcons, List.forall_mem_cons]
      cases hline : screen.printed (line w) with
      | error e =>
          rw [run_bind_error (hsay.refused s e hline)]
          simp
      | ok t =>
          rw [run_bind_ok (hsay.printed s t hline), ih]
          simp

-- ============================================================ outcomes

/-- A run ends well, with a text on the screen. -/
structure Ended (o : Outcome) (screen : String) : Prop where
  exitCode : o.exitCode = 0
  escaped : o.escaped = none
  screen : o.screen = screen

section Outcome

variable {steps rest : Run Unit} {tree : FileTree} {s : Session}
  {text : Except MarkupError String}

/-- A run that comes to print a text that cannot be printed ends in the
error. -/
theorem escaped_of_prints (hsteps : steps.run { tree } = rest.run s) (h : Prints rest text)
    (verbose : Bool) {e : MarkupError} (htext : text = .error e) :
    (Outcome.ofRun verbose tree steps).escaped = some (.markup e) := by
  have hrun := h.refused s e htext
  rw [Outcome.ofRun, hsteps]
  rcases hend : rest.run s with ⟨result, s'⟩
  rw [hend] at hrun
  cases hrun
  rfl

/-- A run that comes to print a text ends well, with some text on the
screen, exactly if that is the text. -/
theorem ended_iff (hsteps : steps.run { tree } = rest.run s) (hscreen : s.screen = "")
    (h : Prints rest text) (verbose : Bool) (t : String) :
    Ended (Outcome.ofRun verbose tree steps) t ↔ text = .ok t := by
  cases htext : text with
  | ok u =>
      have hrun := h.printed s u htext
      constructor
      · rintro ⟨-, -, hshown⟩
        rw [Outcome.ofRun, hsteps, hrun, hscreen, String.empty_append] at hshown
        rw [← hshown]
      · intro heq
        cases heq
        refine ⟨?_, ?_, ?_⟩
        all_goals rw [Outcome.ofRun, hsteps, hrun]
        rw [hscreen, String.empty_append]
  | error e =>
      constructor
      · rintro ⟨-, hescaped, -⟩
        rw [escaped_of_prints hsteps h verbose htext] at hescaped
        cases hescaped
      · intro heq
        cases heq

end Outcome

end KbDocs.CommandLine
