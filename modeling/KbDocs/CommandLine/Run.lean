/-
Running a command line on a file tree. A run prints on the screen,
complains, logs and changes files; it ends by itself, with an exit code,
or with an error that nothing handles. Whatever it did until then
stands.
-/
import KbDocs.CommandLine.Request
import KbDocs.CommandLine.View
import KbDocs.Console.Table
import KbDocs.Extraction
import KbDocs.Site

namespace KbDocs.CommandLine

open Console Files

/-- An error that no command handles. -/
inductive Escape where
  | file (error : FileError)
  | markup (error : MarkupError)
deriving DecidableEq

/-- Why a run ends early. -/
inductive Stop where
  | exit (code : Nat)
  | escaped (error : Escape)

/-- What a run has done so far. -/
structure Session where
  tree : FileTree
  screen : String := ""
  complaints : List String := []
  log : Log := []

/-- A step of a run. -/
abbrev Run :=
  ExceptT Stop (StateM Session)

/-- What a run makes use of: a loader for its settings, unpackers for
members of archives, and a renderer for its screen. -/
structure Tools where
  loader : Yaml.Loader := .basic
  unpackers : Archive.Unpackers := .none
  screen : Renderer := .basic

namespace Run

-- =============================================================== steps

/-- Puts text on the screen. -/
def put (s : String) : Run Unit :=
  modify fun x => { x with screen := x.screen ++ s }

/-- Prints what was made of marked up text. -/
def print (text : Except MarkupError String) : Run Unit :=
  match text with
  | .ok s => put s
  | .error e => throw (.escaped (.markup e))

/-- Prints a line of marked up text. -/
def say (screen : Renderer) (s : String) : Run Unit :=
  print (screen.printed s)

/-- Adds to the log. -/
def note (log : Log) : Run Unit :=
  modify fun x => { x with log := x.log ++ log }

/-- Complains and ends the run with an exit code. -/
def fail {α : Type} (code : Nat) (message : String) : Run α := do
  modify fun x => { x with complaints := x.complaints ++ ["Error: " ++ message] }
  throw (.exit code)

/-- The settings of the run. -/
def settings (loader : Yaml.Loader) (path : Option String) : Run Config := do
  match Config.load (← get).tree (FilePath.ofString (path.getD Config.fileName)) loader with
  | .ok c => return c
  | .error e => throw (.escaped (.file e))

/-- The exit code of a failed extraction: one for a package that is
missing or damaged, two for everything else. -/
def extractExitCode : ExtractError → Nat
  | .missing _ => 1
  | .file (.failed .missing _) => 1
  | .file _ => 2
  | .archive fault => if fault.isDamage then 1 else 2

/-- Extracts an export package, after a check that it is one. -/
def extraction (unpackers : Archive.Unpackers) (input : FilePath) (config : Config) :
    Run Extraction := do
  let tree := (← get).tree
  match checkInput tree input with
  | .ok () => pure ()
  | .error (.file e) => throw (.escaped (.file e))
  | .error e => fail 1 ("Invalid input: " ++ e.message)
  let outcome := extract tree input config unpackers
  note outcome.log
  match outcome.result with
  | .ok x => return x
  | .error e => fail (extractExitCode e) e.message

-- ============================================================ commands

section Commands

variable (tools : Tools)

/-- Writes the documentation of an export package. -/
def generate (now : Page.Timestamp) (input : String) (output config : Option String) :
    Run Unit := do
  let config ← settings tools.loader config
  say tools.screen "[bold]Step 1/2:[/bold] Extracting XPZ file..."
  let x ← extraction tools.unpackers (FilePath.ofString input) config
  say tools.screen ("Extracted " ++ x.objects.length.repr ++ " GeneXus objects")
  x.warnings.forM fun w => say tools.screen ("[yellow]Warning:[/yellow] " ++ w)
  let directory := FilePath.ofString (output.getD config.outputDirectory)
  say tools.screen "[bold]Step 2/2:[/bold] Generating documentation..."
  let outcome := Site.generate (← get).tree x.objects x.kbName directory now
  note outcome.log
  modify fun s => { s with tree := outcome.tree }
  match outcome.result with
  | .error .nullByte => throw (.escaped (.file .nullByte))
  | .error e => fail 1 ("Failed to generate documentation: " ++ e.message)
  | .ok summary =>
      if summary.procedureCount != 0 then
        say tools.screen ("Generated " ++ summary.procedureCount.repr
          ++ " Procedure documentation file(s)")
      if !summary.undocumented.isEmpty then
        say tools.screen ("[yellow]" ++ summary.undocumented.length.repr
          ++ " procedure(s) are missing /** */ documentation comments[/yellow]")
      say tools.screen "[green]✓ Documentation generation complete![/green]"
      say tools.screen ("Output location: " ++ directory.toString)

/-- Lists the objects of an export package. -/
def list (input : String) (asJson : Bool) (config : Option String) : Run Unit := do
  let x ← extraction tools.unpackers (FilePath.ofString input) (← settings tools.loader config)
  if asJson then put ((objectsJson x.kbName x.objects).pretty 0 ++ "\n")
  else print (tools.screen.printedTable (objectsTable x.kbName x.objects))

/-- Shows the signature and the parameters of one object. -/
def describe (o : KbObject) : Run Unit := do
  match o.signature with
  | none => say tools.screen (o.path ++ " (" ++ o.kind ++ ") has no signature")
  | some s =>
      say tools.screen ("[bold]" ++ s.callText ++ "[/bold]  [dim](" ++ s.origin.label ++ ")[/dim]")
      match o.documentation with
      | none => pure ()
      | some d =>
          if !d.parameters.isEmpty then
            print (tools.screen.printedTable (parametersTable d.parameters))

/-- Shows one object of an export package. -/
def signature (input name : String) (asJson : Bool) (config : Option String) :
    Run Unit := do
  let path := FilePath.ofString input
  let x ← extraction tools.unpackers path (← settings tools.loader config)
  match findObject? x.objects name with
  | none => fail 1 ("Object '" ++ name ++ "' not found in " ++ path.toString)
  | some o =>
      if asJson then put ((Json.object (o.jsonFields false)).pretty 0 ++ "\n")
      else describe tools o

/-- Runs a command. -/
def command (now : Page.Timestamp) : Command → Run Unit
  | .generate input output config => generate tools now input output config
  | .extract input asJson config => list tools input asJson config
  | .signature input name asJson config => signature tools input name asJson config

end Commands

end Run

-- ============================================================= outcome

/-- The outcome of a command line: its exit code, the error that ended it
if nothing handled it, and what it did. -/
structure Outcome where
  exitCode : Nat
  escaped : Option Escape := none
  screen : String := ""
  complaints : List String := []
  log : Log := []
  tree : FileTree

/-- The outcome of a run of some steps. -/
def Outcome.ofRun (verbose : Bool) (tree : FileTree) (steps : Run Unit) : Outcome :=
  let (result, s) := steps.run { tree }
  let (code, escaped) := match result with
    | .ok () => (0, none)
    | .error (.exit code) => (code, none)
    | .error (.escaped e) => (1, some e)
  { exitCode := code
    escaped
    screen := s.screen
    complaints := s.complaints
    log := s.log.shown verbose
    tree := s.tree }

/-- Runs a command line on a file tree at a time. -/
def run (args : List String) (tree : FileTree) (now : Page.Timestamp)
    (tools : Tools := {}) : Outcome :=
  match Request.ofArguments args with
  | .version =>
      .ofRun false tree (Run.say tools.screen ("gxdocgen version " ++ Page.version))
  | .help => { exitCode := 0, tree }
  | .misuse => { exitCode := 2, tree }
  | .nothing => { exitCode := 0, tree }
  | .run verbose command => .ofRun verbose tree (Run.command tools now command)

/-- The complaints of an outcome, line by line, as far as a line starts
as a complaint does. -/
def Outcome.complaintLines (o : Outcome) : List String :=
  (o.complaints.flatMap fun c => Text.lines c.toList).filterMap fun line =>
    if "Error: ".toList.isPrefixOf line then some (String.ofList line) else none

end KbDocs.CommandLine
