/-
What a command line asks for. Options may stand before and after the
other arguments of a command, several short ones behind one dash, and
the value of an option attached to it or behind it; two dashes end the
options. Options of the program itself stand before the command.
-/
import KbDocs.Text.Cut

namespace KbDocs.CommandLine

-- ============================================================= options

/-- An option that a command takes. -/
structure OptionSpec where
  /-- The name, without dashes. -/
  name : String
  short : Option Char := none
  takesValue : Bool := false

/-- The options and the other arguments of a command. -/
structure Arguments where
  flags : List String := []
  /-- Options with a value, the latest first. -/
  values : List (String × String) := []
  others : List String := []

/-- Arguments with one more flag. -/
def Arguments.setFlag (a : Arguments) (spec : OptionSpec) : Arguments :=
  { a with flags := spec.name :: a.flags }

/-- Arguments with one more value of an option. -/
def Arguments.setValue (a : Arguments) (spec : OptionSpec) (value : String) : Arguments :=
  { a with values := (spec.name, value) :: a.values }

/-- Reads letters behind one dash: flags, up to an option whose value is
the rest of the letters or the next argument. Gives the arguments that
are left. -/
def readShort (specs : List OptionSpec) (a : Arguments) (rest : List String) :
    List Char → Option (Arguments × List String)
  | [] => some (a, rest)
  | c :: letters =>
      match specs.find? (·.short == some c) with
      | none => none
      | some spec =>
          if spec.takesValue then
            match letters, rest with
            | [], [] => none
            | [], value :: rest => some (a.setValue spec value, rest)
            | _, _ => some (a.setValue spec (String.ofList letters), rest)
          else readShort specs (a.setFlag spec) rest letters

/-- Reads an option by its name, with the value attached to it if there
is one. -/
def readLong (a : Arguments) (rest : List String) (spec : OptionSpec)
    (attached : Option String) : Option (Arguments × List String) :=
  if spec.takesValue then
    match attached, rest with
    | some value, _ => some (a.setValue spec value, rest)
    | none, value :: rest => some (a.setValue spec value, rest)
    | none, [] => none
  else if attached.isSome then none
  else some (a.setFlag spec, rest)

/-- Reads arguments up to the end, or up to the first that is no option
unless options may also stand behind others. -/
def readArguments (specs : List OptionSpec) (mixed : Bool) :
    Nat → Arguments → List String → Option Arguments
  | 0, _, _ => none
  | _ + 1, a, [] => some a
  | bound + 1, a, arg :: rest =>
      match arg.toList with
      | ['-', '-'] => some { a with others := a.others ++ rest }
      | '-' :: c :: letters =>
          let (name, attached) := Text.cutAt '=' (c :: letters)
          let long := match name with
            | '-' :: n => specs.find? (·.name == String.ofList n)
            | _ => none
          let step := match long with
            | some spec => readLong a rest spec (attached.map String.ofList)
            | none => if c == '-' then none else readShort specs a rest (c :: letters)
          step.bind fun (a, rest) => readArguments specs mixed bound a rest
      | _ =>
          if mixed then
            readArguments specs mixed bound { a with others := a.others ++ [arg] } rest
          else some { a with others := a.others ++ arg :: rest }

-- ============================================================ commands

/-- A command with its arguments. -/
inductive Command where
  | generate (input : String) (output config : Option String)
  | extract (input : String) (asJson : Bool) (config : Option String)
  | signature (input name : String) (asJson : Bool) (config : Option String)
deriving DecidableEq

/-- What a command line asks for. -/
inductive Request where
  | version
  | help
  /-- The command line makes no sense. -/
  | misuse
  /-- Nothing is asked for but settings. -/
  | nothing
  | run (verbose : Bool) (command : Command)
deriving DecidableEq

def helpOption : OptionSpec :=
  { name := "help" }

def versionOption : OptionSpec :=
  { name := "version", short := some 'v' }

def verboseOption : OptionSpec :=
  { name := "verbose" }

def outputOption : OptionSpec :=
  { name := "output", short := some 'o', takesValue := true }

def configOption : OptionSpec :=
  { name := "config", short := some 'c', takesValue := true }

def jsonOption : OptionSpec :=
  { name := "json", short := some 'j' }

/-- The options of the program itself. -/
def programOptions : List OptionSpec :=
  [helpOption, versionOption, verboseOption]

/-- Whether a flag was given. -/
def Arguments.has (a : Arguments) (spec : OptionSpec) : Bool :=
  a.flags.contains spec.name

/-- The last value of an option. -/
def Arguments.value? (a : Arguments) (spec : OptionSpec) : Option String :=
  a.values.lookup spec.name

/-- The options of a command, by its name. -/
def commandOptions? : String → Option (List OptionSpec)
  | "generate" => some [helpOption, outputOption, configOption]
  | "extract" => some [helpOption, jsonOption, configOption]
  | "signature" => some [helpOption, jsonOption, configOption]
  | _ => none

/-- The command of a name with its arguments, if they are as many as it
takes. -/
def command? (name : String) (a : Arguments) : Option Command :=
  match name, a.others with
  | "generate", [input] =>
      some (.generate input (a.value? outputOption) (a.value? configOption))
  | "extract", [input] =>
      some (.extract input (a.has jsonOption) (a.value? configOption))
  | "signature", [input, object] =>
      some (.signature input object (a.has jsonOption) (a.value? configOption))
  | _, _ => none

/-- What a command asks for, by its name and the arguments behind it. -/
def Request.ofCommand (verbose : Bool) (name : String) (args : List String) : Request :=
  match commandOptions? name with
  | none => .misuse
  | some specs =>
      match readArguments specs true (args.length + 1) {} args with
      | none => .misuse
      | some a =>
          if a.has helpOption then .help
          else
            match command? name a with
            | some c => .run verbose c
            | none => .misuse

/-- What a command line asks for. The version is shown whatever follows
the options of the program. -/
def Request.ofArguments (args : List String) : Request :=
  if args.isEmpty then .misuse
  else
    match readArguments programOptions false (args.length + 1) {} args with
    | none => .misuse
    | some a =>
        if a.has versionOption then .version
        else if a.has helpOption then .help
        else
          match a.others with
          | [] => .nothing
          | name :: rest => .ofCommand (a.has verboseOption) name rest

end KbDocs.CommandLine
