import RefSite.CommandLine.Similarity
import RefSite.Text.Split
import RefSite.Text.Terminal

namespace RefSite.CommandLine

def programName : Text := "apimd"

structure Arguments where
  /-- The documentation export. -/
  input : Text
  destination : Option Text := none
  config : Option Text := none
  verbose : Bool := false
  deriving DecidableEq, Repr

inductive Argument
  | input
  | destination
  | config
  | verbose
  | help
  | version
  deriving DecidableEq, Repr

namespace Argument

/-- The options in the order in which hints consider them. -/
def options : List Argument := [.config, .verbose, .help, .version]

def isOption (a : Argument) : Bool := a ∈ options

def long : Argument → Text
  | .input => "input"
  | .destination => "destination"
  | .config => "config"
  | .verbose => "verbose"
  | .help => "help"
  | .version => "version"

/-- An argument as it is written where it has to be given. -/
def shown : Argument → Text
  | .input => "<INPUT>"
  | .destination => "<DESTINATION>"
  | .config => "--config <CONFIG>"
  | a => "--" ++ a.long

end Argument

def usage : Text := "Usage: " ++ programName ++ " [OPTIONS] <INPUT> [DESTINATION]"

def version : Text := programName ++ " 0.1.0"

def help : List Text :=
  [programName ++ " - Markdown API reference generator",
   [],
   usage,
   [],
   "Arguments:",
   "  <INPUT>        XML documentation export produced by the compiler",
   "  [DESTINATION]  Output folder relative to the input file (overrides config, default: docs)",
   [],
   "Options:",
   "  -c, --config <CONFIG>  Path to configuration file (default: auto-discover apimd.toml)",
   "  -v, --verbose          Enable verbose output",
   "  -h, --help             Print help",
   "  -V, --version          Print version"]

def usageOf (words : List Text) : Text := "Usage: " ++ Text.join " " (programName :: words)

/-- The usage that the given arguments call for: their options, and what has to or may stand behind
them. -/
def usageFor (given : List Argument) : Text :=
  usageOf ((given.filter Argument.isOption).map Argument.shown ++
    [Argument.shown .input,
     if .destination ∈ given then Argument.shown .destination else "[DESTINATION]".toList])

def usageWith (given : List Argument) : Text :=
  if given = [] then usage else usageFor given

/-- The arguments that a request for pages is made of, as one choice. -/
def choice : Text :=
  "<" ++ Text.join "|" ["INPUT", "DESTINATION", Argument.shown .config, Argument.shown .verbose] ++ ">"

/-- The usage behind a flag that was written with a value. What a request for pages is made of
stands as one choice as soon as any of it is given, the flag included if it belongs there. -/
def usageAtFlag (flag : Argument) (given : List Argument) : Text :=
  if given = [] then usageFor [flag]
  else if flag = .verbose then usageOf [choice]
  else usageOf [flag.shown, choice]

inductive Misuse
  | noInput (given : List Argument)
  | noValue (argument : Argument)
  | twice (argument : Argument)
  | needlessValue (value : Text) (argument : Argument) (given : List Argument)
  | unknownLong (name : Text) (given : List Argument)
  | unknownShort (name : Char)
  | surplus (written : Text)
  deriving DecidableEq, Repr

namespace Misuse

def unexpected (written : Text) : Text :=
  "error: unexpected argument '" ++ Text.shown written ++ "' found"

def valueTip (written : Text) : Text :=
  "  tip: to pass '" ++ Text.shown written ++ "' as a value, use '-- " ++ Text.shown written ++ "'"

def paragraphs : Misuse → List Text
  | .noInput given =>
    ["error: the following required arguments were not provided:\n  " ++ Argument.shown .input,
     usageFor given]
  | .noValue argument =>
    ["error: a value is required for '" ++ argument.shown ++ "' but none was supplied"]
  | .twice argument =>
    ["error: the argument '" ++ argument.shown ++ "' cannot be used multiple times", usage]
  | .needlessValue value argument given =>
    ["error: unexpected value '" ++ Text.shown value ++ "' for '" ++ argument.shown ++
       "' found; no more were expected",
     usageAtFlag argument given]
  | .unknownLong name given =>
    let written := "--" ++ name
    match Argument.options.find? (nearest? name (Argument.options.map Argument.long) = some ·.long) with
    | some similar =>
      [unexpected written, "  tip: a similar argument exists: '--" ++ similar.long ++ "'",
       usageWith (if similar ∈ given then given else given ++ [similar])]
    | none => [unexpected written, valueTip written, usageWith given]
  | .unknownShort name => [unexpected ['-', name], valueTip ['-', name], usage]
  | .surplus written => [unexpected written, usage]

def message (m : Misuse) : Text :=
  Text.join "\n\n" (m.paragraphs ++ ["For more information, try '--help'.".toList])

end Misuse

end RefSite.CommandLine
