import RefSite.CommandLine.Request
import RefSite.Layout
import RefSite.Project
import RefSite.Settings

namespace RefSite.CommandLine

inductive Failure
  | input (e : InputError)
  | document (e : Export.Error)
  | file (e : WriteError)
  deriving DecidableEq, Repr

def Failure.message : Failure → Text
  | .input e => e.message
  | .document e => e.message
  | .file e => e.message

structure Sources where
  options : SiteOptions
  document : Export
  package : Package

namespace Sources

def site (s : Sources) : Site := Site.generate s.options s.package s.document

end Sources

/-- What a run prints line by line, and why it stopped if it did. -/
structure Report where
  lines : List Text := []
  failure? : Option Failure := none
  deriving DecidableEq, Repr

def Report.output (r : Report) : List Text :=
  match r.failure? with
  | some failure => r.lines ++ ["Error: " ++ failure.message]
  | none => r.lines

namespace Arguments

def folder (a : Arguments) : Text := (Path.parent? a.input).getD []

def base (a : Arguments) (s : Sources) : Text :=
  Layout.base a.folder s.options.destination s.package.id

def plan (a : Arguments) (s : Sources) : List PlannedFile := Layout.plan (a.base s) s.site

end Arguments

def number (n : Nat) : Text := Nat.toDigits 10 n

/-- What is printed before the first file is written. -/
def opening (verbose : Bool) (s : Sources) : List Text :=
  ["Generating " ++ s.package.title ++ " (" ++ s.package.id ++ ")"] ++
    if verbose then
      [" INFO apimd_core::site: Generated documentation site package=" ++ s.package.id ++
        " namespaces=" ++ number s.site.namespaces.length ++
        " types=" ++ number s.site.types.length]
    else []

def closing (base : Text) (s : Site) : List Text :=
  ["Output: " ++ base,
   "Wrote " ++ number s.pages.length ++ " pages and " ++ number s.menu.pages.length ++
     " navigation entries"]

section

variable {m : Type → Type} [Monad m] [FileStore m]

def readExport (path : Text) : m (Except Failure Export) := do
  match ← FileStore.read path with
  | .error fault => pure (.error (.file { path, fault }))
  | .ok content => pure ((Export.read content).mapError .document)

/-- Loads the settings, the export and the project, in this order. -/
def load (a : Arguments) : m (Except Failure Sources) := do
  match ← Settings.load a.config a.folder a.destination with
  | .error e => pure (.error (.input e))
  | .ok options =>
    match ← readExport a.input with
    | .error failure => pure (.error failure)
    | .ok document =>
      match ← Project.load (Project.pathFor a.input) with
      | .error e => pure (.error (.input e))
      | .ok package => pure (.ok { options, document, package })

def run (a : Arguments) : m Report := do
  match ← load a with
  | .error failure => pure { failure? := some failure }
  | .ok s =>
    match ← Layout.writeAll (a.plan s) with
    | .error e => pure { lines := opening a.verbose s, failure? := some (.file e) }
    | .ok () => pure { lines := opening a.verbose s ++ closing (a.base s) s.site }

def respond (arguments : List Text) : m (List Text) := do
  match Request.ofArguments arguments with
  | .error misuse => pure [Text.trimEnd misuse.message]
  | .ok .help => pure help
  | .ok .version => pure [version]
  | .ok (.generate a) => Report.output <$> run a

end

end RefSite.CommandLine
