import CloudAccessors.Catalog.Aws
import CloudAccessors.CommandLine.Help
import CloudAccessors.Lint.Basic
import CloudAccessors.Source.Events

/-!
# Runs of the program

A run is a function from the arguments to what is logged, what is printed and the exit code: 0 for
success and for help, 1 if the source cannot be generated, 2 if the arguments are wrong. The log
goes to the standard error, in front of all else there. How much of it is shown is up to the
arguments, as long as the environment has no filter for it.
-/

namespace CloudAccessors.CommandLine

/-- What a run logs and prints, and its exit code. -/
structure Report where
  exitCode : Nat
  stdout : String := ""
  log : List Log.Entry := []
  /-- The standard error behind the log. -/
  stderr : String := ""
deriving DecidableEq, Repr

def Provider.descriptors : Provider → List Descriptor
  | .aws => Catalog.aws

/-- The name as the log shows it. -/
def Provider.tag : Provider → String
  | .aws => "Aws"

namespace Arguments

def providerOrDefault (a : Arguments) : Provider := a.provider.getD .aws

def descriptors (a : Arguments) : List Descriptor := a.providerOrDefault.descriptors

def config (a : Arguments) : Config where
  package := a.package.getD (Setting.defaultValue .package)
  interface := a.interface.getD (Setting.defaultValue .interface)
  receiver := a.receiver.getD (Setting.defaultValue .receiver)

/-- What is printed for the descriptors: their plans or their source. In a strict run the list must
have no issue. -/
def output (a : Arguments) : Except Failure String := do
  if a.strict then checkAll a.descriptors
  if a.inspect then return Source.inspect a.descriptors ++ "\n"
  Source.generate a.config a.descriptors

/-- What a strict run says about the issues of the list. -/
def issueLines (a : Arguments) : String :=
  let issues := if a.strict then lint a.descriptors else []
  String.join (issues.map fun issue => "error: " ++ issue.message ++ "\n") ++
    if issues.isEmpty then "" else "descriptor list failed strict validation\n"

/-- What is logged for the descriptors. A strict run logs nothing more of a list with an issue. -/
def outputEntries (a : Arguments) : List Log.Entry :=
  let ds := a.descriptors
  if a.strict && !(lint ds).isEmpty then []
  else if a.inspect then (Source.planAll ds).map fun p => { event := Source.derivedEvent p }
  else
    let scope : Log.Scope := { descriptors := ds.length, package := a.config.package }
    (Source.events a.config ds).map fun event => { scope, event }

/-- All that a run can log, whatever is shown of it. -/
def entries (a : Arguments) : List Log.Entry :=
  let ds := a.descriptors
  { event := .loaded a.providerOrDefault.tag ds.length } ::
    (if a.strict then [{ event := .checked ds.length (lint ds).length }] else []) ++
    a.outputEntries

/-- What is shown of it. -/
def log (a : Arguments) : List Log.Entry :=
  a.entries.filter (·.event.isShown (.ofVerbosity a.verbosity))

def report (a : Arguments) : Report :=
  match a.output with
  | .ok stdout => { exitCode := 0, stdout, log := a.log }
  | .error failure =>
    { exitCode := 1, log := a.log,
      stderr := a.issueLines ++ "Error: " ++ failure.diagnostic ++ "\n" }

end Arguments

/-- What is printed when the arguments do not lead to a run. -/
def Stop.report : Stop → Report
  | .help long => { exitCode := 0, stdout := helpText long }
  | .version => { exitCode := 0, stdout := versionText }
  | .usage error =>
    { exitCode := 2,
      stderr := "error: " ++ error.message ++ "\n\n" ++ usageLine ++
        "\nFor more information, try '--help'.\n" }

/-- The run with the given arguments. -/
def run (args : List String) : Report :=
  match Arguments.parse args with
  | .error stop => stop.report
  | .ok a => a.report

end CloudAccessors.CommandLine
