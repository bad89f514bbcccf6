import CloudAccessors.CommandLine.Arguments
import CloudAccessors.Config

/-!
# Help texts

What the command line shows on request: a short help with one line per option, and a long one with a
paragraph per option.
-/

namespace CloudAccessors.CommandLine

/-- What the help says about one option. -/
structure HelpEntry where
  short? : Option Char
  usage : String
  about : String
  /-- What the long help says instead. -/
  longAbout : String := about
  defaultValue : Option String := none
  /-- The possible values with what they mean. -/
  values : List (String × String) := []

namespace HelpEntry

def label (e : HelpEntry) : String :=
  (match e.short? with
    | some c => String.ofList ['-', c, ',', ' ']
    | none => "    ") ++ e.usage

/-- A note in brackets, unless there is nothing to note. -/
def note (title : String) : List String → String
  | [] => ""
  | values => "[" ++ title ++ ": " ++ ", ".intercalate values ++ "]"

/-- The entry on one line, the text in a column behind labels of the given width. -/
def line (width : Nat) (e : HelpEntry) : String :=
  let notes :=
    [note "default" e.defaultValue.toList, note "possible values" (e.values.map (·.1))].filter
      (!·.isEmpty)
  "  " ++ e.label ++ String.ofList (List.replicate (width - e.label.length) ' ') ++ "  " ++
    " ".intercalate (e.about :: notes) ++ "\n"

/-- The indentation of the text under a label. -/
def indent : String := "          "

/-- The entry as a paragraph. -/
def paragraph (e : HelpEntry) : String :=
  "  " ++ e.label ++ "\n" ++ indent ++ e.longAbout ++ "\n" ++
  (if e.values.isEmpty then ""
    else "\n" ++ indent ++ "Possible values:\n" ++
      String.join (e.values.map fun (name, meaning) =>
        indent ++ "- " ++ name ++ ": " ++ meaning ++ "\n")) ++
  (match e.defaultValue with
    | none => ""
    | some value => indent ++ "\n" ++ indent ++ note "default" [value] ++ "\n")

end HelpEntry

def Provider.meaning : Provider → String
  | .aws => "Amazon Web Services"

namespace Setting

def about : Setting → String
  | .provider => "Provider whose descriptor list is rendered"
  | .package => "Go package name of the generated file"
  | .interface => "Name of the generated interface"
  | .receiver => "Receiver type implementing the interface"

def defaultValue : Setting → String
  | .provider => Provider.aws.name
  | .package => ({} : Config).package
  | .interface => ({} : Config).interface
  | .receiver => ({} : Config).receiver

def helpEntry (s : Setting) : HelpEntry where
  short? := s.short?
  usage := s.usage
  about := s.about
  defaultValue := some s.defaultValue
  values := if s = .provider then Provider.all.map fun p => (p.name, p.meaning) else []

end Setting

namespace Switch

def about : Switch → String
  | .strict => "Refuse descriptor lists with conflicting or ignored fields"
  | .inspect => "Print the derived plans as JSON instead of Go source"
  | .verbose => "Increase verbosity (-v, -vv, -vvv)"
  | .help => "Print help (see more with '--help')"
  | .version => "Print version"

def helpEntry (s : Switch) : HelpEntry where
  short? := s.short?
  usage := s.usage
  about := s.about
  longAbout := if s = .help then "Print help (see a summary with '-h')" else s.about

end Switch

def helpEntries : List HelpEntry := Setting.all.map (·.helpEntry) ++ Switch.all.map (·.helpEntry)

def programName : String := "reader-gen"

def versionText : String := programName ++ " 0.1.0\n"

def usageLine : String := "Usage: " ++ programName ++ " [OPTIONS]\n"

def helpText (long : Bool) : String :=
  let width := (helpEntries.map (·.label.length)).foldl max 0
  "Code generator for paginated cloud SDK reader accessors\n\n" ++ usageLine ++ "\nOptions:\n" ++
    if long then "\n".intercalate (helpEntries.map (·.paragraph))
    else String.join (helpEntries.map (·.line width))

end CloudAccessors.CommandLine
