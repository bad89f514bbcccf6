import CloudAccessors.Text.Visible

/-!
# Command line arguments

Options with a value, switches and the end-of-options marker `--` are read from left to right. An
option whose value is an argument of its own is settled when the next option comes or the arguments
end; only then is its value looked at.
-/

namespace CloudAccessors.CommandLine

/-- The clouds with a list of descriptors. -/
inductive Provider where
  | aws
deriving DecidableEq, Repr

def Provider.all : List Provider := [.aws]

def Provider.name : Provider → String
  | .aws => "aws"

def Provider.ofName? (s : String) : Option Provider := all.find? (·.name = s)

/-- The options that take a value. -/
inductive Setting where
  | provider
  | package
  | interface
  | receiver
deriving DecidableEq, Repr

namespace Setting

def all : List Setting := [.provider, .package, .interface, .receiver]

def long : Setting → String
  | .provider => "provider"
  | .package => "package"
  | .interface => "interface"
  | .receiver => "receiver"

def short? : Setting → Option Char
  | .provider => some 'p'
  | _ => none

/-- How messages name an option with its value. -/
def usage (s : Setting) : String :=
  "--" ++ s.long ++ " <" ++ String.ofList (s.long.toList.map Char.toUpper) ++ ">"

end Setting

/-- The options without a value. -/
inductive Switch where
  | strict
  | inspect
  | verbose
  | help
  | version
deriving DecidableEq, Repr

namespace Switch

def all : List Switch := [.strict, .inspect, .verbose, .help, .version]

def long : Switch → String
  | .strict => "strict"
  | .inspect => "inspect"
  | .verbose => "verbose"
  | .help => "help"
  | .version => "version"

def short? : Switch → Option Char
  | .verbose => some 'v'
  | .help => some 'h'
  | .version => some 'V'
  | _ => none

/-- How messages name a switch; dots stand for one that may be repeated. -/
def usage : Switch → String
  | .verbose => "--verbose..."
  | s => "--" ++ s.long

end Switch

/-- What is wrong with the arguments. -/
inductive UsageError where
  | unexpectedArgument (arg : String)
  | unexpectedValue (value : String) (switch : Switch)
  | missingValue (setting : Setting)
  | invalidValue (value : String) (setting : Setting)
  | repeated (usage : String)
deriving DecidableEq, Repr

/-- What is said about an error. Of the arguments, what a plain terminal shows is repeated. -/
def UsageError.message : UsageError → String
  | .unexpectedArgument arg => "unexpected argument '" ++ Text.visible arg ++ "' found"
  | .unexpectedValue value switch =>
    "unexpected value '" ++ Text.visible value ++ "' for '" ++ switch.usage ++
      "' found; no more were expected"
  | .missingValue setting =>
    "a value is required for '" ++ setting.usage ++ "' but none was supplied"
  | .invalidValue value setting =>
    "invalid value '" ++ Text.visible value ++ "' for '" ++ setting.usage ++ "'"
  | .repeated usage => "the argument '" ++ usage ++ "' cannot be used multiple times"

/-- Why reading the arguments ends before a run. -/
inductive Stop where
  /-- Help is asked for, the long or the short one. -/
  | help (long : Bool)
  | version
  | usage (error : UsageError)
deriving DecidableEq, Repr

/-- What the arguments ask for. -/
structure Arguments where
  provider : Option Provider := none
  package : Option String := none
  interface : Option String := none
  receiver : Option String := none
  strict : Bool := false
  inspect : Bool := false
  verbosity : Nat := 0
deriving DecidableEq, Repr

namespace Arguments

def isGiven (a : Arguments) : Setting → Bool
  | .provider => a.provider.isSome
  | .package => a.package.isSome
  | .interface => a.interface.isSome
  | .receiver => a.receiver.isSome

/-- Gives an option its value. Of the providers, an empty name counts as no value. -/
def assign (a : Arguments) (setting : Setting) (value : String) : Except UsageError Arguments :=
  if a.isGiven setting then .error (.repeated setting.usage)
  else
    match setting with
    | .provider =>
      match Provider.ofName? value with
      | some provider => .ok { a with provider }
      | none =>
        .error (if value.isEmpty then .missingValue setting else .invalidValue value setting)
    | .package => .ok { a with package := value }
    | .interface => .ok { a with interface := value }
    | .receiver => .ok { a with receiver := value }

end Arguments

/-- Arguments that are being read: an option may still wait for its value, or have a value that has
not been looked at. -/
structure Progress where
  given : Arguments := {}
  pending : Option (Setting × Option String) := none
  endOfOptions : Bool := false
deriving DecidableEq, Repr

namespace Progress

/-- Settles the pending option. -/
def settle (p : Progress) : Except Stop Progress :=
  match p.pending with
  | none => .ok p
  | some (setting, none) => .error (.usage (.missingValue setting))
  | some (setting, some value) =>
    match p.given.assign setting value with
    | .error e => .error (.usage e)
    | .ok given => .ok { p with given, pending := none }

/-- Meets an option whose value is the next argument. -/
def expectValue (p : Progress) (setting : Setting) : Except Stop Progress := do
  let p ← p.settle
  return { p with pending := some (setting, none) }

/-- Meets an option with its value attached. -/
def attachValue (p : Progress) (setting : Setting) (value : List Char) : Except Stop Progress := do
  let p ← p.settle
  { p with pending := some (setting, some (String.ofList value)) }.settle

/-- Meets a switch, in its long or short form. -/
def press (p : Progress) (switch : Switch) (long : Bool) : Except Stop Progress := do
  let p ← p.settle
  match switch with
  | .strict =>
    if p.given.strict then throw (.usage (.repeated switch.usage))
    return { p with given := { p.given with strict := true } }
  | .inspect =>
    if p.given.inspect then throw (.usage (.repeated switch.usage))
    return { p with given := { p.given with inspect := true } }
  | .verbose => return { p with given := { p.given with verbosity := p.given.verbosity + 1 } }
  | .help => throw (.help long)
  | .version => throw .version

/-- Takes the argument `--name` or `--name=value`, without its dashes. -/
def takeLong (p : Progress) (body : List Char) : Except Stop Progress :=
  let name := String.ofList (body.takeWhile (· ≠ '='))
  let value? := if body.contains '=' then some ((body.dropWhile (· ≠ '=')).drop 1) else none
  match Setting.all.find? (·.long = name), Switch.all.find? (·.long = name), value? with
  | some setting, _, none => p.expectValue setting
  | some setting, _, some value => p.attachValue setting value
  | none, some switch, none => p.press switch true
  | none, some switch, some value =>
    .error (.usage (.unexpectedValue (String.ofList value) switch))
  | none, none, _ => .error (.usage (.unexpectedArgument ("--" ++ name)))

/-- Takes a row of one-letter options. An option with a value takes the rest of the row as its
value, without an equals sign in front. -/
def takeShorts (p : Progress) : List Char → Except Stop Progress
  | [] => .ok p
  | c :: cs =>
    match Setting.all.find? (·.short? = some c), Switch.all.find? (·.short? = some c), cs with
    | some setting, _, [] => p.expectValue setting
    | some setting, _, '=' :: value => p.attachValue setting value
    | some setting, _, value => p.attachValue setting value
    | none, some switch, cs => (p.press switch false).bind (·.takeShorts cs)
    | none, none, _ => .error (.usage (.unexpectedArgument (String.ofList ['-', c])))

/-- Takes one argument. There are no arguments but options and their values. -/
def take (p : Progress) (arg : String) : Except Stop Progress :=
  let unexpected : Except Stop Progress := .error (.usage (.unexpectedArgument arg))
  if p.endOfOptions then unexpected
  else
    match arg.toList with
    | ['-', '-'] => .ok { p with endOfOptions := true }
    | '-' :: '-' :: body => p.takeLong body
    | '-' :: c :: cs => p.takeShorts (c :: cs)
    | _ =>
      match p.pending with
      | some (setting, none) => .ok { p with pending := some (setting, some arg) }
      | _ => unexpected

end Progress

/-- Reads all arguments. -/
def Arguments.parse (args : List String) : Except Stop Arguments := do
  let p ← args.foldlM Progress.take {}
  let p ← p.settle
  return p.given

end CloudAccessors.CommandLine
