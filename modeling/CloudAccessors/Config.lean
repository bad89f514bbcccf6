import CloudAccessors.Failure
import CloudAccessors.Go.Identifier
import CloudAccessors.Text.Trim

/-!
# Configuration

The names in the generated source that no descriptor has: the package, the interface, the type that
implements it, and the tool that the file says it comes from.
-/

namespace CloudAccessors

structure Config where
  package : String := "reader"
  interface : String := "Reader"
  receiver : String := "connector"
  generator : String := "reader-gen"
deriving DecidableEq, Repr

namespace Config

def identifierFault? (label value : String) : Option ConfigFault :=
  if Go.isIdentifier value then none else some (.identifier label value)

/-- The marker of a generated file has to stay on one line. -/
def generatorFault? (name : String) : Option ConfigFault :=
  if Text.blank name || name.toList.contains '\n' then some (.generator name) else none

/-- The first thing that is wrong with a configuration. -/
def fault? (c : Config) : Option ConfigFault :=
  identifierFault? "package" c.package <|> identifierFault? "interface" c.interface <|>
    identifierFault? "receiver" c.receiver <|> generatorFault? c.generator

def check (c : Config) : Except Failure Unit :=
  match c.fault? with
  | none => .ok ()
  | some fault => .error (.config fault)

end Config

end CloudAccessors
