import CloudAccessors.Config
import CloudAccessors.Go.Comment
import CloudAccessors.Plan.Basic

/-!
# The interface declaration

The interface declares two fixed accessors and then one method per plan: an empty line, the
documentation as comment lines, and the signature on a line of its own.
-/

namespace CloudAccessors.Source

open Text (trimmed blank)

/-- The contract of all methods, which stands above the interface. -/
def contract : String :=
  "\n".intercalate
    ["The next behavior commented in the below paragraph, applies to every method",
     "which clearly match what's explained, for the sake of not repeating the same,",
     "over and over.",
     "The most of the methods defined by this interface, return their results in a",
     "map. Those maps, have as keys, the region which have been requested and",
     "the values are the items returned by the provider for such region.",
     "Because the methods may make calls to different regions, in case that there",
     "is an error on a region, the returned map won't have any entry for such",
     "region and such errors will be reported by the returned error, nonetheless",
     "the items, got from the successful requests to other regions, will be",
     "returned, with the meaning that the methods will return partial results, in",
     "case of errors.",
     "For avoiding by the callers the problem of if the returned map may be nil,",
     "the function will always return a map instance, which will be of length 0",
     "in case that there is not any successful request."]

/-- An accessor that every interface has. It takes nothing and returns a text. -/
structure FixedAccessor where
  name : String
  /-- What the comment says behind the name. -/
  purpose : String
deriving DecidableEq, Repr

def fixedAccessors : List FixedAccessor :=
  [{ name := "GetAccountID", purpose := "returns the current ID for the account used" },
   { name := "GetRegion", purpose := "returns the currently used region for the Connector" }]

/-- The names of the accessors that every interface has. -/
def fixedMethods : List String := fixedAccessors.map (·.name)

def FixedAccessor.declaration (a : FixedAccessor) : String :=
  "\t// " ++ a.name ++ " " ++ a.purpose ++ "\n" ++ "\t" ++ a.name ++ "() string\n"

/-- The lines in front of the declarations, of which the last one opens the interface. -/
def interfaceOpening (c : Config) : String :=
  "// " ++ c.interface ++
    " is the interface defining all methods that need to be implemented\n//\n" ++
  Go.comment "" contract ++
  "type " ++ c.interface ++ " interface \x7b\n"

/-- Everything in front of the declarations of the plans. -/
def interfaceHeader (c : Config) : String :=
  interfaceOpening c ++ "\n".intercalate (fixedAccessors.map FixedAccessor.declaration)

/-- The declaration of one method, with the empty line in front of it. -/
def declaration (p : Plan) : String :=
  "\n" ++ Go.comment "\t" p.documentation ++ "\t" ++ trimmed p.signature ++ "\n"

/-- Why a method cannot be declared. -/
def declarationFault? (p : Plan) : Option RenderFault :=
  if blank p.entity then some .emptyEntity
  else if blank p.signature then some .emptySignature
  else if (trimmed p.signature).toList.contains '\n' then some .multilineSignature
  else none

def checkDeclaration (p : Plan) : Except Failure Unit :=
  match declarationFault? p with
  | none => .ok ()
  | some fault => .error (.render .interface p.entity fault)

/-- The whole declaration; the first plan that cannot be declared fails it. -/
def interface (c : Config) (plans : List Plan) : Except Failure String := do
  plans.forM checkDeclaration
  return interfaceHeader c ++ String.join (plans.map declaration) ++ "\x7d\n"

end CloudAccessors.Source
