import CloudAccessors.Config
import CloudAccessors.Plan.Derivation

/-!
# Method bodies

A method fetches page after page and merges each into an accumulator. Everything that is put into
the body as Go syntax is checked first; the signature and the result type are written as they are.
-/

namespace CloudAccessors.Source

open Text (trimmed blank)

/-! ### Checks -/

/-- A fault of `fault s`, unless `s` is a selector. -/
def unlessSelector (fault : String → RenderFault) (s : String) : Option RenderFault :=
  if Go.isSelector s then none else some (fault s)

def unlessIdentifier (fault : String → RenderFault) (s : String) : Option RenderFault :=
  if Go.isIdentifier s then none else some (fault s)

/-- Flattening takes a path of exactly two segments. -/
def segmentCountFault? (p : Plan) : Option RenderFault :=
  match p.merge with
  | .flatten .. =>
    if p.accessPath.length = 2 then none
    else some (.segmentCount ((String.singleton Descriptor.pathSeparator).intercalate p.accessPath))
  | _ => none

/-- The first thing in a plan that cannot be written into a body. -/
def bodyFault? (p : Plan) : Option RenderFault :=
  (if blank p.entity then some .emptyEntity else none) <|>
  (if blank p.signature then some .emptySignature else none) <|>
  unlessIdentifier .service p.service <|>
  unlessIdentifier .call p.call <|>
  unlessSelector .inputType p.inputType <|>
  p.ownerFilter.bind (unlessSelector .ownerFilter) <|>
  segmentCountFault? p <|>
  p.accessPath.findSome? (unlessSelector .segment) <|>
  p.pagination.bind fun t =>
    unlessSelector .tokenField t.outputField <|> unlessSelector .tokenField t.inputField

/-! ### Text -/

/-- Allocates the input of the call if the caller gave none. -/
def inputAllocation (indent inputType : String) : String :=
  indent ++ "if input == nil \x7b\n" ++
  indent ++ "\tinput = &" ++ inputType ++ "\x7b\x7d\n" ++
  indent ++ "\x7d\n"

/-- Restricts the call to what the account of the caller owns. -/
def ownerRestriction (inputType field : String) : String :=
  inputAllocation "\t" inputType ++
  "\tinput." ++ field ++ " = append(input." ++ field ++ ", c.accountID)\n\n"

/-- Creates the client of the service on first use. -/
def clientCreation (service : String) : String :=
  "\tif c.svc." ++ service ++ " == nil \x7b\n" ++
  "\t\tc.svc." ++ service ++ " = " ++ service ++ ".New(c.svc.session)\n" ++
  "\t\x7d\n\n"

/-- Declares the accumulator. -/
def accumulator (shape : Shape) (outputType : String) : String :=
  match shape with
  | .single => "\tvar opt " ++ outputType ++ "\n"
  | .map => "\topt := make(" ++ outputType ++ ")\n"
  | .sequence => "\topt := make(" ++ outputType ++ ", 0)\n"

/-- Requests a page. -/
def pageRequest (service call : String) : String :=
  "\t\to, err := c.svc." ++ service ++ "." ++ call ++ "WithContext(ctx, input)\n" ++
  "\t\tif err != nil \x7b\n" ++
  "\t\t\treturn nil, err\n" ++
  "\t\t\x7d\n"

/-- Hands the continuation token on, or ends the loop after the first page. -/
def continuation (inputType : String) : Option Pagination → String
  | none => "\t\thasMorePages = false\n"
  | some t =>
    inputAllocation "\t\t" inputType ++
    "\t\tinput." ++ t.inputField ++ " = o." ++ t.outputField ++ "\n" ++
    "\t\thasMorePages = o." ++ t.outputField ++ " != nil\n"

/-- Merges the page into the accumulator. -/
def mergeStatement : Merge → String
  | .flatten outer inner =>
    "\t\tfor _, v := range o." ++ outer ++ " \x7b\n" ++
    "\t\t\topt = append(opt, v." ++ inner ++ "...)\n" ++
    "\t\t\x7d\n"
  | .assign field => "\t\topt = o." ++ field ++ "\n"
  | .append field => "\t\topt = append(opt, o." ++ field ++ "...)\n"

/-- The line that opens the method. -/
def methodHeader (c : Config) (p : Plan) : String :=
  "func (c *" ++ c.receiver ++ ") " ++ trimmed p.signature ++ " \x7b\n"

def methodText (c : Config) (p : Plan) : String :=
  methodHeader c p ++
  (p.ownerFilter.map (ownerRestriction p.inputType)).getD "" ++
  clientCreation p.service ++
  accumulator p.shape p.outputType ++ "\n" ++
  "\thasMorePages := true\n" ++
  "\tfor hasMorePages \x7b\n" ++
  pageRequest p.service p.call ++
  continuation p.inputType p.pagination ++ "\n" ++
  mergeStatement p.merge ++
  "\t\x7d\n\n" ++
  "\treturn opt, nil\n" ++
  "\x7d\n"

/-- The method of a plan, or `none` if its body is written by hand. -/
def method (c : Config) (p : Plan) : Except Failure (Option String) :=
  if !p.generateBody then .ok none
  else
    match bodyFault? p with
    | some fault => .error (.render .function p.entity fault)
    | none => .ok (some (methodText c p))

end CloudAccessors.Source
