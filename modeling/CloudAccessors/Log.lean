import CloudAccessors.Plan.Basic
import CloudAccessors.Text.Quoted

/-!
# The log

What is logged on the way from the descriptors to the source. An event has a level, a message and
labelled values. Those of the generator say which of its runs they belong to.
-/

namespace CloudAccessors

/-- The diagnostic form of a merge. -/
def Merge.diagnostic : Merge → String
  | .flatten outer inner =>
    "Flatten" ++ Text.labelled [("outer", Text.quoted outer), ("inner", Text.quoted inner)]
  | .assign field => "Assign" ++ Text.labelled [("field", Text.quoted field)]
  | .append field => "Append" ++ Text.labelled [("field", Text.quoted field)]

/-- The diagnostic form of a pagination. -/
def Pagination.diagnostic (p : Pagination) : String :=
  "Pagination" ++ Text.labelled
    [("output_field", Text.quoted p.outputField), ("input_field", Text.quoted p.inputField)]

namespace Log

/-- How important an event is, the most important ones first. -/
inductive Level where
  | warn
  | info
  | debug
  | trace
deriving DecidableEq, Repr

namespace Level

def rank : Level → Nat
  | .warn => 0
  | .info => 1
  | .debug => 2
  | .trace => 3

/-- The level in capital letters, all equally wide. -/
def tag : Level → String
  | .warn => " WARN"
  | .info => " INFO"
  | .debug => "DEBUG"
  | .trace => "TRACE"

/-- The least important level that is shown if more is asked for `n` times. -/
def ofVerbosity : Nat → Level
  | 0 => .warn
  | 1 => .info
  | 2 => .debug
  | _ => .trace

end Level

inductive Event where
  /-- The list of a provider is there. -/
  | loaded (provider : String) (descriptors : Nat)
  /-- A list has been checked. -/
  | checked (descriptors issues : Nat)
  | derived (entity method : String) (shape : Shape)
  | preamble
  | declared (method : String)
  | interface (methods : Nat)
  /-- The body of a method is written by hand. -/
  | handWritten (method : String)
  | body (merge : Merge) (pagination : Option Pagination)
  | bodies (written skipped : Nat)
deriving DecidableEq, Repr

namespace Event

def level : Event → Level
  | .loaded .. | .preamble | .interface _ | .bodies .. => .info
  | .checked .. | .derived .. | .declared _ | .handWritten _ => .debug
  | .body .. => .trace

def message : Event → String
  | .loaded .. => "Loaded descriptor list"
  | .checked .. => "Validated descriptors"
  | .derived .. => "Derived plan"
  | .preamble => "Rendered preamble"
  | .declared _ => "Declaring interface method"
  | .interface _ => "Rendered interface"
  | .handWritten _ => "Skipping body generation"
  | .body .. => "Rendering method body"
  | .bodies .. => "Rendered function bodies"

/-- The values of an event with their labels. -/
def values : Event → List (String × String)
  | .loaded provider descriptors =>
    [("provider", provider), ("descriptors", toString descriptors)]
  | .checked descriptors issues => [("count", toString descriptors), ("issues", toString issues)]
  | .derived entity method shape => [("entity", entity), ("method", method), ("shape", shape.name)]
  | .preamble => []
  | .declared method | .handWritten method => [("method", method)]
  | .interface methods => [("methods", toString methods)]
  | .body merge pagination =>
    [("merge", merge.diagnostic),
     ("pagination", (pagination.map fun p => "Some(" ++ p.diagnostic ++ ")").getD "None")]
  | .bodies written skipped => [("bodies", toString written), ("skipped", toString skipped)]

/-- Is the event important enough to be shown? -/
def isShown (least : Level) (e : Event) : Bool := e.level.rank ≤ least.rank

end Event

/-- A run of the generator, as its events name it. -/
structure Scope where
  descriptors : Nat
  package : String
deriving DecidableEq, Repr

def Scope.text (s : Scope) : String :=
  "generate\x7bdescriptors=" ++ toString s.descriptors ++ " package=" ++ s.package ++ "\x7d: "

/-- An event, in the run of the generator to which it belongs. -/
structure Entry where
  scope : Option Scope := none
  event : Event
deriving DecidableEq, Repr

/-- The line of an entry, without the time in front of it and without colours. -/
def Entry.line (e : Entry) : String :=
  e.event.level.tag ++ " " ++ (e.scope.map Scope.text).getD "" ++
    " ".intercalate (e.event.message :: e.event.values.map fun (label, value) =>
      label ++ "=" ++ value) ++ "\n"

end Log

end CloudAccessors
