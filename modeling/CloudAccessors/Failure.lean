import CloudAccessors.Lint.Issue
import CloudAccessors.Text.Quoted

/-!
# Failures

Why source cannot be generated: a setting or a plan has something that cannot be written as Go, or a
descriptor list has an issue that the caller refuses. A cause may also be stated in words, by a
caller with checks of its own.
-/

namespace CloudAccessors

/-- The part of the source that was being rendered. -/
inductive Pass where
  | preamble
  | interface
  | function
deriving DecidableEq, Repr

namespace Pass

def name : Pass → String
  | .preamble => "preamble"
  | .interface => "interface"
  | .function => "function"

/-- The name as diagnostics show it. -/
def tag : Pass → String
  | .preamble => "Preamble"
  | .interface => "Interface"
  | .function => "Function"

end Pass

/-- Why a plan or the package clause cannot be rendered. -/
inductive RenderFault where
  | package (name : String)
  | emptyEntity
  | emptySignature
  | multilineSignature
  | service (name : String)
  | call (name : String)
  | inputType (name : String)
  | ownerFilter (field : String)
  /-- A path to be flattened does not have two segments. -/
  | segmentCount (path : String)
  | segment (name : String)
  | tokenField (field : String)
  | stated (reason : String)
deriving DecidableEq, Repr

def RenderFault.message : RenderFault → String
  | .package name => "package '" ++ name ++ "' is not a Go identifier"
  | .emptyEntity => "entity is empty"
  | .emptySignature => "signature is empty"
  | .multilineSignature => "signature spans several lines"
  | .service name => "service '" ++ name ++ "' is not a Go identifier"
  | .call name => "service call '" ++ name ++ "' is not a Go identifier"
  | .inputType name => "input type '" ++ name ++ "' is not a Go type name"
  | .ownerFilter field => "owner filter '" ++ field ++ "' is not a Go selector"
  | .segmentCount path => "attribute path '" ++ path ++ "' must have exactly two segments"
  | .segment name => "attribute path segment '" ++ name ++ "' is not a Go selector"
  | .tokenField field => "pagination field '" ++ field ++ "' is not a Go selector"
  | .stated reason => reason

/-- Why a configuration is refused. -/
inductive ConfigFault where
  /-- The value of the labelled setting is no identifier. -/
  | identifier (label value : String)
  /-- The generator name is blank or has a line break. -/
  | generator (name : String)
  | stated (reason : String)
deriving DecidableEq, Repr

def ConfigFault.message : ConfigFault → String
  | .identifier label value => label ++ " '" ++ value ++ "' is not a valid Go identifier"
  | .generator name => "generator name '" ++ name ++ "' must be a non-empty single line"
  | .stated reason => reason

inductive Failure where
  | render (pass : Pass) (entity : String) (fault : RenderFault)
  | config (fault : ConfigFault)
  | lint (issue : Issue)
  /-- The plans cannot be written as JSON. -/
  | serialize (reason : String)
  /-- The output cannot be written. -/
  | io (reason : String)
deriving DecidableEq, Repr

namespace Failure

def message : Failure → String
  | .render pass entity fault =>
    "Failed to render " ++ pass.name ++ " for '" ++ entity ++ "': " ++ fault.message
  | .config fault => "Invalid configuration: " ++ fault.message
  | .lint issue => issue.message
  | .serialize reason => "Failed to serialize plans: " ++ reason
  | .io reason => "IO error: " ++ reason

/-- The name of the kind of failure. -/
def kind : Failure → String
  | .render .. => "RenderFailed"
  | .config _ => "ConfigError"
  | .lint (.emptyEntity _) => "EmptyEntity"
  | .lint (.conflictingShape _) => "ConflictingShape"
  | .lint (.malformedAttributePath ..) => "MalformedAttributePath"
  | .lint (.ignoredPaginationOverride _) => "IgnoredPaginationOverride"
  | .lint (.duplicateMethod _) => "DuplicateMethod"
  | .serialize _ => "Serialize"
  | .io _ => "Io"

/-- The parts of a failure with their labels, in the order in which diagnostics show them. -/
def parts : Failure → List (String × String)
  | .render pass entity fault =>
    [("section", pass.tag), ("entity", Text.quoted entity), ("reason", Text.quoted fault.message)]
  | .lint (.emptyEntity index) => [("index", toString index)]
  | .lint (.conflictingShape entity) => [("entity", Text.quoted entity)]
  | .lint (.malformedAttributePath entity path) =>
    [("entity", Text.quoted entity), ("path", Text.quoted path)]
  | .lint (.ignoredPaginationOverride entity) => [("entity", Text.quoted entity)]
  | .lint (.duplicateMethod name) => [("name", Text.quoted name)]
  | .config _ | .serialize _ | .io _ => []

/-- The one-line form of a failure in which a program that fails reports it: its kind, and its parts
with all texts quoted. -/
def diagnostic (failure : Failure) : String :=
  failure.kind ++
    match failure with
    | .config fault => "(" ++ Text.quoted fault.message ++ ")"
    | .serialize reason => "(" ++ Text.quoted reason ++ ")"
    | .io reason => "(" ++ Text.quoted reason ++ ")"
    | failure => Text.labelled failure.parts

end Failure

end CloudAccessors
