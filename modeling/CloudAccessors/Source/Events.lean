import CloudAccessors.Log
import CloudAccessors.Source.File

/-!
# What the generator logs

Each step logs what it has done. A step that fails ends the log, and a loop that fails has logged
the plans in front of the one that fails it.
-/

namespace CloudAccessors.Source

open Log (Event)

def derivedEvent (p : Plan) : Event := .derived p.entity p.name p.shape

def bodyEvent (p : Plan) : Event :=
  if p.generateBody then .body p.merge p.pagination else .handWritten p.name

/-- What is logged behind a step, which is nothing if the step fails. -/
def behind {ε α : Type} (step : Except ε α) (events : List Event) : List Event :=
  if step.isOk then events else []

/-- The events of a run of `generate`. -/
def events (c : Config) (ds : List Descriptor) : List Event :=
  let plans := planAll ds
  let written := plans.countP (·.generateBody)
  behind c.check <|
    plans.map derivedEvent ++
    behind (preamble c) (.preamble ::
      (plans.takeWhile fun p => (checkDeclaration p).isOk).map (.declared ·.name) ++
      behind (interface c plans) (.interface (plans.length + fixedAccessors.length) ::
        (plans.takeWhile fun p => (method c p).isOk).map bodyEvent ++
        behind (plans.mapM (method c)) [.bodies written (plans.length - written)]))

end CloudAccessors.Source
