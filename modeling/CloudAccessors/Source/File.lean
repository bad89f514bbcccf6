import CloudAccessors.Plan.Json
import CloudAccessors.Source.Interface
import CloudAccessors.Source.Method
import CloudAccessors.Source.Preamble

/-!
# The generated file

The preamble, the interface and the method bodies in list order, with an empty line in front of the
interface and of each body. A failure anywhere fails the whole file. `inspect` shows the plans
instead.
-/

namespace CloudAccessors.Source

def planAll (ds : List Descriptor) : List Plan := ds.map Descriptor.plan

/-- The source of the descriptors' accessors. -/
def generate (c : Config) (ds : List Descriptor) : Except Failure String := do
  c.check
  let plans := planAll ds
  let head ← preamble c
  let declarations ← interface c plans
  let bodies ← plans.mapM (method c)
  return head ++ "\n" ++ declarations ++ String.join ((bodies.filterMap id).map ("\n" ++ ·))

/-- The plans of the descriptors as JSON, with one entry per line. -/
def inspect (ds : List Descriptor) : String := (Json.array ((planAll ds).map Plan.toJson)).pretty

end CloudAccessors.Source
