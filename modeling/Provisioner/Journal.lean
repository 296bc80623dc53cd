import Provisioner.Text.Quote

/-! Diagnostics a run reports. An event has a level, the component it comes from, its words
and named fields; it happens inside a stack of spans, each a named step of a workflow with
fields of its own. Field values are text already: a value shown as written, or quoted. -/

namespace Provisioner

inductive Level where
  | error
  | warn
  | info
  | debug
  | trace
  deriving DecidableEq, Repr

def Level.rank : Level → Nat
  | .error => 1
  | .warn => 2
  | .info => 3
  | .debug => 4
  | .trace => 5

/-- A named step of a workflow, with the component it belongs to and its fields. Every step
matters as much as an informational event. -/
structure Span where
  name : String
  target : String
  fields : List (String × String)
  deriving DecidableEq, Repr

abbrev Scope := List Span

structure Event where
  level : Level
  target : String
  message : String
  fields : List (String × String)
  deriving DecidableEq, Repr

def quotedField (name value : String) : String × String := (name, Text.quote value)

end Provisioner
