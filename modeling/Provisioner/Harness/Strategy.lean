import Provisioner.Text.Quote

/-! The strategies of a performance test: random changes, or changes delayed on conflicts. -/

namespace Provisioner

inductive Strategy where
  | random
  | delayOnConflicts
  deriving DecidableEq, Repr

namespace Strategy

def text : Strategy → String
  | .random => "random"
  | .delayOnConflicts => "delay_on_conflicts"

def parse (s : String) : Except String Strategy :=
  if s = "random" then .ok .random
  else if s = "delay_on_conflicts" then .ok .delayOnConflicts
  else .error ("unknown tests strategy " ++ Text.quote s ++
    ", expected random or delay_on_conflicts")

end Strategy

end Provisioner
