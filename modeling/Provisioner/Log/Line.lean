import Provisioner.Journal

/-! The compact line of a shown event: its level, the names of the spans it is shown in, each
followed by a colon, its component, its message and fields, then the fields of each span from
the outermost in. Fields are written `name=value` and separated by single blanks; a span
without fields adds nothing. -/

namespace Provisioner.Log

def Level.word : Level → String
  | .error => "ERROR"
  | .warn => "WARN"
  | .info => "INFO"
  | .debug => "DEBUG"
  | .trace => "TRACE"

def fieldText (fields : List (String × String)) : String :=
  " ".intercalate (fields.map fun (n, v) => n ++ "=" ++ v)

def line (spans : List Span) (e : Event) : String :=
  let spanNames := if spans.isEmpty then "" else String.join (spans.map (·.name ++ ":")) ++ " "
  let own := fieldText e.fields
  let spanFields := String.join ((spans.filter (!·.fields.isEmpty)).map fun s => " " ++ fieldText s.fields)
  Level.word e.level ++ " " ++ spanNames ++ e.target ++ ": " ++ e.message ++
    (if own.isEmpty then "" else " " ++ own) ++ spanFields

end Provisioner.Log
