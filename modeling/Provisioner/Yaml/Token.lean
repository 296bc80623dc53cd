/-! The vocabulary of YAML reading: positions in the text, the tokens a scanner cuts the text
into, and the faults that stop reading. A fault names its problem and where it was found, and
optionally what was being read and where that began; its text shows a position only when it
is not the very start of the text, and a context position only when it differs from the
problem's. -/

namespace Provisioner.Yaml

structure Mark where
  index : Nat
  line : Nat
  column : Nat
  deriving DecidableEq, Repr, Inhabited

namespace Mark

def origin : Mark := ⟨0, 0, 0⟩

def atStart (m : Mark) : Bool := m.line == 0 && m.column == 0

def text (m : Mark) : String :=
  "line " ++ toString (m.line + 1) ++ " column " ++ toString (m.column + 1)

def samePlace (a b : Mark) : Bool := a.line == b.line && a.column == b.column

end Mark

inductive ScalarStyle where
  | plain
  | singleQuoted
  | doubleQuoted
  | literal
  | folded
  deriving DecidableEq, Repr

inductive TokenKind where
  | streamStart
  | streamEnd
  | versionDirective (major minor : Nat)
  | tagDirective (handle pfx : String)
  | documentStart
  | documentEnd
  | blockSequenceStart
  | blockMappingStart
  | blockEnd
  | flowSequenceStart
  | flowSequenceEnd
  | flowMappingStart
  | flowMappingEnd
  | blockEntry
  | flowEntry
  | key
  | value
  | alias (name : String)
  | anchor (name : String)
  | tag (handle suffix : String)
  | scalar (text : String) (style : ScalarStyle)
  deriving DecidableEq, Repr

structure Token where
  kind : TokenKind
  start : Mark
  stop : Mark
  deriving Repr

structure Fault where
  problem : String
  mark : Mark
  offset : Nat
  context : Option (String × Mark)
  deriving Repr

def Fault.message (f : Fault) : String :=
  f.problem ++
    (if !f.mark.atStart then " at " ++ f.mark.text
      else if f.offset != 0 then " at position " ++ toString f.offset
      else "") ++
    match f.context with
    | some (c, m) =>
      ", " ++ c ++ (if !m.atStart && !m.samePlace f.mark then " at " ++ m.text else "")
    | none => ""

def Fault.at (problem : String) (mark : Mark) (context : Option (String × Mark)) : Fault :=
  ⟨problem, mark, 0, context⟩

def Fault.exhausted : Fault := ⟨"reader exhausted its step budget", Mark.origin, 0, none⟩

end Provisioner.Yaml
