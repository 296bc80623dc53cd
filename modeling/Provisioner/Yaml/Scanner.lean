import Provisioner.Yaml.Token

/-! The YAML scanner: it cuts the text into tokens on demand. Indentation opens and closes block
collections; a scalar, alias, anchor, tag or flow opener may turn out to be a simple key, so
the scanner keeps one possible key per flow level and keeps scanning while the token at the
head of the queue could still become a key. A key that must be one (a block key at the
current indentation) but is left without `:` on its line is a fault. Every loop runs on a
step budget computed from the text's length, each step reading at least one character. -/

namespace Provisioner.Yaml

def isBreak (c : Char) : Bool :=
  c == '\r' || c == '\n' || c.toNat == 0x85 || c.toNat == 0x2028 || c.toNat == 0x2029

def isBlank (c : Char) : Bool := c == ' ' || c == '\t'

def isEnd (c : Char) : Bool := c.toNat == 0

def isBlankZ (c : Char) : Bool := isBlank c || isBreak c || isEnd c

def isBreakZ (c : Char) : Bool := isBreak c || isEnd c

def isDigit (c : Char) : Bool := '0' ≤ c && c ≤ '9'

def isWordChar (c : Char) : Bool :=
  isDigit c || ('a' ≤ c && c ≤ 'z') || ('A' ≤ c && c ≤ 'Z') || c == '_' || c == '-'

def isHex (c : Char) : Bool := isDigit c || ('a' ≤ c && c ≤ 'f') || ('A' ≤ c && c ≤ 'F')

def hexValue (c : Char) : Nat :=
  if isDigit c then c.toNat - 48 else if 'a' ≤ c && c ≤ 'f' then c.toNat - 87 else c.toNat - 55

def oneOf (c : Char) (s : String) : Bool := s.toList.contains c

/-- A place where a key without `?` may begin. -/
structure SimpleKey where
  possible : Bool
  required : Bool
  tokenNumber : Nat
  mark : Mark

def SimpleKey.none : SimpleKey := ⟨false, false, 0, Mark.origin⟩

structure Scanner where
  input : Array Char
  mark : Mark
  streamStartProduced : Bool
  streamEndProduced : Bool
  flowLevel : Nat
  tokens : List Token
  tokensParsed : Nat
  tokenAvailable : Bool
  indent : Int
  indents : List Int
  simpleKeyAllowed : Bool
  simpleKeys : List SimpleKey

def Scanner.ofText (s : String) : Scanner :=
  ⟨s.toList.toArray, Mark.origin, false, false, 0, [], 0, false, -1, [], false, []⟩

abbrev ScanM := StateT Scanner (Except Fault)

namespace Scan

def look (k : Nat) : ScanM Char := do
  let s ← get
  return s.input.getD (s.mark.index + k) (Char.ofNat 0)

def here : ScanM Char := look 0

def mark : ScanM Mark := return (← get).mark

def budget : ScanM Nat := return (← get).input.size + 2

def advance : ScanM Unit :=
  modify fun s => { s with mark := ⟨s.mark.index + 1, s.mark.line, s.mark.column + 1⟩ }

def advanceLine : ScanM Unit := do
  let c ← look 0
  let d ← look 1
  if c == '\r' && d == '\n' then
    modify fun s => { s with mark := ⟨s.mark.index + 2, s.mark.line + 1, 0⟩ }
  else if isBreak c then
    modify fun s => { s with mark := ⟨s.mark.index + 1, s.mark.line + 1, 0⟩ }

def take (acc : String) : ScanM String := do
  let c ← here
  advance
  return acc.push c

def takeBreak (acc : String) : ScanM String := do
  let c ← look 0
  let d ← look 1
  if c == '\r' && d == '\n' then
    modify fun s => { s with mark := ⟨s.mark.index + 2, s.mark.line + 1, 0⟩ }
    return acc.push '\n'
  else if c == '\r' || c == '\n' || c.toNat == 0x85 then
    modify fun s => { s with mark := ⟨s.mark.index + 1, s.mark.line + 1, 0⟩ }
    return acc.push '\n'
  else if c.toNat == 0x2028 || c.toNat == 0x2029 then
    modify fun s => { s with mark := ⟨s.mark.index + 1, s.mark.line + 1, 0⟩ }
    return acc.push c
  else return acc

def fail {α : Type} (context : Option String) (contextMark : Mark) (problem : String) :
    ScanM α := do
  throw (Fault.at problem (← mark) (context.map fun c => (c, contextMark)))

def skipWhile (p : Char → Bool) : Nat → ScanM Unit
  | 0 => throw Fault.exhausted
  | fuel + 1 => do
    if p (← here) then
      advance
      skipWhile p fuel

def takeWhile (p : Char → Bool) : Nat → String → ScanM String
  | 0, _ => throw Fault.exhausted
  | fuel + 1, acc => do
    if p (← here) then takeWhile p fuel (← take acc) else return acc

def enqueue (kind : TokenKind) (start stop : Mark) : ScanM Unit :=
  modify fun s => { s with tokens := s.tokens ++ [⟨kind, start, stop⟩] }

/-! ### Indentation and simple keys -/

def popIndents (column : Int) : Int → List Int → Nat → Int × List Int × Nat
  | indent, i :: rest, n =>
    if indent > column then popIndents column i rest (n + 1) else (indent, i :: rest, n)
  | indent, [], n => (indent, [], n)

def unrollIndent (column : Int) : ScanM Unit := do
  let s ← get
  if s.flowLevel > 0 then return
  let (indent, indents, n) := popIndents column s.indent s.indents 0
  let ends := List.replicate n (⟨.blockEnd, s.mark, s.mark⟩ : Token)
  set { s with indent := indent, indents := indents, tokens := s.tokens ++ ends }

def rollIndent (column : Int) (number : Option Nat) (kind : TokenKind) (at_ : Mark) :
    ScanM Unit := do
  let s ← get
  if s.flowLevel > 0 then return
  if s.indent < column then
    let t : Token := ⟨kind, at_, at_⟩
    let tokens := match number with
      | none => s.tokens ++ [t]
      | some n => s.tokens.insertIdx (n - s.tokensParsed) t
    set { s with indents := s.indent :: s.indents, indent := column, tokens := tokens }

def keyFault (k : SimpleKey) (at_ : Mark) : Fault :=
  Fault.at "could not find expected ':'" at_ (some ("while scanning a simple key", k.mark))

def removeSimpleKey : ScanM Unit := do
  let s ← get
  match s.simpleKeys with
  | k :: rest =>
    if k.possible && k.required then throw (keyFault k s.mark)
    set { s with simpleKeys := { k with possible := false } :: rest }
  | [] => pure ()

def saveSimpleKey : ScanM Unit := do
  let s ← get
  let required := s.flowLevel == 0 && s.indent == (s.mark.column : Int)
  if s.simpleKeyAllowed then
    let k : SimpleKey := ⟨true, required, s.tokensParsed + s.tokens.length, s.mark⟩
    removeSimpleKey
    modify fun s => { s with simpleKeys := k :: s.simpleKeys.drop 1 }

/-- Keys that can no longer be keys: begun on an earlier line or over 1024 characters back. -/
def staleSimpleKeys : ScanM Unit := do
  let s ← get
  let check (k : SimpleKey) : Except Fault SimpleKey :=
    if k.possible && (k.mark.line < s.mark.line || k.mark.index + 1024 < s.mark.index) then
      if k.required then .error (keyFault k s.mark) else .ok { k with possible := false }
    else .ok k
  match s.simpleKeys.reverse.mapM check with
  | .ok keys => set { s with simpleKeys := keys.reverse }
  | .error f => throw f

def increaseFlowLevel : ScanM Unit :=
  modify fun s =>
    { s with simpleKeys := SimpleKey.none :: s.simpleKeys, flowLevel := s.flowLevel + 1 }

def decreaseFlowLevel : ScanM Unit :=
  modify fun s =>
    if s.flowLevel > 0 then
      { s with flowLevel := s.flowLevel - 1, simpleKeys := s.simpleKeys.drop 1 }
    else s

def allowKey (b : Bool) : ScanM Unit := modify fun s => { s with simpleKeyAllowed := b }

/-! ### Between tokens -/

def toNextToken : Nat → ScanM Unit
  | 0 => throw Fault.exhausted
  | fuel + 1 => do
    if (← mark).column == 0 && (← here).toNat == 0xFEFF then advance
    let s ← get
    let tabs := s.flowLevel > 0 || !s.simpleKeyAllowed
    skipWhile (fun c => c == ' ' || (tabs && c == '\t')) (← budget)
    if (← here) == '#' then skipWhile (fun c => !isBreakZ c) (← budget)
    if isBreak (← here) then
      advanceLine
      if (← get).flowLevel == 0 then allowKey true
      toNextToken fuel

/-! ### Directives -/

def directiveName (start : Mark) : ScanM String := do
  let name ← takeWhile isWordChar (← budget) ""
  if name.isEmpty then
    fail (some "while scanning a directive") start "could not find expected directive name"
  if !isBlankZ (← here) then
    fail (some "while scanning a directive") start "found unexpected non-alphabetical character"
  return name

def versionDigits (start : Mark) : Nat → Nat → Nat → ScanM Nat
  | 0, _, _ => throw Fault.exhausted
  | fuel + 1, length, value => do
    let c ← here
    if isDigit c then
      if length + 1 > 9 then
        fail (some "while scanning a %YAML directive") start "found extremely long version number"
      advance
      versionDigits start fuel (length + 1) (value * 10 + (c.toNat - 48))
    else if length == 0 then
      fail (some "while scanning a %YAML directive") start "did not find expected version number"
    else return value

def versionValue (start : Mark) : ScanM (Nat × Nat) := do
  skipWhile isBlank (← budget)
  let major ← versionDigits start (← budget) 0 0
  if (← here) != '.' then
    fail (some "while scanning a %YAML directive") start
      "did not find expected digit or '.' character"
  advance
  let minor ← versionDigits start (← budget) 0 0
  return (major, minor)

def tagHandle (directive : Bool) (start : Mark) : ScanM String := do
  if (← here) != '!' then
    fail (some (if directive then "while scanning a tag directive" else "while scanning a tag"))
      start "did not find expected '!'"
  let h ← take ""
  let h ← takeWhile isWordChar (← budget) h
  if (← here) == '!' then take h
  else
    if directive && h != "!" then
      fail (some "while parsing a tag directive") start "did not find expected '!'"
    return h

def uriEscapes (directive : Bool) (start : Mark) : Nat → Nat → List UInt8 → ScanM (List UInt8)
  | 0, _, _ => throw Fault.exhausted
  | fuel + 1, width, acc => do
    let ctx := some (if directive then "while parsing a %TAG directive" else "while parsing a tag")
    if !((← look 0) == '%' && isHex (← look 1) && isHex (← look 2)) then
      fail ctx start "did not find URI escaped octet"
    let octet := hexValue (← look 1) * 16 + hexValue (← look 2)
    let width ← if width == 0 then
        let w := if octet &&& 0x80 == 0 then 1 else if octet &&& 0xE0 == 0xC0 then 2
          else if octet &&& 0xF0 == 0xE0 then 3 else if octet &&& 0xF8 == 0xF0 then 4 else 0
        if w == 0 then fail ctx start "found an incorrect leading UTF-8 octet"
        pure w
      else
        if octet &&& 0xC0 != 0x80 then fail ctx start "found an incorrect trailing UTF-8 octet"
        pure width
    advance; advance; advance
    let acc := acc ++ [octet.toUInt8]
    if width == 1 then return acc else uriEscapes directive start fuel (width - 1) acc

def isUriChar (flowIndicators : Bool) (c : Char) : Bool :=
  isWordChar c || oneOf c ";/?:@&=+$.%!~*'()" || (flowIndicators && oneOf c ",[]")

def tagUriChars (uriChar directive : Bool) (start : Mark) : Nat → String → Nat →
    ScanM (String × Nat)
  | 0, _, _ => throw Fault.exhausted
  | fuel + 1, acc, length => do
    let c ← here
    if isUriChar uriChar c then
      if c == '%' then
        let octets ← uriEscapes directive start (← budget) 0 []
        let text := (String.fromUTF8? ⟨octets.toArray⟩).getD "\uFFFD"
        tagUriChars uriChar directive start fuel (acc ++ text) (length + 1)
      else tagUriChars uriChar directive start fuel (← take acc) (length + 1)
    else return (acc, length)

def tagUri (uriChar directive : Bool) (head : String) (start : Mark) : ScanM String := do
  let (uri, length) ← tagUriChars uriChar directive start (← budget)
    (if head.length > 1 then String.ofList (head.toList.drop 1) else "") head.length
  if length == 0 then
    fail (some (if directive then "while parsing a %TAG directive" else "while parsing a tag"))
      start "did not find expected tag URI"
  return uri

def tagDirectiveValue (start : Mark) : ScanM (String × String) := do
  skipWhile isBlank (← budget)
  let handle ← tagHandle true start
  if !isBlank (← here) then
    fail (some "while scanning a %TAG directive") start "did not find expected whitespace"
  skipWhile isBlank (← budget)
  let pfx ← tagUri true true "" start
  if !isBlankZ (← here) then
    fail (some "while scanning a %TAG directive") start
      "did not find expected whitespace or line break"
  return (handle, pfx)

def directive : ScanM Unit := do
  let start ← mark
  advance
  let name ← directiveName start
  let kind ← if name == "YAML" then
      let (major, minor) ← versionValue start
      pure (TokenKind.versionDirective major minor)
    else if name == "TAG" then
      let (handle, pfx) ← tagDirectiveValue start
      pure (TokenKind.tagDirective handle pfx)
    else fail (some "while scanning a directive") start "found unknown directive name"
  let stop ← mark
  skipWhile isBlank (← budget)
  if (← here) == '#' then skipWhile (fun c => !isBreakZ c) (← budget)
  if !isBreakZ (← here) then
    fail (some "while scanning a directive") start "did not find expected comment or line break"
  if isBreak (← here) then advanceLine
  enqueue kind start stop

/-! ### Anchors and tags -/

def anchor (isAlias : Bool) : ScanM Unit := do
  let start ← mark
  advance
  let name ← takeWhile isWordChar (← budget) ""
  let stop ← mark
  let c ← here
  if name.isEmpty || !(isBlankZ c || oneOf c "?:,]\x7d%@\x60") then
    fail (some (if isAlias then "while scanning an alias" else "while scanning an anchor")) start
      "did not find expected alphabetic or numeric character"
  enqueue (if isAlias then .alias name else .anchor name) start stop

def tag : ScanM Unit := do
  let start ← mark
  let (handle, suffix) ← if (← look 1) == '<' then
      advance; advance
      let suffix ← tagUri true false "" start
      if (← here) != '>' then
        fail (some "while scanning a tag") start "did not find the expected '>'"
      advance
      pure ("", suffix)
    else
      let h ← tagHandle false start
      if h.length > 1 && h.endsWith "!" then
        pure (h, ← tagUri false false "" start)
      else
        let suffix ← tagUri false false h start
        pure (if suffix.isEmpty then ("", "!") else ("!", suffix))
  let c ← here
  if !isBlankZ c then
    if (← get).flowLevel == 0 || c != ',' then
      fail (some "while scanning a tag") start "did not find expected whitespace or line break"
  enqueue (.tag handle suffix) start (← mark)

/-! ### Block scalars -/

def indentSpaces (indent : Nat) : Nat → ScanM Unit
  | 0 => throw Fault.exhausted
  | fuel + 1 => do
    if (indent == 0 || (← mark).column < indent) && (← here) == ' ' then
      advance
      indentSpaces indent fuel

def blockBreaks (start : Mark) (parentIndent : Int) : Nat → Nat → Nat → String → Mark →
    ScanM (Nat × String × Mark)
  | 0, _, _, _, _ => throw Fault.exhausted
  | fuel + 1, indent, maxIndent, breaks, stop => do
    indentSpaces indent (← budget)
    let column := (← mark).column
    let maxIndent := max maxIndent column
    if (indent == 0 || column < indent) && (← here) == '\t' then
      fail (some "while scanning a block scalar") start
        "found a tab character where an indentation space is expected"
    if isBreak (← here) then
      let breaks ← takeBreak breaks
      blockBreaks start parentIndent fuel indent maxIndent breaks (← mark)
    else
      let indent := if indent != 0 then indent
        else max (max maxIndent (parentIndent + 1).toNat) 1
      return (indent, breaks, stop)

def blockLines (literal : Bool) (start : Mark) (parentIndent : Int) (indent : Nat) :
    Nat → String → String → String → Bool → Mark → ScanM (String × String × String × Mark)
  | 0, _, _, _, _, _ => throw Fault.exhausted
  | fuel + 1, text, leadingBreak, trailing, leadingBlank, stop => do
    if (← mark).column == indent && !isEnd (← here) then
      let trailingBlank := isBlank (← here)
      let text :=
        if !literal && leadingBreak.startsWith "\n" && !leadingBlank && !trailingBlank then
          if trailing.isEmpty then text.push ' ' else text
        else text ++ leadingBreak
      let text := text ++ trailing
      let leadingBlank := isBlank (← here)
      let text ← takeWhile (fun c => !isBreakZ c) (← budget) text
      let leadingBreak ← takeBreak ""
      let (_, trailing, stop) ← blockBreaks start parentIndent (← budget) indent 0 "" (← mark)
      blockLines literal start parentIndent indent fuel text leadingBreak trailing leadingBlank stop
    else return (text, leadingBreak, trailing, stop)

def blockScalar (literal : Bool) : ScanM Unit := do
  let start ← mark
  advance
  let zeroFault : ScanM Unit := fail (some "while scanning a block scalar") start
    "found an indentation indicator equal to 0"
  let c ← here
  let (chomping, increment) ← if c == '+' || c == '-' then
      advance
      let d ← here
      if isDigit d then
        if d == '0' then zeroFault
        advance
        pure ((if c == '+' then 1 else -1 : Int), d.toNat - 48)
      else pure ((if c == '+' then 1 else -1 : Int), 0)
    else if isDigit c then
      if c == '0' then zeroFault
      advance
      let d ← here
      if d == '+' || d == '-' then
        advance
        pure ((if d == '+' then 1 else -1 : Int), c.toNat - 48)
      else pure (0, c.toNat - 48)
    else pure (0, 0)
  skipWhile isBlank (← budget)
  if (← here) == '#' then skipWhile (fun c => !isBreakZ c) (← budget)
  if !isBreakZ (← here) then
    fail (some "while scanning a block scalar") start
      "did not find expected comment or line break"
  if isBreak (← here) then advanceLine
  let parentIndent := (← get).indent
  let indent := if increment != 0 then
      (if parentIndent >= 0 then (parentIndent + increment).toNat else increment)
    else 0
  let (indent, trailing, stop) ← blockBreaks start parentIndent (← budget) indent 0 "" (← mark)
  let (text, leadingBreak, trailing, stop) ←
    blockLines literal start parentIndent indent (← budget) "" "" trailing false stop
  let text := if chomping != -1 then text ++ leadingBreak else text
  let text := if chomping == 1 then text ++ trailing else text
  enqueue (.scalar text (if literal then .literal else .folded)) start stop

/-! ### Quoted scalars -/

def simpleEscape (c : Char) : Option Char :=
  match c with
  | '0' => some (Char.ofNat 0)
  | 'a' => some (Char.ofNat 7)
  | 'b' => some (Char.ofNat 8)
  | 't' => some '\t'
  | '\t' => some '\t'
  | 'n' => some '\n'
  | 'v' => some (Char.ofNat 11)
  | 'f' => some (Char.ofNat 12)
  | 'r' => some '\r'
  | 'e' => some (Char.ofNat 27)
  | ' ' => some ' '
  | '"' => some '"'
  | '/' => some '/'
  | '\'' => some '\''
  | '\\' => some '\\'
  | 'N' => some (Char.ofNat 0x85)
  | '_' => some (Char.ofNat 0xA0)
  | 'L' => some (Char.ofNat 0x2028)
  | 'P' => some (Char.ofNat 0x2029)
  | _ => none

def hexCode (start : Mark) : Nat → Nat → Nat → ScanM Nat
  | 0, _, value => return value
  | n + 1, k, value => do
    let c ← look k
    if !isHex c then
      fail (some "while parsing a quoted scalar") start "did not find expected hexdecimal number"
    hexCode start n (k + 1) (value * 16 + hexValue c)

def quotedWord (single : Bool) (start : Mark) : Nat → String → ScanM (String × Bool)
  | 0, _ => throw Fault.exhausted
  | fuel + 1, acc => do
    let c ← look 0
    let d ← look 1
    if isBlankZ c then return (acc, false)
    else if single && c == '\'' && d == '\'' then
      advance; advance
      quotedWord single start fuel (acc.push '\'')
    else if c == (if single then '\'' else '"') then return (acc, false)
    else if !single && c == '\\' && isBreak d then
      advance
      advanceLine
      return (acc, true)
    else if !single && c == '\\' then
      let width := if d == 'x' then 2 else if d == 'u' then 4 else if d == 'U' then 8 else 0
      if width == 0 then
        match simpleEscape d with
        | some e =>
          advance; advance
          quotedWord single start fuel (acc.push e)
        | none =>
          fail (some "while parsing a quoted scalar") start "found unknown escape character"
      else
        advance; advance
        let value ← hexCode start width 0 0
        if (0xD800 ≤ value && value ≤ 0xDFFF) || value > 0x10FFFF then
          fail (some "while parsing a quoted scalar") start
            "found invalid Unicode character escape code"
        for _ in List.range width do advance
        quotedWord single start fuel (acc.push (Char.ofNat value))
    else quotedWord single start fuel (← take acc)

structure Gap where
  whitespaces : String
  leadingBreak : String
  trailingBreaks : String
  leadingBlanks : Bool

def Gap.empty : Gap := ⟨"", "", "", false⟩

def Gap.fold (g : Gap) : String :=
  if g.leadingBlanks then
    if g.leadingBreak.startsWith "\n" then
      if g.trailingBreaks.isEmpty then " " else g.trailingBreaks
    else g.leadingBreak ++ g.trailingBreaks
  else g.whitespaces

def quotedGap : Nat → Gap → ScanM Gap
  | 0, _ => throw Fault.exhausted
  | fuel + 1, g => do
    let c ← here
    if isBlank c then
      if g.leadingBlanks then advance; quotedGap fuel g
      else quotedGap fuel { g with whitespaces := ← take g.whitespaces }
    else if isBreak c then
      if g.leadingBlanks then quotedGap fuel { g with trailingBreaks := ← takeBreak g.trailingBreaks }
      else
        let b ← takeBreak ""
        quotedGap fuel { g with whitespaces := "", leadingBreak := b, leadingBlanks := true }
    else return g

def quotedBody (single : Bool) (start : Mark) : Nat → String → ScanM String
  | 0, _ => throw Fault.exhausted
  | fuel + 1, text => do
    let c0 ← look 0
    let c1 ← look 1
    let c2 ← look 2
    let c3 ← look 3
    if (← mark).column == 0 &&
        ((c0 == '-' && c1 == '-' && c2 == '-') || (c0 == '.' && c1 == '.' && c2 == '.')) &&
        isBlankZ c3 then
      fail (some "while scanning a quoted scalar") start "found unexpected document indicator"
    if isEnd c0 then
      fail (some "while scanning a quoted scalar") start "found unexpected end of stream"
    let (text, escapedBreak) ← quotedWord single start (← budget) text
    if (← here) == (if single then '\'' else '"') then return text
    let g ← quotedGap (← budget) { Gap.empty with leadingBlanks := escapedBreak }
    quotedBody single start fuel (text ++ g.fold)

def quotedScalar (single : Bool) : ScanM Unit := do
  let start ← mark
  advance
  let text ← quotedBody single start (← budget) ""
  advance
  enqueue (.scalar text (if single then .singleQuoted else .doubleQuoted)) start (← mark)

/-! ### Plain scalars -/

def plainWord (start : Mark) : Nat → String → Gap → Mark → ScanM (String × Gap × Mark)
  | 0, _, _, _ => throw Fault.exhausted
  | fuel + 1, text, g, stop => do
    let c ← look 0
    let d ← look 1
    if isBlankZ c then return (text, g, stop)
    let flow := (← get).flowLevel > 0
    if flow && c == ':' && oneOf d ",?[]\x7b\x7d" then
      fail (some "while scanning a plain scalar") start "found unexpected ':'"
    if (c == ':' && isBlankZ d) || (flow && oneOf c ",[]\x7b\x7d") then return (text, g, stop)
    let text := if g.leadingBlanks || !g.whitespaces.isEmpty then text ++ g.fold else text
    let text ← take text
    plainWord start fuel text Gap.empty (← mark)

def plainGap (start : Mark) (indent : Int) : Nat → Gap → ScanM Gap
  | 0, _ => throw Fault.exhausted
  | fuel + 1, g => do
    let c ← here
    if isBlank c then
      if g.leadingBlanks && ((← mark).column : Int) < indent && c == '\t' then
        fail (some "while scanning a plain scalar") start
          "found a tab character that violates indentation"
      if g.leadingBlanks then advance; plainGap start indent fuel g
      else plainGap start indent fuel { g with whitespaces := ← take g.whitespaces }
    else if isBreak c then
      if g.leadingBlanks then
        plainGap start indent fuel { g with trailingBreaks := ← takeBreak g.trailingBreaks }
      else
        let b ← takeBreak ""
        plainGap start indent fuel { g with whitespaces := "", leadingBreak := b, leadingBlanks := true }
    else return g

def plainBody (start : Mark) (indent : Int) : Nat → String → Gap → Mark →
    ScanM (String × Gap × Mark)
  | 0, _, _, _ => throw Fault.exhausted
  | fuel + 1, text, g, stop => do
    let c0 ← look 0
    let c1 ← look 1
    let c2 ← look 2
    let c3 ← look 3
    if (← mark).column == 0 &&
        ((c0 == '-' && c1 == '-' && c2 == '-') || (c0 == '.' && c1 == '.' && c2 == '.')) &&
        isBlankZ c3 then return (text, g, stop)
    if c0 == '#' then return (text, g, stop)
    let (text, g, stop) ← plainWord start (← budget) text g stop
    let c ← here
    if !(isBlank c || isBreak c) then return (text, g, stop)
    let g ← plainGap start indent (← budget) g
    if (← get).flowLevel == 0 && ((← mark).column : Int) < indent then return (text, g, stop)
    plainBody start indent fuel text g stop

def plainScalar : ScanM Unit := do
  let start ← mark
  let indent := (← get).indent + 1
  let (text, g, stop) ← plainBody start indent (← budget) "" Gap.empty start
  enqueue (.scalar text .plain) start stop
  if g.leadingBlanks then allowKey true

/-! ### Fetching tokens -/

def streamStart : ScanM Unit := do
  modify fun s => { s with indent := -1, simpleKeys := SimpleKey.none :: s.simpleKeys }
  modify fun s => { s with simpleKeyAllowed := true, streamStartProduced := true }
  let m ← mark
  enqueue .streamStart m m

def streamEnd : ScanM Unit := do
  let s ← get
  if s.mark.column != 0 then
    set { s with mark := { s.mark with column := 0, line := s.mark.line + 1 } }
  unrollIndent (-1)
  removeSimpleKey
  allowKey false
  let m ← mark
  enqueue .streamEnd m m

def documentIndicator (kind : TokenKind) : ScanM Unit := do
  unrollIndent (-1)
  removeSimpleKey
  allowKey false
  let start ← mark
  advance; advance; advance
  enqueue kind start (← mark)

def single (kind : TokenKind) : ScanM Unit := do
  let start ← mark
  advance
  enqueue kind start (← mark)

def flowCollectionStart (kind : TokenKind) : ScanM Unit := do
  saveSimpleKey
  increaseFlowLevel
  allowKey true
  single kind

def flowCollectionEnd (kind : TokenKind) : ScanM Unit := do
  removeSimpleKey
  decreaseFlowLevel
  allowKey false
  single kind

def flowEntry : ScanM Unit := do
  removeSimpleKey
  allowKey true
  single .flowEntry

def blockEntry : ScanM Unit := do
  let s ← get
  if s.flowLevel == 0 then
    if !s.simpleKeyAllowed then
      fail none s.mark "block sequence entries are not allowed in this context"
    rollIndent s.mark.column none .blockSequenceStart s.mark
  removeSimpleKey
  allowKey true
  single .blockEntry

def complexKey : ScanM Unit := do
  let s ← get
  if s.flowLevel == 0 then
    if !s.simpleKeyAllowed then
      fail none s.mark "mapping keys are not allowed in this context"
    rollIndent s.mark.column none .blockMappingStart s.mark
  removeSimpleKey
  allowKey ((← get).flowLevel == 0)
  single .key

def value : ScanM Unit := do
  let s ← get
  match s.simpleKeys with
  | k :: rest =>
    if k.possible then
      let keyToken : Token := ⟨.key, k.mark, k.mark⟩
      set { s with tokens := s.tokens.insertIdx (k.tokenNumber - s.tokensParsed) keyToken }
      rollIndent k.mark.column (some k.tokenNumber) .blockMappingStart k.mark
      modify fun s => { s with simpleKeys := { k with possible := false } :: rest }
      allowKey false
    else
      if s.flowLevel == 0 then
        if !s.simpleKeyAllowed then
          fail none s.mark "mapping values are not allowed in this context"
        rollIndent s.mark.column none .blockMappingStart s.mark
      allowKey (s.flowLevel == 0)
  | [] => pure ()
  single .value

def nextToken : ScanM Unit := do
  if !(← get).streamStartProduced then return (← streamStart)
  toNextToken (← budget)
  staleSimpleKeys
  unrollIndent (← mark).column
  let s ← get
  let c ← look 0
  let c1 ← look 1
  let c2 ← look 2
  let c3 ← look 3
  let column := s.mark.column
  let flow := s.flowLevel > 0
  if isEnd c then streamEnd
  else if column == 0 && c == '%' then
    unrollIndent (-1)
    removeSimpleKey
    allowKey false
    directive
  else if column == 0 && c == '-' && c1 == '-' && c2 == '-' && isBlankZ c3 then
    documentIndicator .documentStart
  else if column == 0 && c == '.' && c1 == '.' && c2 == '.' && isBlankZ c3 then
    documentIndicator .documentEnd
  else if c == '[' then flowCollectionStart .flowSequenceStart
  else if c == '{' then flowCollectionStart .flowMappingStart
  else if c == ']' then flowCollectionEnd .flowSequenceEnd
  else if c == '}' then flowCollectionEnd .flowMappingEnd
  else if c == ',' then flowEntry
  else if c == '-' && isBlankZ c1 then blockEntry
  else if c == '?' && (flow || isBlankZ c1) then complexKey
  else if c == ':' && (flow || isBlankZ c1) then value
  else if c == '*' then
    saveSimpleKey
    allowKey false
    anchor true
  else if c == '&' then
    saveSimpleKey
    allowKey false
    anchor false
  else if c == '!' then
    saveSimpleKey
    allowKey false
    tag
  else if c == '|' && !flow then
    removeSimpleKey
    allowKey true
    blockScalar true
  else if c == '>' && !flow then
    removeSimpleKey
    allowKey true
    blockScalar false
  else if c == '\'' then
    saveSimpleKey
    allowKey false
    quotedScalar true
  else if c == '"' then
    saveSimpleKey
    allowKey false
    quotedScalar false
  else if !(isBlankZ c || oneOf c "-?:,[]\x7b\x7d#&*!|>'\"%@\x60") || (c == '-' && !isBlank c1) ||
      (!flow && (c == '?' || c == ':') && !isBlankZ c1) then
    saveSimpleKey
    allowKey false
    plainScalar
  else
    fail (some "while scanning for the next token") s.mark
      "found character that cannot start any token"

def headMayBeKey : ScanM Bool := do
  let s ← get
  return s.simpleKeys.any fun k => k.possible && k.tokenNumber == s.tokensParsed

def fetchMore : Nat → ScanM Unit
  | 0 => throw Fault.exhausted
  | fuel + 1 => do
    let need ← if (← get).tokens.isEmpty then pure true
      else do
        staleSimpleKeys
        headMayBeKey
    if need then
      nextToken
      fetchMore fuel
    else modify fun s => { s with tokenAvailable := true }

end Scan

end Provisioner.Yaml
