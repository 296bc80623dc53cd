import Provisioner.Yaml.Scanner

/-! The YAML parser: it turns tokens into events, one event per step, following the grammar
of streams, documents, block and flow collections and nodes. A stack of phases says what
comes after the node being read; a stack of marks remembers where each open collection began,
for the faults that name it. Tag handles resolve through the document's `%TAG` directives and
the two defaults, `!` and `!!`. -/

namespace Provisioner.Yaml

inductive EventKind where
  | streamStart
  | streamEnd
  | documentStart (implicit : Bool)
  | documentEnd (implicit : Bool)
  | alias (name : String)
  | scalar (anchor tag : Option String) (text : String) (style : ScalarStyle)
      (plainImplicit quotedImplicit : Bool)
  | sequenceStart (anchor tag : Option String) (implicit flow : Bool)
  | sequenceEnd
  | mappingStart (anchor tag : Option String) (implicit flow : Bool)
  | mappingEnd
  deriving DecidableEq, Repr

structure Event where
  kind : EventKind
  start : Mark
  stop : Mark
  deriving Repr

inductive Phase where
  | streamStart
  | implicitDocumentStart
  | documentStart
  | documentContent
  | documentEnd
  | blockNode
  | blockNodeOrIndentlessSequence
  | flowNode
  | blockSequenceFirstEntry
  | blockSequenceEntry
  | indentlessSequenceEntry
  | blockMappingFirstKey
  | blockMappingKey
  | blockMappingValue
  | flowSequenceFirstEntry
  | flowSequenceEntry
  | flowSequenceEntryMappingKey
  | flowSequenceEntryMappingValue
  | flowSequenceEntryMappingEnd
  | flowMappingFirstKey
  | flowMappingKey
  | flowMappingValue
  | flowMappingEmptyValue
  | finished
  deriving DecidableEq, Repr

structure Parser where
  scanner : Scanner
  phase : Phase
  phases : List Phase
  marks : List Mark
  tagDirectives : List (String × String)

def Parser.ofText (s : String) : Parser := ⟨Scanner.ofText s, .streamStart, [], [], []⟩

abbrev ParseM := StateT Parser (Except Fault)

namespace TokenKind

def isDirective : TokenKind → Bool
  | .versionDirective .. | .tagDirective .. => true
  | _ => false

end TokenKind

def defaultTagDirectives : List (String × String) := [("!", "!"), ("!!", "tag:yaml.org,2002:")]

namespace Parse

def peek : ParseM Token := do
  let p ← get
  let sc ← if p.scanner.tokenAvailable then pure p.scanner else
    match (Scan.fetchMore (2 * p.scanner.input.size + 16)).run p.scanner with
    | .ok ((), sc) => pure sc
    | .error f => throw f
  set { p with scanner := sc }
  match sc.tokens.head? with
  | some t => return t
  | none => throw Fault.exhausted

def skipToken : ParseM Unit :=
  modify fun p =>
    let sc := p.scanner
    match sc.tokens with
    | t :: rest =>
      let sc' := { sc with tokenAvailable := false, tokensParsed := sc.tokensParsed + 1 }
      { p with scanner := { sc' with streamEndProduced := t.kind == .streamEnd, tokens := rest } }
    | [] => p

def goTo (ph : Phase) : ParseM Unit := modify fun p => { p with phase := ph }

def pushPhase (ph : Phase) : ParseM Unit := modify fun p => { p with phases := ph :: p.phases }

def popPhase : ParseM Unit :=
  modify fun p => match p.phases with
    | ph :: rest => { p with phase := ph, phases := rest }
    | [] => { p with phase := .finished }

def pushMark (m : Mark) : ParseM Unit := modify fun p => { p with marks := m :: p.marks }

def popMark : ParseM Mark := do
  let p ← get
  match p.marks with
  | m :: rest =>
    set { p with marks := rest }
    return m
  | [] => return Mark.origin

def fault {α : Type} (problem : String) (at_ : Mark) : ParseM α := throw (Fault.at problem at_ none)

def faultIn {α : Type} (context : String) (contextMark : Mark) (problem : String) (at_ : Mark) :
    ParseM α :=
  throw (Fault.at problem at_ (some (context, contextMark)))

def emptyScalar (m : Mark) : Event := ⟨.scalar none none "" .plain true false, m, m⟩

def addTagDirective (d : String × String) (allowDuplicates : Bool) (at_ : Mark) :
    ParseM Unit := do
  let p ← get
  if p.tagDirectives.any (·.1 == d.1) then
    if allowDuplicates then return
    fault "found duplicate %TAG directive" at_
  set { p with tagDirectives := p.tagDirectives ++ [d] }

def directives : Nat → Bool → ParseM Unit
  | 0, _ => throw Fault.exhausted
  | fuel + 1, versionSeen => do
    let t ← peek
    match t.kind with
    | .versionDirective major minor =>
      if versionSeen then fault "found duplicate %YAML directive" t.start
      if major != 1 || (minor != 1 && minor != 2) then
        fault "found incompatible YAML document" t.start
      skipToken
      directives fuel true
    | .tagDirective handle pfx =>
      addTagDirective (handle, pfx) false t.start
      skipToken
      directives fuel versionSeen
    | _ =>
      for d in defaultTagDirectives do addTagDirective d true t.start

def budget : ParseM Nat := return 2 * (← get).scanner.input.size + 16

def skipDocumentEnds : Nat → ParseM Token
  | 0 => throw Fault.exhausted
  | fuel + 1 => do
    let t ← peek
    if t.kind == .documentEnd then
      skipToken
      skipDocumentEnds fuel
    else return t

def streamStart : ParseM Event := do
  let t ← peek
  if t.kind != .streamStart then fault "did not find expected <stream-start>" t.start
  goTo .implicitDocumentStart
  skipToken
  return ⟨.streamStart, t.start, t.start⟩

def documentStart (implicit : Bool) : ParseM Event := do
  let t ← if implicit then peek else skipDocumentEnds (← budget)
  if implicit && !t.kind.isDirective && t.kind != .documentStart && t.kind != .streamEnd then
    directives (← budget) false
    pushPhase .documentEnd
    goTo .blockNode
    return ⟨.documentStart true, t.start, t.start⟩
  else if t.kind != .streamEnd then
    let start := t.start
    directives (← budget) false
    let t ← peek
    if t.kind != .documentStart then fault "did not find expected <document start>" t.start
    pushPhase .documentEnd
    goTo .documentContent
    skipToken
    return ⟨.documentStart false, start, t.stop⟩
  else
    goTo .finished
    skipToken
    return ⟨.streamEnd, t.start, t.stop⟩

def documentEnd : ParseM Event := do
  let t ← peek
  let (stop, implicit) ← if t.kind == .documentEnd then do
      skipToken
      pure (t.stop, false)
    else pure (t.start, true)
  modify fun p => { p with tagDirectives := [] }
  goTo .documentStart
  return ⟨.documentEnd implicit, t.start, stop⟩

def resolveTag (handle suffix : String) (start tagMark : Mark) : ParseM String := do
  if handle.isEmpty then return suffix
  match (← get).tagDirectives.find? (·.1 == handle) with
  | some (_, pfx) => return pfx ++ suffix
  | none => faultIn "while parsing a node" start "found undefined tag handle" tagMark

def properties : ParseM (Option String × Option (String × String × Mark) × Mark × Mark × Token) := do
  let t ← peek
  match t.kind with
  | .anchor a =>
    skipToken
    let t2 ← peek
    match t2.kind with
    | .tag h s =>
      skipToken
      return (some a, some (h, s, t2.start), t.start, t2.stop, ← peek)
    | _ => return (some a, none, t.start, t.stop, t2)
  | .tag h s =>
    skipToken
    let t2 ← peek
    match t2.kind with
    | .anchor a =>
      skipToken
      return (some a, some (h, s, t.start), t.start, t2.stop, ← peek)
    | _ => return (none, some (h, s, t.start), t.start, t.stop, t2)
  | _ => return (none, none, t.start, t.start, t)

def node (block indentless : Bool) : ParseM Event := do
  let t ← peek
  if let .alias name := t.kind then
    popPhase
    skipToken
    return ⟨.alias name, t.start, t.stop⟩
  let (anchor, rawTag, start, stop, t) ← properties
  let tag ← match rawTag with
    | some (h, s, m) => some <$> resolveTag h s start m
    | none => pure none
  let implicit := match tag with
    | none => true
    | some s => s.isEmpty
  if indentless && t.kind == .blockEntry then
    goTo .indentlessSequenceEntry
    return ⟨.sequenceStart anchor tag implicit false, start, t.stop⟩
  match t.kind with
  | .scalar text style =>
    let plainImplicit := (style == .plain && tag.isNone) || tag == some "!"
    let quotedImplicit := !plainImplicit && tag.isNone
    popPhase
    skipToken
    return ⟨.scalar anchor tag text style plainImplicit quotedImplicit, start, t.stop⟩
  | .flowSequenceStart =>
    goTo .flowSequenceFirstEntry
    return ⟨.sequenceStart anchor tag implicit true, start, t.stop⟩
  | .flowMappingStart =>
    goTo .flowMappingFirstKey
    return ⟨.mappingStart anchor tag implicit true, start, t.stop⟩
  | .blockSequenceStart =>
    if block then
      goTo .blockSequenceFirstEntry
      return ⟨.sequenceStart anchor tag implicit false, start, t.stop⟩
    else missing anchor tag implicit start stop t
  | .blockMappingStart =>
    if block then
      goTo .blockMappingFirstKey
      return ⟨.mappingStart anchor tag implicit false, start, t.stop⟩
    else missing anchor tag implicit start stop t
  | _ => missing anchor tag implicit start stop t
where
  missing (anchor tag : Option String) (implicit : Bool) (start stop : Mark) (t : Token) :
      ParseM Event := do
    if anchor.isSome || tag.isSome then
      popPhase
      return ⟨.scalar anchor tag "" .plain implicit false, start, stop⟩
    faultIn (if block then "while parsing a block node" else "while parsing a flow node") start
      "did not find expected node content" t.start

def documentContent : ParseM Event := do
  let t ← peek
  if t.kind.isDirective || t.kind == .documentStart || t.kind == .documentEnd ||
      t.kind == .streamEnd then
    popPhase
    return emptyScalar t.start
  node true false

def openCollection : ParseM Unit := do
  let t ← peek
  pushMark t.start
  skipToken

def blockSequenceEntry (first : Bool) : ParseM Event := do
  if first then openCollection
  let t ← peek
  if t.kind == .blockEntry then
    skipToken
    let t2 ← peek
    if t2.kind != .blockEntry && t2.kind != .blockEnd then
      pushPhase .blockSequenceEntry
      node true false
    else
      goTo .blockSequenceEntry
      return emptyScalar t.stop
  else if t.kind == .blockEnd then
    popPhase
    let _ ← popMark
    skipToken
    return ⟨.sequenceEnd, t.start, t.stop⟩
  else
    faultIn "while parsing a block collection" (← popMark) "did not find expected '-' indicator"
      t.start

def indentlessSequenceEntry : ParseM Event := do
  let t ← peek
  if t.kind == .blockEntry then
    skipToken
    let t2 ← peek
    if t2.kind != .blockEntry && t2.kind != .key && t2.kind != .value && t2.kind != .blockEnd then
      pushPhase .indentlessSequenceEntry
      node true false
    else
      goTo .indentlessSequenceEntry
      return emptyScalar t.stop
  else
    popPhase
    return ⟨.sequenceEnd, t.start, t.start⟩

def blockMappingKey (first : Bool) : ParseM Event := do
  if first then openCollection
  let t ← peek
  if t.kind == .key then
    skipToken
    let t2 ← peek
    if t2.kind != .key && t2.kind != .value && t2.kind != .blockEnd then
      pushPhase .blockMappingValue
      node true true
    else
      goTo .blockMappingValue
      return emptyScalar t.stop
  else if t.kind == .blockEnd then
    popPhase
    let _ ← popMark
    skipToken
    return ⟨.mappingEnd, t.start, t.stop⟩
  else
    faultIn "while parsing a block mapping" (← popMark) "did not find expected key" t.start

def blockMappingValue : ParseM Event := do
  let t ← peek
  if t.kind == .value then
    skipToken
    let t2 ← peek
    if t2.kind != .key && t2.kind != .value && t2.kind != .blockEnd then
      pushPhase .blockMappingKey
      node true true
    else
      goTo .blockMappingKey
      return emptyScalar t.stop
  else
    goTo .blockMappingKey
    return emptyScalar t.start

def flowSequenceEntry (first : Bool) : ParseM Event := do
  if first then openCollection
  let t ← peek
  if t.kind != .flowSequenceEnd then
    let t ← if first then pure t
      else if t.kind == .flowEntry then do
        skipToken
        peek
      else
        faultIn "while parsing a flow sequence" (← popMark) "did not find expected ',' or ']'"
          t.start
    if t.kind == .key then
      goTo .flowSequenceEntryMappingKey
      skipToken
      return ⟨.mappingStart none none true true, t.start, t.stop⟩
    else if t.kind != .flowSequenceEnd then
      pushPhase .flowSequenceEntry
      return (← node false false)
    closeSequence t
  else closeSequence t
where
  closeSequence (t : Token) : ParseM Event := do
    popPhase
    let _ ← popMark
    skipToken
    return ⟨.sequenceEnd, t.start, t.stop⟩

def flowSequenceEntryMappingKey : ParseM Event := do
  let t ← peek
  if t.kind != .value && t.kind != .flowEntry && t.kind != .flowSequenceEnd then
    pushPhase .flowSequenceEntryMappingValue
    node false false
  else
    skipToken
    goTo .flowSequenceEntryMappingValue
    return emptyScalar t.stop

def flowSequenceEntryMappingValue : ParseM Event := do
  let t ← peek
  if t.kind == .value then
    skipToken
    let t2 ← peek
    if t2.kind != .flowEntry && t2.kind != .flowSequenceEnd then
      pushPhase .flowSequenceEntryMappingEnd
      node false false
    else
      goTo .flowSequenceEntryMappingEnd
      return emptyScalar t2.start
  else
    goTo .flowSequenceEntryMappingEnd
    return emptyScalar t.start

def flowSequenceEntryMappingEnd : ParseM Event := do
  let t ← peek
  goTo .flowSequenceEntry
  return ⟨.mappingEnd, t.start, t.start⟩

def flowMappingKey (first : Bool) : ParseM Event := do
  if first then openCollection
  let t ← peek
  if t.kind != .flowMappingEnd then
    let t ← if first then pure t
      else if t.kind == .flowEntry then do
        skipToken
        peek
      else
        faultIn "while parsing a flow mapping" (← popMark) "did not find expected ',' or '\x7d'"
          t.start
    if t.kind == .key then
      skipToken
      let t2 ← peek
      if t2.kind != .value && t2.kind != .flowEntry && t2.kind != .flowMappingEnd then
        pushPhase .flowMappingValue
        return (← node false false)
      else
        goTo .flowMappingValue
        return emptyScalar t2.start
    else if t.kind != .flowMappingEnd then
      pushPhase .flowMappingEmptyValue
      return (← node false false)
    closeMapping t
  else closeMapping t
where
  closeMapping (t : Token) : ParseM Event := do
    popPhase
    let _ ← popMark
    skipToken
    return ⟨.mappingEnd, t.start, t.stop⟩

def flowMappingValue (empty : Bool) : ParseM Event := do
  let t ← peek
  if empty then
    goTo .flowMappingKey
    return emptyScalar t.start
  if t.kind == .value then
    skipToken
    let t2 ← peek
    if t2.kind != .flowEntry && t2.kind != .flowMappingEnd then
      pushPhase .flowMappingKey
      return (← node false false)
    goTo .flowMappingKey
    return emptyScalar t2.start
  goTo .flowMappingKey
  return emptyScalar t.start

def event : Phase → ParseM Event
  | .streamStart => streamStart
  | .implicitDocumentStart => documentStart true
  | .documentStart => documentStart false
  | .documentContent => documentContent
  | .documentEnd => documentEnd
  | .blockNode => node true false
  | .blockNodeOrIndentlessSequence => node true true
  | .flowNode => node false false
  | .blockSequenceFirstEntry => blockSequenceEntry true
  | .blockSequenceEntry => blockSequenceEntry false
  | .indentlessSequenceEntry => indentlessSequenceEntry
  | .blockMappingFirstKey => blockMappingKey true
  | .blockMappingKey => blockMappingKey false
  | .blockMappingValue => blockMappingValue
  | .flowSequenceFirstEntry => flowSequenceEntry true
  | .flowSequenceEntry => flowSequenceEntry false
  | .flowSequenceEntryMappingKey => flowSequenceEntryMappingKey
  | .flowSequenceEntryMappingValue => flowSequenceEntryMappingValue
  | .flowSequenceEntryMappingEnd => flowSequenceEntryMappingEnd
  | .flowMappingFirstKey => flowMappingKey true
  | .flowMappingKey => flowMappingKey false
  | .flowMappingValue => flowMappingValue false
  | .flowMappingEmptyValue => flowMappingValue true
  | .finished => throw Fault.exhausted

end Parse

/-- The next event, or `none` once the stream has ended. -/
def Parser.next (p : Parser) : Except Fault (Option Event × Parser) :=
  if p.scanner.streamEndProduced || p.phase == .finished then .ok (none, p)
  else match (Parse.event p.phase).run p with
    | .ok (e, p) => .ok (some e, p)
    | .error f => .error f

end Provisioner.Yaml
