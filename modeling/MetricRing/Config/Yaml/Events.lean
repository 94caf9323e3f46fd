import MetricRing.Config.Yaml.Scanner
/-!
# YAML events

The second stage of reading YAML: tokens become events, a flat description of the document
tree. A stream is `stream start`, then for each document `document start`, one node and
`document end`, then `stream end`. A node is a scalar, an alias of an anchored node, or a
collection: `sequence start`, its items and `sequence end`, or `mapping start`, its keys and
values alternating and `mapping end`.

The parser is a state machine with a stack of states to return to, pulling tokens from the
scanner one at a time (`Parser.next`). Missing keys, values and sequence items become empty
scalars `~`; an anchored or tagged node without content is the empty text. Anchors are
numbered from 1 as they appear; an alias names the number of the latest anchor of its name,
and an alias of no anchor is an error.
-/

namespace MetricRing.Config.Yaml

/-- One event of a YAML stream; scalars and collection starts carry their anchor number (0
for none), scalars their style and tag. -/
inductive Event where
  | streamStart
  | streamEnd
  | documentStart
  | documentEnd
  | alias (id : Nat)
  | scalar (text : String) (style : ScalarStyle) (anchor : Nat) (tag : Option (String × String))
  | sequenceStart (anchor : Nat)
  | sequenceEnd
  | mappingStart (anchor : Nat)
  | mappingEnd
deriving DecidableEq, Repr

/-- The empty scalar standing for a missing node. -/
def Event.emptyScalar : Event := .scalar "~" .plain 0 none

/-- Where the parser is in the grammar. -/
inductive ParseState where
  | streamStart
  | implicitDocumentStart
  | documentStart
  | documentContent
  | documentEnd
  | blockNode
  | blockSequenceFirstEntry
  | blockSequenceEntry
  | indentlessSequenceEntry
  | blockMappingFirstKey
  | blockMappingKey
  | blockMappingValue
  | flowSequenceFirstEntry
  | flowSequenceEntry
  | flowSequenceEntryMappingKey
  | flowSequenceEntryMappingValue
  | flowSequenceEntryMappingEnd
  | flowMappingFirstKey
  | flowMappingKey
  | flowMappingValue
  | flowMappingEmptyValue
  | finished
deriving DecidableEq, Repr

/-- The parser: its scanner, the states to return to (innermost first), its state, the token
looked at but not yet taken, the anchors of the current document and the next anchor
number. -/
structure Parser where
  scanner : Scanner
  states : List ParseState
  state : ParseState
  token : Option Token
  anchors : List (String × Nat)
  anchorId : Nat

/-- A parser at the start of a text. -/
def Parser.start (text : String) : Parser :=
  ⟨Scanner.start text, [], .streamStart, none, [], 1⟩

/-- Parsing with an error. -/
abbrev ParseM := StateT Parser (Except ScanError)

namespace Parse

/-- The next token, without taking it. -/
def peekToken : ParseM Token := do
  let p ← get
  match p.token with
  | some t => pure t
  | none =>
    match Scanner.next.run p.scanner with
    | .error e => throw e
    | .ok (none, sc) => throw ⟨sc.mark, "unexpected eof"⟩
    | .ok (some t, sc) =>
      set { p with scanner := sc, token := some t }
      pure t

/-- Takes the token looked at. -/
def skipToken : ParseM Unit := modify fun p => { p with token := none }

/-- Moves to a state. -/
def setState (st : ParseState) : ParseM Unit := modify fun p => { p with state := st }

/-- Remembers a state to return to. -/
def pushState (st : ParseState) : ParseM Unit := modify fun p => { p with states := st :: p.states }

/-- Returns to the last remembered state. -/
def popState : ParseM Unit := modify fun p => match p.states with
  | st :: rest => { p with state := st, states := rest }
  | [] => p

/-- A bound on the tokens of the text. -/
def budget : ParseM Nat := return (← get).scanner.input.size + 4

/-- Numbers a new anchor; a later anchor of the same name replaces an earlier one. -/
def registerAnchor (name : String) : ParseM Nat := do
  let p ← get
  set { p with anchors := (name, p.anchorId) :: p.anchors.filter (·.1 != name),
               anchorId := p.anchorId + 1 }
  pure p.anchorId

/-- The stream start. -/
def streamStart : ParseM (Event × Mark) := do
  let t ← peekToken
  match t.kind with
  | .streamStart =>
    setState .implicitDocumentStart
    skipToken
    pure (.streamStart, t.mark)
  | _ => throw ⟨t.mark, "did not find expected <stream-start>"⟩

/-- Takes the directives before a document. -/
def processDirectives : ParseM Unit := do
  for _ in [0:(← budget)] do
    match (← peekToken).kind with
    | .versionDirective _ _ | .tagDirective _ _ => skipToken
    | _ => break

/-- A document started by `---`. -/
def explicitDocumentStart : ParseM (Event × Mark) := do
  processDirectives
  let t ← peekToken
  match t.kind with
  | .documentStart =>
    pushState .documentEnd
    setState .documentContent
    skipToken
    pure (.documentStart, t.mark)
  | _ => throw ⟨t.mark, "did not find expected <document start>"⟩

/-- The start of a document, or the end of the stream. The first document needs no `---`. -/
def documentStart (implicit : Bool) : ParseM (Event × Mark) := do
  if !implicit then
    for _ in [0:(← budget)] do
      if (← peekToken).kind == .documentEnd then skipToken else break
  let t ← peekToken
  match t.kind with
  | .streamEnd =>
    setState .finished
    skipToken
    pure (.streamEnd, t.mark)
  | .versionDirective _ _ | .tagDirective _ _ | .documentStart => explicitDocumentStart
  | _ =>
    if implicit then
      processDirectives
      pushState .documentEnd
      setState .blockNode
      pure (.documentStart, t.mark)
    else explicitDocumentStart

/-- Reads a node: an alias, or a scalar or collection with an optional anchor and tag. In a
block, a collection may open; with `indentless`, a `- ` entry opens a sequence at the
indentation of the key it belongs to. -/
def parseNode (block indentless : Bool) : ParseM (Event × Mark) := do
  let mut anchorId := 0
  let mut tag : Option (String × String) := none
  let t ← peekToken
  match t.kind with
  | .alias name =>
    popState
    skipToken
    match (← get).anchors.lookup name with
    | some id => return (.alias id, t.mark)
    | none => throw ⟨t.mark, "while parsing node, found unknown anchor"⟩
  | .anchor name =>
    skipToken
    anchorId ← registerAnchor name
    match (← peekToken).kind with
    | .tag h s =>
      skipToken
      tag := some (h, s)
    | _ => pure ()
  | .tag h s =>
    skipToken
    tag := some (h, s)
    match (← peekToken).kind with
    | .anchor name =>
      skipToken
      anchorId ← registerAnchor name
    | _ => pure ()
  | _ => pure ()
  let t ← peekToken
  if indentless && t.kind == .blockEntry then
    setState .indentlessSequenceEntry
    return (.sequenceStart anchorId, t.mark)
  match t.kind with
  | .scalar style v =>
    popState
    skipToken
    pure (.scalar v style anchorId tag, t.mark)
  | .flowSequenceStart =>
    setState .flowSequenceFirstEntry
    pure (.sequenceStart anchorId, t.mark)
  | .flowMappingStart =>
    setState .flowMappingFirstKey
    pure (.mappingStart anchorId, t.mark)
  | kind =>
    if block && kind == .blockSequenceStart then
      setState .blockSequenceFirstEntry
      pure (.sequenceStart anchorId, t.mark)
    else if block && kind == .blockMappingStart then
      setState .blockMappingFirstKey
      pure (.mappingStart anchorId, t.mark)
    else if tag.isSome || anchorId > 0 then
      popState
      pure (.scalar "" .plain anchorId tag, t.mark)
    else throw ⟨t.mark, "while parsing a node, did not find expected node content"⟩

/-- The content of an explicit document; an empty one is an empty scalar. -/
def documentContent : ParseM (Event × Mark) := do
  let t ← peekToken
  match t.kind with
  | .versionDirective _ _ | .tagDirective _ _ | .documentStart | .documentEnd | .streamEnd =>
    popState
    pure (Event.emptyScalar, t.mark)
  | _ => parseNode true false

/-- The end of a document, with or without `...`. -/
def documentEnd : ParseM (Event × Mark) := do
  let t ← peekToken
  if t.kind == .documentEnd then skipToken
  setState .documentStart
  pure (.documentEnd, t.mark)

/-- A key of a block mapping, or its end. -/
def blockMappingKey (first : Bool) : ParseM (Event × Mark) := do
  if first then
    let _ ← peekToken
    skipToken
  let t ← peekToken
  match t.kind with
  | .key =>
    skipToken
    let t2 ← peekToken
    match t2.kind with
    | .key | .value | .blockEnd =>
      setState .blockMappingValue
      pure (Event.emptyScalar, t2.mark)
    | _ =>
      pushState .blockMappingValue
      parseNode true true
  | .value =>
    setState .blockMappingValue
    pure (Event.emptyScalar, t.mark)
  | .blockEnd =>
    popState
    skipToken
    pure (.mappingEnd, t.mark)
  | _ => throw ⟨t.mark, "while parsing a block mapping, did not find expected key"⟩

/-- A value of a block mapping. -/
def blockMappingValue : ParseM (Event × Mark) := do
  let t ← peekToken
  match t.kind with
  | .value =>
    skipToken
    let t2 ← peekToken
    match t2.kind with
    | .key | .value | .blockEnd =>
      setState .blockMappingKey
      pure (Event.emptyScalar, t2.mark)
    | _ =>
      pushState .blockMappingKey
      parseNode true true
  | _ =>
    setState .blockMappingKey
    pure (Event.emptyScalar, t.mark)

/-- A key of a flow mapping, or its end; entries after the first follow a `,`. -/
def flowMappingKey (first : Bool) : ParseM (Event × Mark) := do
  if first then
    let _ ← peekToken
    skipToken
  let t ← peekToken
  match t.kind with
  | .flowMappingEnd =>
    popState
    skipToken
    pure (.mappingEnd, t.mark)
  | _ =>
    if !first then
      match t.kind with
      | .flowEntry => skipToken
      | _ => throw ⟨t.mark, "while parsing a flow mapping, did not find expected ',' or '\x7d'"⟩
    let t2 ← peekToken
    match t2.kind with
    | .key =>
      skipToken
      let t3 ← peekToken
      match t3.kind with
      | .value | .flowEntry | .flowMappingEnd =>
        setState .flowMappingValue
        pure (Event.emptyScalar, t3.mark)
      | _ =>
        pushState .flowMappingValue
        parseNode false false
    | .value =>
      setState .flowMappingValue
      pure (Event.emptyScalar, t2.mark)
    | .flowMappingEnd =>
      popState
      skipToken
      pure (.mappingEnd, t.mark)
    | _ =>
      pushState .flowMappingEmptyValue
      parseNode false false

/-- A value of a flow mapping; `empty` when the key had no `:`. -/
def flowMappingValue (empty : Bool) : ParseM (Event × Mark) := do
  let t ← peekToken
  if empty then
    setState .flowMappingKey
    return (Event.emptyScalar, t.mark)
  match t.kind with
  | .value =>
    skipToken
    match (← peekToken).kind with
    | .flowEntry | .flowMappingEnd =>
      setState .flowMappingKey
      pure (Event.emptyScalar, t.mark)
    | _ =>
      pushState .flowMappingKey
      parseNode false false
  | _ =>
    setState .flowMappingKey
    pure (Event.emptyScalar, t.mark)

/-- An item of a flow sequence, or its end; items after the first follow a `,`. A key inside
a flow sequence opens a one-entry mapping. -/
def flowSequenceEntry (first : Bool) : ParseM (Event × Mark) := do
  if first then
    let _ ← peekToken
    skipToken
  let t ← peekToken
  match t.kind with
  | .flowSequenceEnd =>
    popState
    skipToken
    return (.sequenceEnd, t.mark)
  | .flowEntry => if !first then skipToken
  | _ => if !first then throw ⟨t.mark, "while parsing a flow sequence, expected ',' or ']'"⟩
  let t2 ← peekToken
  match t2.kind with
  | .flowSequenceEnd =>
    popState
    skipToken
    pure (.sequenceEnd, t2.mark)
  | .key =>
    setState .flowSequenceEntryMappingKey
    skipToken
    pure (.mappingStart 0, t2.mark)
  | _ =>
    pushState .flowSequenceEntry
    parseNode false false

/-- An item of a sequence written at its key's indentation, or its end. -/
def indentlessSequenceEntry : ParseM (Event × Mark) := do
  let t ← peekToken
  match t.kind with
  | .blockEntry =>
    skipToken
    let t2 ← peekToken
    match t2.kind with
    | .blockEntry | .key | .value | .blockEnd =>
      setState .indentlessSequenceEntry
      pure (Event.emptyScalar, t2.mark)
    | _ =>
      pushState .indentlessSequenceEntry
      parseNode true false
  | _ =>
    popState
    pure (.sequenceEnd, t.mark)

/-- An item of a block sequence, or its end. -/
def blockSequenceEntry (first : Bool) : ParseM (Event × Mark) := do
  if first then
    let _ ← peekToken
    skipToken
  let t ← peekToken
  match t.kind with
  | .blockEnd =>
    popState
    skipToken
    pure (.sequenceEnd, t.mark)
  | .blockEntry =>
    skipToken
    let t2 ← peekToken
    match t2.kind with
    | .blockEntry | .blockEnd =>
      setState .blockSequenceEntry
      pure (Event.emptyScalar, t2.mark)
    | _ =>
      pushState .blockSequenceEntry
      parseNode true false
  | _ => throw ⟨t.mark, "while parsing a block collection, did not find expected '-' indicator"⟩

/-- The key of a one-entry mapping inside a flow sequence. -/
def flowSequenceEntryMappingKey : ParseM (Event × Mark) := do
  let t ← peekToken
  match t.kind with
  | .value | .flowEntry | .flowSequenceEnd =>
    skipToken
    setState .flowSequenceEntryMappingValue
    pure (Event.emptyScalar, t.mark)
  | _ =>
    pushState .flowSequenceEntryMappingValue
    parseNode false false

/-- The value of a one-entry mapping inside a flow sequence. -/
def flowSequenceEntryMappingValue : ParseM (Event × Mark) := do
  let t ← peekToken
  match t.kind with
  | .value =>
    skipToken
    setState .flowSequenceEntryMappingValue
    let t2 ← peekToken
    match t2.kind with
    | .flowEntry | .flowSequenceEnd =>
      setState .flowSequenceEntryMappingEnd
      pure (Event.emptyScalar, t2.mark)
    | _ =>
      pushState .flowSequenceEntryMappingEnd
      parseNode false false
  | _ =>
    setState .flowSequenceEntryMappingEnd
    pure (Event.emptyScalar, t.mark)

/-- The end of a one-entry mapping inside a flow sequence. -/
def flowSequenceEntryMappingEnd : ParseM (Event × Mark) := do
  setState .flowSequenceEntry
  pure (.mappingEnd, (← get).scanner.mark)

end Parse

/-- The next event; after the stream end, the stream end again. -/
def Parser.next : ParseM (Event × Mark) := do
  let p ← get
  match p.state with
  | .finished => pure (.streamEnd, p.scanner.mark)
  | .streamStart => Parse.streamStart
  | .implicitDocumentStart => Parse.documentStart true
  | .documentStart => Parse.documentStart false
  | .documentContent => Parse.documentContent
  | .documentEnd => Parse.documentEnd
  | .blockNode => Parse.parseNode true false
  | .blockMappingFirstKey => Parse.blockMappingKey true
  | .blockMappingKey => Parse.blockMappingKey false
  | .blockMappingValue => Parse.blockMappingValue
  | .blockSequenceFirstEntry => Parse.blockSequenceEntry true
  | .blockSequenceEntry => Parse.blockSequenceEntry false
  | .flowSequenceFirstEntry => Parse.flowSequenceEntry true
  | .flowSequenceEntry => Parse.flowSequenceEntry false
  | .flowMappingFirstKey => Parse.flowMappingKey true
  | .flowMappingKey => Parse.flowMappingKey false
  | .flowMappingValue => Parse.flowMappingValue false
  | .flowMappingEmptyValue => Parse.flowMappingValue true
  | .indentlessSequenceEntry => Parse.indentlessSequenceEntry
  | .flowSequenceEntryMappingKey => Parse.flowSequenceEntryMappingKey
  | .flowSequenceEntryMappingValue => Parse.flowSequenceEntryMappingValue
  | .flowSequenceEntryMappingEnd => Parse.flowSequenceEntryMappingEnd

end MetricRing.Config.Yaml
