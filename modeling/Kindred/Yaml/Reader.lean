import Kindred.Yaml.Step

/-! Reading the document of a YAML text from its tokens. -/

namespace Kindred.Yaml

/-- How far the reader of a document has come. -/
structure Reading where
  dialect : Dialect
  tokens : List Token
  /-- The names of anchors with their numbers, the last one first. -/
  anchors : List (String × Nat) := []
  /-- The nodes with anchors, the last one first. -/
  anchored : List (Nat × Node) := []
  /-- The handles that tags may have. -/
  handles : List String := []

/-- A reader of parts of a document. -/
abbrev Reader := StateT Reading (Except SyntaxError)

namespace Reader

/-- The next token. At the end of the text there is none. -/
def peek : Reader (Option Token) := do
  return (← get).tokens.head?

/-- Passes over the next token. -/
def drop : Reader Unit :=
  modify fun reading => { reading with tokens := reading.tokens.drop 1 }

/-- The next token is one of those. -/
def isAt (tokens : List Token) : Reader Bool := do
  return (← peek).any tokens.contains

/-- The node where nothing is written. -/
def missing : Reader Node := do
  match (← get).dialect with
  | .strict => return .scalar { text := "" }
  | .lenient => return .scalar { text := "~" }

/-- Gives a number to an anchor. In a strict text, it is the count of the names so far. -/
def addAnchor (name : String) : Reader Nat := do
  let reading ← get
  let names := reading.anchors.map Prod.fst
  -- A name that comes again gets a new number, which the next new name then shares.
  let number := match reading.dialect with
    | .strict => names.eraseDups.length
    | .lenient => names.length
  set { reading with anchors := (name, number) :: reading.anchors }
  return number

/-- The node of an alias. A lenient text has a copy of the node there, if that is complete. -/
def aliasNode (name : String) : Reader Node := do
  let reading ← get
  match reading.anchors.lookup name, reading.dialect with
  | some number, .strict => return .alias number
  | some number, .lenient => return (reading.anchored.lookup number).getD (← missing)
  | none, _ => throw (.unknownAnchor name)

/-- Looks at the handle of a tag. -/
def checkTag (tag : Tag) : Reader Unit := do
  let reading ← get
  let known := ["", "!", "!!"] ++ reading.handles
  if reading.dialect = .strict ∧ !known.contains tag.handle then throw (.unknownHandle tag.handle)

/-- The anchor in front of a node. -/
def anchor? : Reader (Option Nat) := do
  match ← peek with
  | some (.anchor name) => do
    drop
    return some (← addAnchor name)
  | _ => return none

/-- The tag in front of a node. -/
def tag? : Reader (Option Tag) := do
  match ← peek with
  | some (.tag tag) => do
    drop
    checkTag tag
    return some tag
  | _ => return none

/-- The anchor and the tag in front of a node, in any order. -/
def properties : Reader (Option Nat × Option Tag) := do
  match ← anchor? with
  | some anchor => do
    return (some anchor, ← tag?)
  | none => do
    match ← tag? with
    | some tag => do
      return (← anchor?, some tag)
    | none => return (none, none)

mutual

/-- Reads a node: in block style or not, and maybe a sequence as far to the left as the key above it. The first
number bounds how many steps the reader may take. -/
def node : Nat → Bool → Bool → Reader Node
  | 0, _, _ => throw .tooDeep
  | fuel + 1, isBlock, mayBeFlush => do
    match ← peek with
    | some (.alias name) => do
      drop
      aliasNode name
    | _ => do
      let (anchor, tag) ← properties
      let node ← content fuel isBlock mayBeFlush (anchor.isSome || tag.isSome) tag
      match anchor with
      | some number => do
        modify fun reading => { reading with anchored := (number, node) :: reading.anchored }
        return node
      | none => return node

/-- Reads a node after its properties. With properties, it need not be written. -/
def content : Nat → Bool → Bool → Bool → Option Tag → Reader Node
  | 0, _, _, _, _ => throw .tooDeep
  | fuel + 1, isBlock, mayBeFlush, hasProperties, tag => do
    match ← peek with
    | some (.scalar style text) => do
      drop
      return .scalar { text, style, tag }
    | some .flowSequenceStart => do
      drop
      flowItems fuel true []
    | some .flowMappingStart => do
      drop
      flowEntries fuel true []
    | token =>
      -- The marks of block style begin a node only outside brackets.
      if token = some .blockEntry ∧ mayBeFlush then flushItems fuel []
      else if token = some .blockSequenceStart ∧ isBlock then do
        drop
        blockItems fuel []
      else if token = some .blockMappingStart ∧ isBlock then do
        drop
        blockEntries fuel []
      else if hasProperties then return .scalar { text := "", tag }
      else throw .misplaced

/-- Reads a node, unless one of the given tokens stands there. -/
def nodeUnless : Nat → List Token → Bool → Bool → Reader Node
  | 0, _, _, _ => throw .tooDeep
  | fuel + 1, ends, isBlock, mayBeFlush => do
    if ← isAt ends then missing else node fuel isBlock mayBeFlush

/-- Reads the items of a block sequence. -/
def blockItems : Nat → List Node → Reader Node
  | 0, _ => throw .tooDeep
  | fuel + 1, items => do
    match ← peek with
    | some .blockEntry => do
      drop
      blockItems fuel ((← nodeUnless fuel [.blockEntry, .blockEnd] true false) :: items)
    | some .blockEnd => do
      drop
      return .sequence items.reverse
    | _ => throw .misplaced

/-- Reads the items of a sequence that is as far to the left as the key above it. Nothing marks its end. -/
def flushItems : Nat → List Node → Reader Node
  | 0, _ => throw .tooDeep
  | fuel + 1, items => do
    if ← isAt [.blockEntry] then
      drop
      flushItems fuel ((← nodeUnless fuel [.blockEntry, .key, .value, .blockEnd] true false) :: items)
    else
      return .sequence items.reverse

/-- Reads the entries of a block mapping. -/
def blockEntries : Nat → List (Node × Node) → Reader Node
  | 0, _ => throw .tooDeep
  | fuel + 1, entries => do
    match ← peek, (← get).dialect with
    | some .key, _ => do
      drop
      let key ← nodeUnless fuel [.key, .value, .blockEnd] true true
      let value ← valueAfter fuel [.key, .value, .blockEnd] true
      blockEntries fuel ((key, value) :: entries)
    | some .value, .lenient => do
      let value ← valueAfter fuel [.key, .value, .blockEnd] true
      blockEntries fuel ((← missing, value) :: entries)
    | some .blockEnd, _ => do
      drop
      return .mapping entries.reverse
    | _, _ => throw .misplaced

/-- Reads the value of an entry, if there is a colon. -/
def valueAfter : Nat → List Token → Bool → Reader Node
  | 0, _, _ => throw .tooDeep
  | fuel + 1, ends, isBlock => do
    if ← isAt [.value] then
      drop
      nodeUnless fuel ends isBlock isBlock
    else
      missing

/-- Reads the items of a sequence in brackets. An entry of a mapping may stand for an item. -/
def flowItems : Nat → Bool → List Node → Reader Node
  | 0, _, _ => throw .tooDeep
  | fuel + 1, isFirst, items => do
    if !isFirst ∧ !(← isAt [.flowEntry, .flowSequenceEnd]) then throw .misplaced
    if !isFirst ∧ (← isAt [.flowEntry]) then drop
    match ← peek with
    | some .flowSequenceEnd => do
      drop
      return .sequence items.reverse
    | some .key => do
      drop
      let key ← flowItemKey fuel
      let value ← valueAfter fuel [.flowEntry, .flowSequenceEnd] false
      flowItems fuel false (.mapping [(key, value)] :: items)
    | _ => do
      flowItems fuel false ((← node fuel false false) :: items)

/-- Reads the key of an item. Where it is missing, the token in its place is lost. -/
def flowItemKey : Nat → Reader Node
  | 0 => throw .tooDeep
  | fuel + 1 => do
    if ← isAt [.value, .flowEntry, .flowSequenceEnd] then
      drop
      missing
    else
      node fuel false false

/-- Reads the entries of a mapping in brackets. -/
def flowEntries : Nat → Bool → List (Node × Node) → Reader Node
  | 0, _, _ => throw .tooDeep
  | fuel + 1, isFirst, entries => do
    if !isFirst ∧ !(← isAt [.flowEntry, .flowMappingEnd]) then throw .misplaced
    if !isFirst ∧ (← isAt [.flowEntry]) then drop
    match ← peek, (← get).dialect with
    | some .flowMappingEnd, _ => do
      drop
      return .mapping entries.reverse
    | some .key, _ => do
      drop
      let key ← nodeUnless fuel [.value, .flowEntry, .flowMappingEnd] false false
      let value ← valueAfter fuel [.flowEntry, .flowMappingEnd] false
      flowEntries fuel false ((key, value) :: entries)
    | some .value, .lenient => do
      let value ← valueAfter fuel [.flowEntry, .flowMappingEnd] false
      flowEntries fuel false ((← missing, value) :: entries)
    | _, _ => do
      let key ← node fuel false false
      flowEntries fuel false ((key, ← missing) :: entries)

end

/-- Reads the directives in front of a document. In a strict text, none may come twice. -/
def directives (hasVersion : Bool) : List Token → Reader Unit
  | .version :: rest => do
    if hasVersion ∧ (← get).dialect = .strict then throw .badDirective
    drop
    directives true rest
  | .handle name :: rest => do
    let reading ← get
    if reading.handles.contains name ∧ reading.dialect = .strict then throw .badDirective
    set { reading with handles := name :: reading.handles }
    drop
    directives hasVersion rest
  | _ => return ()

/-- The token is a directive. -/
def isDirective : Token → Bool
  | .version | .handle _ => true
  | _ => false

/-- Reads the outermost node of a document after its mark. It need not be written. -/
def rootAfterMark (fuel : Nat) : Reader Node := do
  match ← peek with
  | none | some .documentStart | some .documentEnd => missing
  | some token => if isDirective token then missing else node fuel true false

/-- Reads the outermost node of a document. Directives must be followed by a mark. -/
def root (fuel : Nat) : Reader Node := do
  let hasDirectives := (← peek).any isDirective
  directives false (← get).tokens
  if ← isAt [.documentStart] then
    drop
    rootAfterMark fuel
  else if hasDirectives then
    throw .badDirective
  else
    node fuel true false

/-- Reads a document. Nothing but marks of its end may follow. -/
def document (fuel : Nat) : Reader Document := do
  let root ← root fuel
  let reading ← get
  match reading.tokens.dropWhile (· = .documentEnd) with
  | [] => return { root, anchored := reading.anchored }
  | .documentStart :: _ => throw .secondDocument
  | _ => throw .misplaced

end Reader

/-- The document of a text. An empty text has none. -/
def Document.ofText? (dialect : Dialect) (text : String) : Except SyntaxError (Option Document) := do
  let tokens ← Token.ofText dialect text.toList
  if tokens.isEmpty then return none
  -- Of any four steps in a row, at least one passes over a token, so the bound is never met.
  let (document, _) ← (Reader.document (4 * (tokens.length + 1))).run { dialect, tokens }
  return some document

end Kindred.Yaml
