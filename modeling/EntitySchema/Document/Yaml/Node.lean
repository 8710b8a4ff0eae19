import EntitySchema.Document.Yaml.Tag
import EntitySchema.Document.Yaml.Token

/-!
# Nodes of YAML

`NodeGraph.ofTokens` reads the tokens of a text that holds at most one document into numbered nodes.
Every node has its tag. An alias is the number of the node it names, which may be a node around it.
-/

namespace EntitySchema.Document.Yaml

/-- A node of a document. The parts of a collection are given by their numbers. -/
inductive Node where
  | scalar (tag : Tag) (text : String)
  | sequence (tag : Tag) (items : List Nat)
  | mapping (tag : Tag) (entries : List (Nat × Nat))
deriving DecidableEq

def Node.tag : Node → Tag
  | .scalar tag _ => tag
  | .sequence tag _ => tag
  | .mapping tag _ => tag

def Node.withTag (tag : Tag) : Node → Node
  | .scalar _ text => .scalar tag text
  | .sequence _ items => .sequence tag items
  | .mapping _ entries => .mapping tag entries

/-- The nodes of a document, with the number of its root. -/
structure NodeGraph where
  nodes : Array Node
  root : Nat

/-! ## Tokens to nodes -/

/-- How many collections may be nested. -/
def nestingLimit : Nat := 490

/-- The place in the tokens, with the fault that ended them, the tag handles, the anchors with the
numbers of their nodes, the nodes so far, and how many collections stand around the place. A
collection has its number before its parts are read. -/
structure Parser where
  tokens : List Token
  fault : Option Fault
  handles : List (String × String)
  anchors : List (String × Nat)
  nodes : Array Node
  depth : Nat

namespace Parser

/-- The next token, or nothing at the end of the text. -/
def peek (p : Parser) : Except Fault (Option Token) :=
  match p.tokens, p.fault with
  | token :: _, _ => .ok (some token)
  | [], some fault => .error fault
  | [], none => .ok none

/-- The place after the next token. -/
def next (p : Parser) : Parser := { p with tokens := p.tokens.drop 1 }

def add (p : Parser) (node : Node) : Nat × Parser :=
  (p.nodes.size, { p with nodes := p.nodes.push node })

def addAs (p : Parser) (anchor : Option String) (node : Node) : Nat × Parser :=
  let (number, p) := p.add node
  match anchor with
  | some name => (number, { p with anchors := (name, number) :: p.anchors })
  | none => (number, p)

/-- Adds a collection whose parts come next. -/
def enter (p : Parser) (anchor : Option String) (node : Node) : Except Fault (Nat × Parser) :=
  if nestingLimit ≤ p.depth then .error .nesting
  else .ok ({ p with depth := p.depth + 1 }.addAs anchor node)

/-- Gives a collection its parts and leaves it. -/
def complete (p : Parser) (number : Nat) (node : Node) : Nat × Parser :=
  (number, { p with nodes := p.nodes.setIfInBounds number node, depth := p.depth - 1 })

/-- Adds a node for a place where nothing is written. -/
def addEmpty (p : Parser) : Nat × Parser := p.add (.scalar .null "")

/-- Reads the anchor and tag before a node, in either order. -/
def readProperties (p : Parser) : Except Fault ((Option String × Option TagName) × Parser) := do
  match ← p.peek with
  | some (.anchor name) =>
    match ← p.next.peek with
    | some (.tag tag) => return ((some name, some tag), p.next.next)
    | _ => return ((some name, none), p.next)
  | some (.tag tag) =>
    match ← p.next.peek with
    | some (.anchor name) => return ((some name, some tag), p.next.next)
    | _ => return ((none, some tag), p.next)
  | _ => return ((none, none), p)

def tagUri (p : Parser) (name : TagName) : Except Fault String :=
  match name.handle with
  | none => .ok name.suffix
  | some handle =>
    match p.handles.lookup handle with
    | some uri => .ok (uri ++ name.suffix)
    | none => .error .malformed

/-- Refuses an anchor that was used before. -/
def checkAnchor (p : Parser) (anchor : Option String) : Except Fault Unit :=
  match anchor with
  | some name => if (p.anchors.lookup name).isSome then .error .malformed else .ok ()
  | none => .ok ()

/-- The tag of a collection: the written one, or `standard` without one. -/
def collectionTag (uri : Option String) (standard : Tag) : Tag :=
  match uri with
  | none => standard
  | some uri => if uri == "!" then standard else .ofUri uri

def scalarTag (uri : Option String) (text : String) (isPlain : Bool) : Tag :=
  match uri with
  | none => if isPlain then .ofPlain text else .text
  | some uri => if uri == "!" then .ofPlain text else .ofUri uri

/-- Where a node may stand: in a block, in a block where a list needs no indentation, or in brackets. -/
inductive Place where
  | block
  | indentless
  | flow
deriving DecidableEq

mutual

def readNode : Nat → Place → Parser → Except Fault (Nat × Parser)
  | 0, _, _ => .error .malformed
  | fuel + 1, place, p => do
    if let some (.alias name) ← p.peek then
      match p.anchors.lookup name with
      | some number => return (number, p.next)
      | none => throw .malformed
    let ((anchor, tagName), p) ← p.readProperties
    let uri ← match tagName with
      | some name => (p.tagUri name).map some
      | none => pure none
    let listTag := collectionTag uri .sequence
    let mapTag := collectionTag uri .mapping
    match ← p.peek, place with
    | some .blockEntry, .indentless => do
      p.checkAnchor anchor
      let (number, p) ← p.enter anchor (.sequence listTag [])
      let (items, p) ← readIndentless fuel p
      return p.complete number (.sequence listTag items)
    | some (.scalar text isPlain), _ => do
      p.checkAnchor anchor
      return p.next.addAs anchor (.scalar (scalarTag uri text isPlain) text)
    | some .flowSequence, _ => do
      p.checkAnchor anchor
      let (number, p) ← p.next.enter anchor (.sequence listTag [])
      let (items, p) ← readFlowItems fuel true p
      return p.complete number (.sequence listTag items)
    | some .flowMapping, _ => do
      p.checkAnchor anchor
      let (number, p) ← p.next.enter anchor (.mapping mapTag [])
      let (entries, p) ← readFlowEntries fuel true p
      return p.complete number (.mapping mapTag entries)
    | next, _ => do
      if next = some .blockSequence ∧ place ≠ .flow then
        p.checkAnchor anchor
        let (number, p) ← p.next.enter anchor (.sequence listTag [])
        let (items, p) ← readBlockItems fuel p
        return p.complete number (.sequence listTag items)
      else if next = some .blockMapping ∧ place ≠ .flow then
        p.checkAnchor anchor
        let (number, p) ← p.next.enter anchor (.mapping mapTag [])
        let (entries, p) ← readBlockEntries fuel p
        return p.complete number (.mapping mapTag entries)
      else if anchor.isSome || uri.isSome then
        p.checkAnchor anchor
        return p.addAs anchor (.scalar (scalarTag uri "" true) "")
      else throw .malformed

def readBlockItems : Nat → Parser → Except Fault (List Nat × Parser)
  | 0, _ => .error .malformed
  | fuel + 1, p => do
    match ← p.peek with
    | some .blockEntry => do
      let next ← p.next.peek
      let (item, p) ←
        if next = some .blockEntry ∨ next = some .blockEnd then pure p.next.addEmpty
        else readNode fuel .block p.next
      let (items, p) ← readBlockItems fuel p
      return (item :: items, p)
    | some .blockEnd => return ([], p.next)
    | _ => throw .malformed

def readIndentless : Nat → Parser → Except Fault (List Nat × Parser)
  | 0, _ => .error .malformed
  | fuel + 1, p => do
    match ← p.peek with
    | some .blockEntry => do
      let next ← p.next.peek
      let (item, p) ←
        if next = some .blockEntry ∨ next = some .key ∨ next = some .value ∨ next = some .blockEnd then
          pure p.next.addEmpty
        else readNode fuel .block p.next
      let (items, p) ← readIndentless fuel p
      return (item :: items, p)
    | _ => return ([], p)

/-- Reads the entries of a block mapping up to its end; each begins with a key. -/
def readBlockEntries : Nat → Parser → Except Fault (List (Nat × Nat) × Parser)
  | 0, _ => .error .malformed
  | fuel + 1, p => do
    let next ← p.peek
    if next = some .blockEnd then return ([], p.next)
    else if next = some .key then
      let (key, p) ← readBlockPart fuel p.next
      let (value, p) ←
        if (← p.peek) = some .value then readBlockPart fuel p.next else pure p.addEmpty
      let (entries, p) ← readBlockEntries fuel p
      return ((key, value) :: entries, p)
    else throw .malformed

def readBlockPart : Nat → Parser → Except Fault (Nat × Parser)
  | 0, _ => .error .malformed
  | fuel + 1, p => do
    let next ← p.peek
    if next = some .key ∨ next = some .value ∨ next = some .blockEnd then return p.addEmpty
    else readNode fuel .indentless p

/-- Reads the items of a list in brackets; after the first, each follows a comma. -/
def readFlowItems : Nat → Bool → Parser → Except Fault (List Nat × Parser)
  | 0, _, _ => .error .malformed
  | fuel + 1, first, p => do
    if (← p.peek) = some .flowSequenceEnd then return ([], p.next)
    let p ← if first then pure p
      else if (← p.peek) = some .flowEntry then pure p.next
      else throw .malformed
    let next ← p.peek
    if next = some .flowSequenceEnd then return ([], p.next)
    else if next = some .key then
      let (number, p) ← p.next.enter none (.mapping .mapping [])
      let (key, p) ← readFlowPart fuel .flowSequenceEnd p
      let (value, p) ←
        if (← p.peek) = some .value then readFlowPart fuel .flowSequenceEnd p.next
        else pure p.addEmpty
      let (item, p) := p.complete number (.mapping .mapping [(key, value)])
      let (items, p) ← readFlowItems fuel false p
      return (item :: items, p)
    else
      let (item, p) ← readNode fuel .flow p
      let (items, p) ← readFlowItems fuel false p
      return (item :: items, p)

/-- Reads the entries of a mapping in braces; after the first, each follows a comma. -/
def readFlowEntries : Nat → Bool → Parser → Except Fault (List (Nat × Nat) × Parser)
  | 0, _, _ => .error .malformed
  | fuel + 1, first, p => do
    if (← p.peek) = some .flowMappingEnd then return ([], p.next)
    let p ← if first then pure p
      else if (← p.peek) = some .flowEntry then pure p.next
      else throw .malformed
    let next ← p.peek
    if next = some .flowMappingEnd then return ([], p.next)
    else if next = some .key then
      let (key, p) ← readFlowPart fuel .flowMappingEnd p.next
      let (value, p) ←
        if (← p.peek) = some .value then readFlowPart fuel .flowMappingEnd p.next
        else pure p.addEmpty
      let (entries, p) ← readFlowEntries fuel false p
      return ((key, value) :: entries, p)
    else
      let (key, p) ← readNode fuel .flow p
      let (value, p) := p.addEmpty
      let (entries, p) ← readFlowEntries fuel false p
      return ((key, value) :: entries, p)

def readFlowPart : Nat → Token → Parser → Except Fault (Nat × Parser)
  | 0, _, _ => .error .malformed
  | fuel + 1, close, p => do
    let next ← p.peek
    if next = some .value ∨ next = some .flowEntry ∨ next = some close then return p.addEmpty
    else readNode fuel .flow p

end

/-- Reads the directives before a document: the version at most once, and it begins with one; a tag
handle at most once. -/
def readDirectives : Nat → Bool → List (String × String) → Parser →
    Except Fault (List (String × String) × Parser)
  | 0, _, _, _ => .error .malformed
  | fuel + 1, versioned, handles, p => do
    match ← p.peek with
    | some (.version major) =>
      if versioned || major ≠ 1 then throw .malformed
      readDirectives fuel true handles p.next
    | some (.tagHandle handle uri) =>
      if (handles.lookup handle).isSome then throw .malformed
      readDirectives fuel versioned ((handle, uri) :: handles) p.next
    | some .otherDirective => readDirectives fuel versioned handles p.next
    | _ => return (handles, p)

/-- The handles that need no directive. -/
def standardHandles : List (String × String) := [("!", "!"), ("!!", standardTags)]

def skipDocumentEnds : Nat → Parser → Except Fault Parser
  | 0, p => .ok p
  | fuel + 1, p => do
    if (← p.peek) = some .documentEnd then skipDocumentEnds fuel p.next else return p

def readDocument (p : Parser) : Except Fault (Option Nat × Parser) := do
  let fuel := 4 * p.tokens.length + 8
  let explicit (p : Parser) : Except Fault (Option Nat × Parser) := do
    let p ← skipDocumentEnds fuel p
    if (← p.peek) = none then return (none, p)
    let (handles, p) ← readDirectives fuel false [] p
    let p := { p with handles := handles ++ standardHandles }
    if (← p.peek) ≠ some .documentStart then throw .malformed
    let p := p.next
    let content := match ← p.peek with
      | none => false
      | some token => match token with
        | .version _ | .tagHandle _ _ | .otherDirective | .documentStart | .documentEnd => false
        | _ => true
    if content then
      let (root, p) ← readNode fuel .block p
      return (some root, p)
    else
      let (root, p) := p.addEmpty
      return (some root, p)
  match ← p.peek with
  | none => return (none, p)
  | some token => match token with
    | .version _ | .tagHandle _ _ | .otherDirective | .documentStart => explicit p
    | _ =>
      let (root, p) ← readNode fuel .block p
      return (some root, p)

end Parser

/-- The document in the tokens of a text, if there is one. A second document is a fault. -/
def NodeGraph.ofTokens (tokens : List Token) (fault : Option Fault) :
    Except Fault (Option NodeGraph) := do
  let p : Parser := ⟨tokens, fault, Parser.standardHandles, [], #[], 0⟩
  let (root, p) ← p.readDocument
  match root with
  | none => return none
  | some root =>
    let p ← Parser.skipDocumentEnds (p.tokens.length + 1) p
    if (← p.peek).isSome then
      -- A second document is refused at the token behind its directives.
      let (_, p) ← Parser.readDirectives (p.tokens.length + 1) false [] p
      let _ ← p.peek
      throw .malformed
    return some ⟨p.nodes, root⟩

end EntitySchema.Document.Yaml
