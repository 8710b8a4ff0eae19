import EntitySchema.Document.Yaml.Construction

/-!
# YAML

`Yaml.read` reads a YAML text of at most one document. Scalars have the values that their tags and
forms give them, merge keys are replaced by the entries they stand for, and of equal keys the last
value wins. A collection whose alias stands inside it contains itself.
-/

namespace EntitySchema.Document.Yaml

/-- A value with the anchors of the parts around it that begin again in it. -/
abbrev Open (α : Type) := α × List Anchor

/-- The values of a list with all their anchors. -/
def gathered {α : Type} (parts : List (Open α)) : Open (List α) :=
  (parts.map (·.1), parts.flatMap (·.2))

/-- A part with an anchor. What begins again in it may be the part itself or one around it; without
such a place the anchor is not needed. -/
def closed (anchor : Anchor) (body : Open Value) : Open Value :=
  if body.2.isEmpty then body else (.cyclic anchor body.1, body.2.filter (· != anchor))

/-- The value of a node inside nodes with some numbers. `fuel` is more than the number of nodes, which no
path without repetition is longer than. -/
def valueOf (parts : Array (Option Part)) : Nat → List Nat → Nat → Open Value
  | 0, _, _ => (.null, [])
  | fuel + 1, around, number =>
    let whole : Anchor := ⟨number, none⟩
    if around.contains number then (.again whole, [whole])
    else
      let inside := valueOf parts fuel (number :: around)
      match (parts[number]?).join with
      | none => (.null, [])
      | some (.scalar value) => (.scalar value, [])
      | some (.set members) => (.set members, [])
      | some (.list items) =>
        let (items, anchors) := gathered (items.map inside)
        closed whole (.list items, anchors)
      | some (.map entries) =>
        let (entries, anchors) := gathered <| entries.map fun (key, item) =>
          let (value, anchors) := inside item
          ((key, value), anchors)
        closed whole (.map entries, anchors)
      | some (.pairs items) =>
        let (items, anchors) := gathered <| items.zipIdx.map fun ((key, item), position) =>
          let (key, inKey) := inside key
          let (value, inValue) := inside item
          closed ⟨number, some position⟩ (.pair key value, inKey ++ inValue)
        closed whole (.list items, anchors)

/-- The document that nodes stand for. -/
def NodeGraph.value (graph : NodeGraph) : Except Fault Value := do
  let parts ← graph.parts
  return (valueOf parts (graph.nodes.size + 2) [] graph.root).1

/-- The characters that a YAML text may hold. -/
def isAllowed (c : Char) : Bool :=
  let n := c.toNat
  n == 9 || n == 10 || n == 13 || (0x20 ≤ n && n ≤ 0x7E) || n == 0x85 || (0xA0 ≤ n && n ≤ 0xD7FF)
    || (0xE000 ≤ n && n ≤ 0xFFFD) || 0x10000 ≤ n

/-- Reads a YAML text; one without a document is null. -/
def read (text : String) : Except Fault Value :=
  match Text.characters? text with
  | none => .error .malformed
  | some chars =>
    if !chars.all isAllowed then .error .malformed
    else do
      let (tokens, fault) := Token.scan chars
      match ← NodeGraph.ofTokens tokens fault with
      | none => return .null
      | some graph => graph.value

end EntitySchema.Document.Yaml
