import EntitySchema.Document.Yaml.Node
import EntitySchema.Document.Yaml.ScalarValue
import EntitySchema.Order

/-!
# Parts of a document from nodes

`NodeGraph.parts` gives every node that is part of the document its value, in which the values of
other nodes are named by their numbers. The nodes are taken level by level from the root, so of
several faults the one nearest to the root is reported. The merge keys of a mapping are replaced by
the entries they stand for before its entries are taken, and of equal keys the last value wins. The
members of a set stand in an order of their own.
-/

namespace EntitySchema.Document.Yaml

/-- The value of a node. -/
inductive Part where
  | scalar (value : Scalar)
  | list (items : List Nat)
  | map (entries : List (Scalar × Nat))
  | set (members : List Scalar)
  /-- A list of keys with values. -/
  | pairs (items : List (Nat × Nat))

namespace Node

def entries? : Node → Option (List (Nat × Nat))
  | .mapping _ entries => some entries
  | _ => none

def items? : Node → Option (List Nat)
  | .sequence _ items => some items
  | _ => none

def withEntries (entries : List (Nat × Nat)) : Node → Node
  | .mapping tag _ => .mapping tag entries
  | other => other

end Node

/-! ## Members of sets -/

/-- The exact value of a scalar that is a finite number, as a numerator over a denominator. -/
def ratio? : Scalar → Option (Int × Nat)
  | .float value => value.toRatio?
  | value => value.number?.map (·, 1)

/-- Whether a member stands before another or equals it: numbers come first and go by their values, texts
go by their code points, and all others by how messages quote them. -/
def memberOrder (a b : Scalar) : Bool :=
  match ratio? a, ratio? b with
  | some (x, u), some (y, v) => decide (x * v ≤ y * u)
  | some _, none => true
  | none, some _ => false
  | none, none =>
    match a, b with
    | .text x, .text y => textOrder x y
    | _, _ => textOrder a.shown b.shown

/-! ## Merge keys -/

def hasTag (nodes : Array Node) (number : Nat) (tag : Tag) : Bool :=
  (nodes[number]?.map Node.tag) == some tag

/-- The entries of a mapping; nothing for other nodes. -/
def entriesAt (nodes : Array Node) (number : Nat) : List (Nat × Nat) :=
  ((nodes[number]?).bind Node.entries?).getD []

def putEntries (nodes : Array Node) (number : Nat) (entries : List (Nat × Nat)) : Array Node :=
  nodes.modify number (Node.withEntries entries)

/-- The nodes with value keys among the given ones as texts. -/
def withTextKeys (nodes : Array Node) (entries : List (Nat × Nat)) : Array Node :=
  entries.foldl (fun nodes (key, _) =>
    if hasTag nodes key .value then nodes.modify key (Node.withTag .text) else nodes) nodes

/-- The value under the first merge key, and the other entries. -/
def takeMerge? (nodes : Array Node) : List (Nat × Nat) → Option (Nat × List (Nat × Nat))
  | [] => none
  | (key, value) :: rest =>
    if hasTag nodes key .merge then some (value, rest)
    else (takeMerge? nodes rest).map fun (found, rest) => (found, (key, value) :: rest)

/-- How many merge keys there are in mappings. -/
def mergeCount (nodes : Array Node) : Nat :=
  nodes.foldl (fun count node =>
    count + ((node.entries?.getD []).countP fun (key, _) => hasTag nodes key .merge)) 0

/-- Replaces the merge keys of a mapping, one after another, by the entries that they stand for: those of
the mapping under a key, or of the mappings in the list under it, the last one first, each without
merge keys of its own. These entries come first, behind those of the merge keys before. `fuel` is more
than the number of merge keys. -/
def flatten : Nat → List (Nat × Nat) → Array Node → Nat → Except Fault (Array Node)
  | 0, _, nodes, _ => .ok nodes
  | fuel + 1, merged, nodes, number => do
    match takeMerge? nodes (entriesAt nodes number) with
    | none =>
      let entries := merged ++ entriesAt nodes number
      return withTextKeys (putEntries nodes number entries) entries
    | some (value, rest) =>
      let nodes := putEntries nodes number rest
      let (nodes, more) ← match nodes[value]? with
        | some (.mapping _ _) => do
          let nodes ← flatten fuel [] nodes value
          pure (nodes, entriesAt nodes value)
        | some (.sequence _ items) =>
          items.foldlM (fun (nodes, more) item => do
            if ((nodes[item]?).bind Node.entries?).isNone then throw .malformed
            let nodes ← flatten fuel [] nodes item
            return (nodes, entriesAt nodes item ++ more)) (nodes, [])
        | _ => throw .malformed
      flatten fuel (merged ++ more) nodes number

/-! ## Levels -/

/-- The nodes with a bound on their merge keys, the values of those that were reached, and the order in
which collections were. A collection is empty until its turn comes. -/
structure Construction where
  nodes : Array Node
  merges : Nat
  parts : Array (Option Part)
  reached : Array Nat

/-- The text that a scalar tag is applied to: that of a scalar, or of the node under the value key of a
mapping. `fuel` is more than the number of nodes. -/
def scalarText (nodes : Array Node) : Nat → Nat → Except Fault String
  | 0, _ => .error .endless
  | fuel + 1, number =>
    match nodes[number]? with
    | some (.scalar _ text) => .ok text
    | some (.mapping _ entries) =>
      match entries.find? fun (key, _) => hasTag nodes key .value with
      | some (_, value) => scalarText nodes fuel value
      | none => .error .malformed
    | _ => .error .malformed

/-- The collection with a tag before its parts are known. -/
def Tag.emptyPart? : Tag → Option Part
  | .sequence => some (.list [])
  | .mapping => some (.map [])
  | .set => some (.set [])
  | .orderedMap | .pairs => some (.pairs [])
  | _ => none

namespace Construction

/-- Gives a node its value. -/
def put (c : Construction) (number : Nat) (part : Part) : Construction :=
  { c with parts := c.parts.setIfInBounds number (some part) }

/-- The value of a node that was reached. -/
def part? (c : Construction) (number : Nat) : Option Part := (c.parts[number]?).join

/-- Reaches a node: scalars have their values at once, and collections wait for their turn. -/
def reach (c : Construction) (number : Nat) : Except Fault Construction :=
  match c.nodes[number]?, c.part? number with
  | some node, none =>
    match node.tag.emptyPart? with
    | some part => .ok { c.put number part with reached := c.reached.push number }
    | none => do
      let text ← scalarText c.nodes (c.nodes.size + 1) number
      if node.tag = .timestamp ∧ node.entries?.isSome then throw .timestampKind
      let value ← scalarValue (number + 1) node.tag text
      return c.put number (.scalar value)
  | _, _ => .ok c

def reachItems (c : Construction) : List Nat → Except Fault Construction
  | [] => .ok c
  | item :: rest => do reachItems (← c.reach item) rest

/-- Reaches the keys and values of a mapping; every key is a scalar. -/
def reachEntries (c : Construction) (written : List (Scalar × Nat)) :
    List (Nat × Nat) → Except Fault (Construction × List (Scalar × Nat))
  | [] => .ok (c, written)
  | (key, value) :: rest => do
    let c ← c.reach key
    match c.part? key with
    | some (.scalar name) => reachEntries (← c.reach value) (Entries.put name value written) rest
    | _ => throw .malformed

def reachPairs (c : Construction) : List Nat → Except Fault (Construction × List (Nat × Nat))
  | [] => .ok (c, [])
  | item :: rest =>
    match entriesAt c.nodes item with
    | [(key, value)] => do
      let c ← c.reach key
      let c ← c.reach value
      let (c, pairs) ← reachPairs c rest
      return (c, (key, value) :: pairs)
    | _ => .error .malformed

/-- Reaches the entries of a mapping without its merge keys. -/
def reachMapping (c : Construction) (number : Nat) :
    Except Fault (Construction × List (Scalar × Nat)) := do
  match (c.nodes[number]?).bind Node.entries? with
  | some _ =>
    let nodes ← flatten (c.merges + 1) [] c.nodes number
    reachEntries { c with nodes } [] (entriesAt nodes number)
  | none => throw .malformed

/-- The turn of a collection that was reached. -/
def complete (c : Construction) (number : Nat) : Except Fault Construction := do
  let items? := (c.nodes[number]?).bind Node.items?
  match c.part? number, items? with
  | some (.list _), some items => return (← c.reachItems items).put number (.list items)
  | some (.pairs _), some items =>
    let (c, pairs) ← c.reachPairs items
    return c.put number (.pairs pairs)
  | some (.map _), _ =>
    let (c, entries) ← c.reachMapping number
    return c.put number (.map entries)
  | some (.set _), _ =>
    let (c, entries) ← c.reachMapping number
    return c.put number (.set (orderedBy memberOrder (entries.map (·.1))))
  | _, _ => throw .malformed

/-- Completes the collections from a position on, in the order in which they were reached. `fuel` is
the number of nodes. -/
def completeFrom : Nat → Nat → Construction → Except Fault Construction
  | 0, _, c => .ok c
  | fuel + 1, position, c =>
    match c.reached[position]? with
    | some number => do completeFrom fuel (position + 1) (← c.complete number)
    | none => .ok c

end Construction

/-- The values of the nodes. -/
def NodeGraph.parts (graph : NodeGraph) : Except Fault (Array (Option Part)) := do
  let c : Construction :=
    { nodes := graph.nodes
      merges := mergeCount graph.nodes
      parts := Array.replicate graph.nodes.size none
      reached := #[] }
  let c ← c.reach graph.root
  return (← Construction.completeFrom (graph.nodes.size + 1) 0 c).parts

end EntitySchema.Document.Yaml
