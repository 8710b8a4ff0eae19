import EntitySchema.Proofs.Document.Yaml.Levels

/-!
# Nodes without a value

Replacing merge keys leaves every node its text, and its tag unless that is the one of value keys
(`Kept`). So where nodes that are well formed have no value, one of the nodes of the document has a tag
under which a text of the document has no value, or a mapping stands where a scalar is called for
(`inValues_of_parts`).
-/

namespace EntitySchema.Document.Yaml

variable {α : Type} {nodes other : Array Node} {number : Nat} {fault : Fault}

/-! ## Faults among the nodes -/

/-- The tags under which texts that are well formed can have no value. -/
def Tag.isTyped : Tag → Bool
  | .bool | .int | .float | .timestamp => true
  | _ => false

/-- What among the nodes of a document has no value. -/
inductive Fault.InValues (nodes : Array Node) : Fault → Prop where
  | malformed : InValues nodes .malformed
  | scalar {tag : Tag} {text : String} {mark : Nat} {fault : Fault} (member : .scalar tag text ∈ nodes)
      (isTyped : tag.isTyped = true) (unread : scalarValue mark tag text = .error fault) :
      InValues nodes fault
  | held {tag other : Tag} {entries : List (Nat × Nat)} {text : String} {mark : Nat} {fault : Fault}
      (member : .mapping tag entries ∈ nodes) (isHeld : .scalar other text ∈ nodes)
      (isTyped : tag.isTyped = true) (unread : scalarValue mark tag text = .error fault) :
      InValues nodes fault
  /-- A mapping that stands for a scalar and may stand in itself. -/
  | endless {tag : Tag} {entries : List (Nat × Nat)} (member : .mapping tag entries ∈ nodes)
      (isScalar : tag.emptyPart?.isNone) : InValues nodes .endless
  | timestampKind {entries : List (Nat × Nat)} (member : .mapping .timestamp entries ∈ nodes) :
      InValues nodes .timestampKind

/-- A text without a value is malformed, or has the tag of switches, numbers or timestamps. -/
theorem malformed_or_isTyped {mark : Nat} {tag : Tag} {text : String}
    (unread : scalarValue mark tag text = .error fault) : fault = .malformed ∨ tag.isTyped = true := by
  cases tag with
  | bool | int | float | timestamp => exact .inr rfl
  | null | text => cases unread
  | binary =>
    refine .inl ?_
    have unread : (binaryValue text).map Scalar.bytes = .error fault := unread
    unfold binaryValue at unread
    dsimp only at unread
    split at unread
    · split at unread
      · cases unread
      · cases unread
        rfl
    · cases unread
      rfl
  | _ =>
    cases unread
    exact .inl rfl

/-! ## Nodes that are kept -/

/-- The tag of a node later on: the same, or that of texts for a value key. -/
def Tag.Keeps (tag later : Tag) : Prop := later = tag ∨ (tag = .value ∧ later = .text)

/-- A node that comes from another has the same text, and keeps its tag. -/
def Node.Keeps : Node → Node → Prop
  | .scalar tag text, .scalar later same => same = text ∧ tag.Keeps later
  | .sequence tag _, .sequence later _ => tag.Keeps later
  | .mapping tag _, .mapping later _ => tag.Keeps later
  | _, _ => False

theorem Tag.Keeps.text {tag later : Tag} (keeps : tag.Keeps later) (isValue : later = .value) :
    tag.Keeps .text := by
  rcases keeps with rfl | ⟨_, rfl⟩
  · exact .inr ⟨isValue, rfl⟩
  · cases isValue

theorem Node.Keeps.refl (node : Node) : node.Keeps node := by
  cases node with
  | scalar => exact ⟨rfl, .inl rfl⟩
  | sequence => exact .inl rfl
  | mapping => exact .inl rfl

theorem Node.Keeps.withEntries {first node : Node} (keeps : first.Keeps node) (entries : List (Nat × Nat)) :
    first.Keeps (node.withEntries entries) := by
  cases node with
  | scalar => exact keeps
  | sequence => exact keeps
  | mapping => cases first <;> exact keeps

theorem Node.Keeps.withText {first node : Node} (keeps : first.Keeps node) (isValue : node.tag = .value) :
    first.Keeps (node.withTag .text) := by
  cases node with
  | scalar =>
    cases first with
    | scalar => exact ⟨keeps.1, keeps.2.text isValue⟩
    | _ => exact keeps.elim
  | sequence =>
    cases first with
    | sequence => exact Tag.Keeps.text keeps isValue
    | _ => exact keeps.elim
  | mapping =>
    cases first with
    | mapping => exact Tag.Keeps.text keeps isValue
    | _ => exact keeps.elim

/-- Every node comes from one of the given nodes. -/
def Kept (nodes other : Array Node) : Prop := ∀ node ∈ other, ∃ first ∈ nodes, first.Keeps node

theorem Kept.refl (nodes : Array Node) : Kept nodes nodes :=
  fun node member => ⟨node, member, Node.Keeps.refl node⟩

theorem Kept.modify {change : Node → Node} (kept : Kept nodes other)
    (keeps : ∀ first node : Node, other[number]? = some node → first.Keeps node →
      first.Keeps (change node)) : Kept nodes (other.modify number change) := by
  intro node member
  obtain ⟨place, isNode⟩ := Array.mem_iff_getElem?.mp member
  rw [Array.getElem?_modify] at isNode
  split at isNode
  · rename_i same
    subst same
    obtain ⟨before, isBefore, rfl⟩ := Option.map_eq_some_iff.mp isNode
    obtain ⟨first, isFirst, keepsBefore⟩ := kept before (Array.mem_of_getElem? isBefore)
    exact ⟨first, isFirst, keeps first before isBefore keepsBefore⟩
  · exact kept node (Array.mem_of_getElem? isNode)

theorem Kept.putEntries (kept : Kept nodes other) (entries : List (Nat × Nat)) :
    Kept nodes (putEntries other number entries) :=
  kept.modify fun _ _ _ keeps => keeps.withEntries entries

theorem Kept.withTextKeys (kept : Kept nodes other) (entries : List (Nat × Nat)) :
    Kept nodes (withTextKeys other entries) := by
  refine List.foldlRecOn entries _ kept fun before keptBefore entry _ => ?_
  dsimp only
  split
  · rename_i isValueKey
    refine keptBefore.modify fun first node isNode keeps => keeps.withText ?_
    unfold hasTag at isValueKey
    rw [isNode, beq_iff_eq] at isValueKey
    exact Option.some.inj isValueKey
  · exact keptBefore

/-- Merge keys are malformed or can be replaced, which keeps the nodes. -/
theorem ends_flatten (fuel : Nat) (merged : List (Nat × Nat)) (kept : Kept nodes other) :
    Ends (Fault.InValues nodes) (Kept nodes) (flatten fuel merged other number) := by
  induction fuel generalizing merged other number with
  | zero => exact kept
  | succ fuel ih =>
    rw [flatten]
    split
    · exact (kept.putEntries _).withTextKeys _
    · rename_i value rest _
      have taken : Kept nodes (putEntries other number rest) := kept.putEntries rest
      dsimp only
      split
      · exact Ends.bind (ih [] taken) fun _ kept => ih _ kept
      · refine Ends.bind
          (show Ends _ (fun result : Array Node × List (Nat × Nat) => Kept nodes result.1) _ from
            Ends.foldlM taken fun (before, more) item kept => ?_) fun (before, more) kept => ih _ kept
        split
        · exact .malformed
        · exact Ends.bind (ih [] kept) fun _ kept => kept
      · exact .malformed

/-! ## Scalars -/

theorem Kept.scalar {tag : Tag} {text : String} (kept : Kept nodes other)
    (member : .scalar tag text ∈ other) : ∃ first : Tag, .scalar first text ∈ nodes ∧ first.Keeps tag := by
  obtain ⟨node, isNode, keeps⟩ := kept _ member
  cases node with
  | scalar first same => exact ⟨first, keeps.1 ▸ isNode, keeps.2⟩
  | _ => exact keeps.elim

theorem Kept.mapping {tag : Tag} {entries : List (Nat × Nat)} (kept : Kept nodes other)
    (member : .mapping tag entries ∈ other) :
    ∃ (first : Tag) (written : List (Nat × Nat)), .mapping first written ∈ nodes ∧ first.Keeps tag := by
  obtain ⟨node, isNode, keeps⟩ := kept _ member
  cases node with
  | mapping first written => exact ⟨first, written, isNode, keeps⟩
  | _ => exact keeps.elim

/-- A text under the tag of texts has a value, so a tag without one for a text was written. -/
theorem Tag.Keeps.unread {tag later : Tag} {mark : Nat} {text : String} (keeps : tag.Keeps later)
    (unread : scalarValue mark later text = .error fault) : scalarValue mark tag text = .error fault := by
  rcases keeps with rfl | ⟨_, rfl⟩
  · exact unread
  · cases unread

theorem Tag.Keeps.eq_timestamp {tag : Tag} (keeps : tag.Keeps .timestamp) : tag = .timestamp := by
  rcases keeps with same | ⟨_, isText⟩
  · exact same.symm
  · cases isText

theorem Tag.Keeps.emptyPart? {tag later : Tag} (keeps : tag.Keeps later)
    (isScalar : later.emptyPart? = none) : tag.emptyPart?.isNone := by
  rcases keeps with rfl | ⟨rfl, _⟩
  · exact Option.isNone_iff_eq_none.mpr isScalar
  · rfl

theorem ends_scalarText (fuel number : Nat) :
    Ends (fun fault => fault = .malformed ∨ fault = .endless) (fun text => ∃ tag, .scalar tag text ∈ other)
      (scalarText other fuel number) := by
  induction fuel generalizing number with
  | zero => exact .inr rfl
  | succ fuel ih =>
    rw [scalarText]
    split
    · rename_i isNode
      exact ⟨_, Array.mem_of_getElem? isNode⟩
    · split
      · exact ih _
      · exact .inl rfl
    · exact .inl rfl

/-- A text has a value under the later tag, or has none under the first one. -/
theorem ends_scalarValue {first tag : Tag} {mark : Nat} {text : String} (keeps : first.Keeps tag)
    (typed : ∀ fault, first.isTyped = true → scalarValue mark first text = .error fault →
      Fault.InValues nodes fault) :
    Ends (Fault.InValues nodes) (fun _ => True) (scalarValue mark tag text) :=
  Ends.of_faults fun fault unread => by
    have unread := keeps.unread unread
    rcases malformed_or_isTyped unread with rfl | isTyped
    · exact .malformed
    · exact typed fault isTyped unread

namespace Construction

variable {c : Construction}

/-- Reaching a node keeps the nodes, or fails for something among them. -/
theorem ends_reach (kept : Kept nodes c.nodes) :
    Ends (Fault.InValues nodes) (fun c => Kept nodes c.nodes) (c.reach number) := by
  unfold reach
  split
  · rename_i node isNode _
    split
    · exact kept
    · rename_i isScalar
      have member := Array.mem_of_getElem? isNode
      cases node with
      | scalar tag text =>
        obtain ⟨first, isFirst, keeps⟩ := kept.scalar member
        have isText : scalarText c.nodes (c.nodes.size + 1) number = .ok text := by rw [scalarText, isNode]
        rw [isText]
        refine Ends.bind (show Ends _ (· = text) (.ok text) from rfl) ?_
        rintro _ rfl
        dsimp only
        split
        · rename_i isMapping
          cases isMapping.2
        · exact Ends.bind (ends_scalarValue keeps fun _ => .scalar isFirst) fun _ _ => kept
      | sequence tag items =>
        have unread : scalarText c.nodes (c.nodes.size + 1) number = .error .malformed := by
          rw [scalarText, isNode]
        rw [unread]
        exact .malformed
      -- The text is that of a scalar under a value key, at whatever depth.
      | mapping tag entries =>
        obtain ⟨first, written, isFirst, keeps⟩ := kept.mapping member
        refine Ends.bind (Ends.imp (ends_scalarText _ number) ?_ fun _ isText => isText) ?_
        · rintro fault (rfl | rfl)
          · exact .malformed
          · exact .endless isFirst (keeps.emptyPart? isScalar)
        · rintro text ⟨other, isText⟩
          obtain ⟨other, isText, -⟩ := kept.scalar isText
          dsimp only
          split
          · rename_i isTimestamp
            obtain rfl : tag = .timestamp := isTimestamp.1
            exact .timestampKind (keeps.eq_timestamp ▸ isFirst)
          · exact Ends.bind (ends_scalarValue keeps fun _ => .held isFirst isText) fun _ _ => kept
  · exact kept

theorem keeps_kept (nodes : Array Node) : Keeps (Fault.InValues nodes) fun c => Kept nodes c.nodes where
  malformed := .malformed
  reach _ _ kept := ends_reach kept
  flatten _ _ kept := ends_flatten _ [] kept
  put _ _ _ kept _ := kept

end Construction

theorem inValues_of_parts {graph : NodeGraph} (failed : graph.parts = .error fault) :
    fault.InValues graph.nodes := by
  have ends : Ends (Fault.InValues graph.nodes) (fun _ => True) graph.parts :=
    (Construction.keeps_kept graph.nodes).ends_parts (Kept.refl graph.nodes) fun _ _ => trivial
  exact ends.of_eq_error failed

end EntitySchema.Document.Yaml
