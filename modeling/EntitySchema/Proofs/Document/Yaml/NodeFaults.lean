import EntitySchema.Document.Yaml.Node
import EntitySchema.Proofs.Document.Readers

/-!
# Nodes that cannot be read

Lists without indentation and pairs in brackets have no tokens of their own, and each of them stands in a
collection that has some. So where collections are nested too deeply, half as many are opened by tokens
and not closed (`inNodes_of_ofTokens`).
-/

namespace EntitySchema.Document.Yaml

variable {α : Type} {tokens : List Token} {fault : Option Fault} {k : Int} {d : Nat}

/-! ## Open collections -/

def Token.opens : Token → Bool
  | .blockSequence | .blockMapping | .flowSequence | .flowMapping => true
  | _ => false

def Token.closes : Token → Bool
  | .blockEnd | .flowSequenceEnd | .flowMappingEnd => true
  | _ => false

/-- How many more collections tokens open than they close. -/
def unclosed (tokens : List Token) : Int := tokens.countP Token.opens - tokens.countP Token.closes

/-- What in the tokens, or in the text after them, keeps their nodes from being read. -/
def Fault.InNodes (tokens : List Token) (ended : Option Fault) (fault : Fault) : Prop :=
  fault = .malformed ∨
    (fault = .nesting ∧ ∃ front, front <+: tokens ∧ (nestingLimit : Int) ≤ 2 * unclosed front) ∨
    ended = some fault

namespace Parser

/-- A place in the tokens where so many collections are opened and not closed, and where so many stand
around. -/
structure Stands (tokens : List Token) (ended : Option Fault) (opened : Int) (depth : Nat) (p : Parser) :
    Prop where
  front : ∃ front, tokens = front ++ p.tokens ∧ unclosed front = opened
  depth : p.depth = depth
  fault : p.fault = ended

/-- A reader of nodes gives a place of some kind, or fails for something in the tokens. -/
def Parses (tokens : List Token) (fault : Option Fault) (k : Int) (d : Nat)
    (x : Except Fault (α × Parser)) : Prop :=
  Ends (Fault.InNodes tokens fault) (fun result => result.2.Stands tokens fault k d) x

variable {p : Parser}

theorem Parses.bind {β : Type} {k' : Int} {d' : Nat} {x : Except Fault (α × Parser)}
    {f : α × Parser → Except Fault (β × Parser)} (parses : Parses tokens fault k d x)
    (continues : ∀ a p, p.Stands tokens fault k d → Parses tokens fault k' d' (f (a, p))) :
    Parses tokens fault k' d' (x >>= f) :=
  Ends.bind parses fun (a, p) stands => continues a p stands

theorem inNodes_malformed : Fault.malformed.InNodes tokens fault := .inl rfl

/-! ## Steps -/

theorem ends_peek (stands : p.Stands tokens fault k d) :
    Ends (Fault.InNodes tokens fault) (fun next => p.tokens.head? = next) p.peek := by
  unfold peek
  split
  · rename_i token rest _ isTokens
    rw [isTokens]
    rfl
  · rename_i stop isTokens isFault
    exact .inr (.inr (stands.fault ▸ isFault))
  · rename_i isTokens isFault
    rw [isTokens]
    rfl

/-- A token in a row counts by what it opens or closes. -/
theorem Stands.next {token : Token} (stands : p.Stands tokens fault k d)
    (isNext : p.tokens.head? = some token) :
    p.next.Stands tokens fault (k + unclosed [token]) d := by
  obtain ⟨front, areTokens, isOpened⟩ := stands.front
  obtain ⟨rest, isRest⟩ := List.head?_eq_some_iff.mp isNext
  refine ⟨⟨front ++ [token], ?_, ?_⟩, stands.depth, stands.fault⟩
  · rw [Parser.next, areTokens, isRest, List.append_assoc]
    rfl
  · rw [← isOpened]
    unfold unclosed
    rw [List.countP_append, List.countP_append]
    omega

/-- A token that neither opens nor closes a collection. -/
theorem Stands.past {token : Token} (stands : p.Stands tokens fault k d)
    (isNext : p.tokens.head? = some token) (isPlain : unclosed [token] = 0) :
    p.next.Stands tokens fault k d := by
  have further := stands.next isNext
  rwa [isPlain, Int.add_zero] at further

theorem Stands.addAs (stands : p.Stands tokens fault k d) (anchor : Option String) (node : Node) :
    (p.addAs anchor node).2.Stands tokens fault k d := by
  unfold Parser.addAs
  dsimp only
  split
  · exact ⟨stands.front, stands.depth, stands.fault⟩
  · exact ⟨stands.front, stands.depth, stands.fault⟩

theorem Stands.addEmpty (stands : p.Stands tokens fault k d) : p.addEmpty.2.Stands tokens fault k d :=
  ⟨stands.front, stands.depth, stands.fault⟩

/-- Where no more collections may be nested, half as many are open. -/
theorem parses_enter (stands : p.Stands tokens fault k d) (bound : (d : Int) ≤ 2 * k)
    (anchor : Option String) (node : Node) : Parses tokens fault k (d + 1) (p.enter anchor node) := by
  unfold enter
  split
  · rename_i deep
    obtain ⟨front, areTokens, isOpened⟩ := stands.front
    refine .inr (.inl ⟨rfl, front, ⟨_, areTokens.symm⟩, ?_⟩)
    rw [stands.depth] at deep
    omega
  · have deeper : { p with depth := p.depth + 1 }.Stands tokens fault k (d + 1) :=
      ⟨stands.front, congrArg (· + 1) stands.depth, stands.fault⟩
    exact deeper.addAs anchor node

theorem Stands.complete (stands : p.Stands tokens fault k (d + 1)) (number : Nat) (node : Node) :
    (p.complete number node).2.Stands tokens fault k d :=
  ⟨stands.front, by rw [Parser.complete, stands.depth]; rfl, stands.fault⟩

theorem parses_readProperties (stands : p.Stands tokens fault k d) :
    Parses tokens fault k d p.readProperties := by
  unfold readProperties
  refine Ends.bind (ends_peek stands) fun next isNext => ?_
  split
  · have past := stands.past isNext rfl
    refine Ends.bind (ends_peek past) fun next isNext => ?_
    split
    · exact past.past isNext rfl
    · exact past
  · have past := stands.past isNext rfl
    refine Ends.bind (ends_peek past) fun next isNext => ?_
    split
    · exact past.past isNext rfl
    · exact past
  · exact stands

theorem ends_tagUri (p : Parser) (name : TagName) :
    Ends (Fault.InNodes tokens fault) (fun _ => True) (p.tagUri name) := by
  unfold tagUri
  split
  · exact trivial
  · split
    · exact trivial
    · exact inNodes_malformed

theorem ends_checkAnchor (p : Parser) (anchor : Option String) :
    Ends (Fault.InNodes tokens fault) (fun _ => True) (p.checkAnchor anchor) := by
  unfold checkAnchor
  split
  · split
    · exact inNodes_malformed
    · exact trivial
  · exact trivial

/-! ## Nodes -/

/-- What the readers of nodes give with some fuel, at a place where `k` collections are open and `d`
stand around. -/
structure NodesParsed (tokens : List Token) (fault : Option Fault) (fuel : Nat) : Prop where
  node {k : Int} {d : Nat} {p : Parser} (place : Place) (stands : p.Stands tokens fault k d)
    (bound : (d : Int) ≤ 2 * k) (indented : place = .indentless → (d : Int) + 1 ≤ 2 * k) :
    Parses tokens fault k d (readNode fuel place p)
  blockItems {k : Int} {d : Nat} {p : Parser} (stands : p.Stands tokens fault k d)
    (bound : (d : Int) ≤ 2 * k) : Parses tokens fault (k - 1) d (readBlockItems fuel p)
  indentless {k : Int} {d : Nat} {p : Parser} (stands : p.Stands tokens fault k d)
    (bound : (d : Int) ≤ 2 * k) : Parses tokens fault k d (readIndentless fuel p)
  blockEntries {k : Int} {d : Nat} {p : Parser} (stands : p.Stands tokens fault k d)
    (bound : (d : Int) + 1 ≤ 2 * k) : Parses tokens fault (k - 1) d (readBlockEntries fuel p)
  blockPart {k : Int} {d : Nat} {p : Parser} (stands : p.Stands tokens fault k d)
    (bound : (d : Int) + 1 ≤ 2 * k) : Parses tokens fault k d (readBlockPart fuel p)
  flowItems {k : Int} {d : Nat} {p : Parser} (first : Bool) (stands : p.Stands tokens fault k d)
    (bound : (d : Int) + 1 ≤ 2 * k) : Parses tokens fault (k - 1) d (readFlowItems fuel first p)
  flowEntries {k : Int} {d : Nat} {p : Parser} (first : Bool) (stands : p.Stands tokens fault k d)
    (bound : (d : Int) ≤ 2 * k) : Parses tokens fault (k - 1) d (readFlowEntries fuel first p)
  flowPart {k : Int} {d : Nat} {p : Parser} (close : Token) (stands : p.Stands tokens fault k d)
    (bound : (d : Int) ≤ 2 * k) : Parses tokens fault k d (readFlowPart fuel close p)

/-- A value is read after its mark; without the mark there is none. -/
theorem parses_value {β : Type} {k' : Int} {d' : Nat} {read : Parser → Except Fault (Nat × Parser)}
    {further : Nat × Parser → Except Fault (β × Parser)} (stands : p.Stands tokens fault k d)
    (reads : ∀ p : Parser, p.Stands tokens fault k d → Parses tokens fault k d (read p))
    (continues : ∀ value p, p.Stands tokens fault k d → Parses tokens fault k' d' (further (value, p))) :
    Parses tokens fault k' d' (do
      let next ← p.peek
      if next = some .value then do
        let part ← read p.next
        further part
      else further p.addEmpty) := by
  refine Ends.bind (ends_peek stands) fun next isNext => ?_
  split
  · rename_i isValue
    exact (reads _ (stands.past (isNext.trans isValue) rfl)).bind continues
  · exact continues _ _ stands.addEmpty

/-- A comma stands before all parts but the first. -/
theorem parses_separated {β : Type} {k' : Int} {d' : Nat} {further : Parser → Except Fault (β × Parser)}
    (first : Bool) (stands : p.Stands tokens fault k d)
    (continues : ∀ p : Parser, p.Stands tokens fault k d → Parses tokens fault k' d' (further p)) :
    Parses tokens fault k' d' (do
      let next ← p.peek
      if first = true then further p
      else if next = some .flowEntry then further p.next
      else do
        let p ← throw .malformed
        further p) := by
  refine Ends.bind (ends_peek stands) fun next isNext => ?_
  split
  · exact continues p stands
  · split
    · rename_i isEntry
      exact continues _ (stands.past (isNext.trans isEntry) rfl)
    · exact inNodes_malformed

/-- A collection is entered, its parts are read, and it is left. -/
theorem parses_collection {β : Type} {k' : Int} {q : Parser} {node : Node}
    {read : Parser → Except Fault (β × Parser)} {whole : β → Node} (anchor : Option String)
    (stands : q.Stands tokens fault k' d) (bound : (d : Int) ≤ 2 * k')
    (inside : ∀ p : Parser, p.Stands tokens fault k' (d + 1) → Parses tokens fault k (d + 1) (read p)) :
    Parses tokens fault k d (do
      p.checkAnchor anchor
      let (number, p) ← q.enter anchor node
      let (parts, p) ← read p
      return p.complete number (whole parts)) := by
  refine Ends.bind (ends_checkAnchor p anchor) fun _ _ => ?_
  refine (parses_enter stands bound anchor node).bind fun number p stands => ?_
  exact (inside p stands).bind fun parts p stands => stands.complete number _

theorem parses_readNode {fuel : Nat} {place : Place} (inner : NodesParsed tokens fault fuel)
    (stands : p.Stands tokens fault k d) (bound : (d : Int) ≤ 2 * k)
    (indented : place = .indentless → (d : Int) + 1 ≤ 2 * k) :
    Parses tokens fault k d (readNode (fuel + 1) place p) := by
  rw [readNode]
  refine Ends.bind (ends_peek stands) fun next isNext => ?_
  dsimp only
  split
  · split
    · exact stands.past isNext rfl
    · exact inNodes_malformed
  · refine (parses_readProperties stands).bind fun properties p stands => ?_
    obtain ⟨anchor, tagName⟩ := properties
    dsimp only
    split
    case' h_1 name =>
      have uri : Ends (Fault.InNodes tokens fault) (fun _ => True) (Except.map some (p.tagUri name)) :=
        Ends.bind (ends_tagUri p name) fun _ _ => trivial
      refine Ends.bind uri fun uri _ => ?_
    case' h_2 => refine Ends.bind (show Ends _ (fun _ => True) (pure none) from trivial) fun uri _ => ?_
    all_goals
      refine Ends.bind (ends_peek stands) fun next isNext => ?_
      split
      -- A list without indentation has no token, so the mapping around it has to make room for it.
      · refine parses_collection anchor stands bound fun p stands => ?_
        exact inner.indentless stands (by have := indented rfl; push_cast; omega)
      · refine Ends.bind (ends_checkAnchor p anchor) fun _ _ => ?_
        exact (stands.past isNext rfl).addAs anchor _
      · have opened : p.next.Stands tokens fault (k + 1) d := stands.next isNext
        refine parses_collection anchor opened (by omega) fun p stands => ?_
        have inside := inner.flowItems true stands (by push_cast; omega)
        rwa [Int.add_sub_cancel] at inside
      · have opened : p.next.Stands tokens fault (k + 1) d := stands.next isNext
        refine parses_collection anchor opened (by omega) fun p stands => ?_
        have inside := inner.flowEntries true stands (by push_cast; omega)
        rwa [Int.add_sub_cancel] at inside
      · split
        · rename_i isBlock
          have opened : p.next.Stands tokens fault (k + 1) d := stands.next (isNext.trans isBlock.1)
          refine parses_collection anchor opened (by omega) fun p stands => ?_
          have inside := inner.blockItems stands (by push_cast; omega)
          rwa [Int.add_sub_cancel] at inside
        · split
          · rename_i isBlock
            have opened : p.next.Stands tokens fault (k + 1) d := stands.next (isNext.trans isBlock.1)
            refine parses_collection anchor opened (by omega) fun p stands => ?_
            have inside := inner.blockEntries stands (by push_cast; omega)
            rwa [Int.add_sub_cancel] at inside
          · split
            · refine Ends.bind (ends_checkAnchor p anchor) fun _ _ => ?_
              exact stands.addAs anchor _
            · exact inNodes_malformed

theorem parses_readBlockItems {fuel : Nat} (inner : NodesParsed tokens fault fuel)
    (stands : p.Stands tokens fault k d) (bound : (d : Int) ≤ 2 * k) :
    Parses tokens fault (k - 1) d (readBlockItems (fuel + 1) p) := by
  rw [readBlockItems]
  refine Ends.bind (ends_peek stands) fun next isNext => ?_
  dsimp only
  split
  · have entry := stands.past isNext rfl
    refine Ends.bind (ends_peek entry) fun next isNext => ?_
    split
    · exact (inner.blockItems entry.addEmpty bound).bind fun _ _ stands => stands
    · refine (inner.node .block entry bound nofun).bind fun item p stands => ?_
      exact (inner.blockItems stands bound).bind fun _ _ stands => stands
  · exact stands.next isNext
  · exact inNodes_malformed

theorem parses_readIndentless {fuel : Nat} (inner : NodesParsed tokens fault fuel)
    (stands : p.Stands tokens fault k d) (bound : (d : Int) ≤ 2 * k) :
    Parses tokens fault k d (readIndentless (fuel + 1) p) := by
  rw [readIndentless]
  refine Ends.bind (ends_peek stands) fun next isNext => ?_
  dsimp only
  split
  · have entry := stands.past isNext rfl
    refine Ends.bind (ends_peek entry) fun next isNext => ?_
    split
    · exact (inner.indentless entry.addEmpty bound).bind fun _ _ stands => stands
    · refine (inner.node .block entry bound nofun).bind fun item p stands => ?_
      exact (inner.indentless stands bound).bind fun _ _ stands => stands
  · exact stands

theorem parses_readBlockEntries {fuel : Nat} (inner : NodesParsed tokens fault fuel)
    (stands : p.Stands tokens fault k d) (bound : (d : Int) + 1 ≤ 2 * k) :
    Parses tokens fault (k - 1) d (readBlockEntries (fuel + 1) p) := by
  rw [readBlockEntries]
  refine Ends.bind (ends_peek stands) fun next isNext => ?_
  split
  · rename_i isEnd
    exact stands.next (isNext.trans isEnd)
  · split
    · rename_i isKey
      refine (inner.blockPart (stands.past (isNext.trans isKey) rfl) bound).bind fun key p stands => ?_
      refine parses_value stands (fun p stands => inner.blockPart stands bound) fun value p stands => ?_
      exact (inner.blockEntries stands bound).bind fun _ _ stands => stands
    · exact inNodes_malformed

theorem parses_readBlockPart {fuel : Nat} (inner : NodesParsed tokens fault fuel)
    (stands : p.Stands tokens fault k d) (bound : (d : Int) + 1 ≤ 2 * k) :
    Parses tokens fault k d (readBlockPart (fuel + 1) p) := by
  rw [readBlockPart]
  refine Ends.bind (ends_peek stands) fun next isNext => ?_
  split
  · exact stands.addEmpty
  · exact inner.node .indentless stands (by omega) fun _ => bound

theorem parses_readFlowPart {fuel : Nat} (close : Token) (inner : NodesParsed tokens fault fuel)
    (stands : p.Stands tokens fault k d) (bound : (d : Int) ≤ 2 * k) :
    Parses tokens fault k d (readFlowPart (fuel + 1) close p) := by
  rw [readFlowPart]
  refine Ends.bind (ends_peek stands) fun next isNext => ?_
  split
  · exact stands.addEmpty
  · exact inner.node .flow stands bound nofun

theorem parses_readFlowItems {fuel : Nat} (first : Bool) (inner : NodesParsed tokens fault fuel)
    (stands : p.Stands tokens fault k d) (bound : (d : Int) + 1 ≤ 2 * k) :
    Parses tokens fault (k - 1) d (readFlowItems (fuel + 1) first p) := by
  have wide : (d : Int) ≤ 2 * k := by omega
  rw [readFlowItems]
  refine Ends.bind (ends_peek stands) fun next isNext => ?_
  split
  · rename_i isEnd
    exact stands.next (isNext.trans isEnd)
  · refine parses_separated first stands fun p stands => ?_
    refine Ends.bind (ends_peek stands) fun next isNext => ?_
    split
    · rename_i isEnd
      exact stands.next (isNext.trans isEnd)
    · split
      · rename_i isKey
        -- A pair has no token for itself either; the list around it makes room for it.
        refine (parses_enter (stands.past (isNext.trans isKey) rfl) wide none _).bind fun number p stands => ?_
        have inside : ((d + 1 : Nat) : Int) ≤ 2 * k := by push_cast; omega
        refine (inner.flowPart .flowSequenceEnd stands inside).bind fun key p stands => ?_
        refine parses_value stands (fun p stands => inner.flowPart .flowSequenceEnd stands inside)
          fun value p stands => ?_
        exact (inner.flowItems false (stands.complete number _) bound).bind fun _ _ stands => stands
      · refine (inner.node .flow stands wide nofun).bind fun item p stands => ?_
        exact (inner.flowItems false stands bound).bind fun _ _ stands => stands

theorem parses_readFlowEntries {fuel : Nat} (first : Bool) (inner : NodesParsed tokens fault fuel)
    (stands : p.Stands tokens fault k d) (bound : (d : Int) ≤ 2 * k) :
    Parses tokens fault (k - 1) d (readFlowEntries (fuel + 1) first p) := by
  rw [readFlowEntries]
  refine Ends.bind (ends_peek stands) fun next isNext => ?_
  split
  · rename_i isEnd
    exact stands.next (isNext.trans isEnd)
  · refine parses_separated first stands fun p stands => ?_
    refine Ends.bind (ends_peek stands) fun next isNext => ?_
    split
    · rename_i isEnd
      exact stands.next (isNext.trans isEnd)
    · split
      · rename_i isKey
        refine (inner.flowPart .flowMappingEnd (stands.past (isNext.trans isKey) rfl) bound).bind
          fun key p stands => ?_
        refine parses_value stands (fun p stands => inner.flowPart .flowMappingEnd stands bound)
          fun value p stands => ?_
        exact (inner.flowEntries false stands bound).bind fun _ _ stands => stands
      · refine (inner.node .flow stands bound nofun).bind fun key p stands => ?_
        exact (inner.flowEntries false stands.addEmpty bound).bind fun _ _ stands => stands

theorem nodesParsed (fuel : Nat) : NodesParsed tokens fault fuel := by
  induction fuel with
  | zero =>
    constructor
    all_goals intros; exact inNodes_malformed
  | succ fuel ih =>
    exact ⟨fun _ => parses_readNode ih, parses_readBlockItems ih, parses_readIndentless ih,
      parses_readBlockEntries ih, parses_readBlockPart ih, fun first => parses_readFlowItems first ih,
      fun first => parses_readFlowEntries first ih, fun close => parses_readFlowPart close ih⟩

/-! ## Documents -/

theorem parses_readDirectives (fuel : Nat) (versioned : Bool) (handles : List (String × String))
    (stands : p.Stands tokens fault k d) :
    Parses tokens fault k d (readDirectives fuel versioned handles p) := by
  induction fuel generalizing versioned handles p with
  | zero => exact inNodes_malformed
  | succ fuel ih =>
    rw [readDirectives]
    refine Ends.bind (ends_peek stands) fun next isNext => ?_
    split
    · split
      · exact inNodes_malformed
      · exact ih _ _ (stands.past isNext rfl)
    · split
      · exact inNodes_malformed
      · exact ih _ _ (stands.past isNext rfl)
    · exact ih _ _ (stands.past isNext rfl)
    · exact stands

theorem ends_skipDocumentEnds (fuel : Nat) (stands : p.Stands tokens fault k d) :
    Ends (Fault.InNodes tokens fault) (Stands tokens fault k d) (skipDocumentEnds fuel p) := by
  induction fuel generalizing p with
  | zero => exact stands
  | succ fuel ih =>
    rw [skipDocumentEnds]
    refine Ends.bind (ends_peek stands) fun next isNext => ?_
    split
    · rename_i isEnd
      exact ih (stands.past (isNext.trans isEnd) rfl)
    · exact stands

theorem parses_readDocument (stands : p.Stands tokens fault 0 0) :
    Parses tokens fault 0 0 p.readDocument := by
  have root (fuel : Nat) (q : Parser) (stands : q.Stands tokens fault 0 0) :
      Parses tokens fault 0 0 (readNode fuel .block q) :=
    (nodesParsed fuel).node .block stands (by omega) nofun
  unfold readDocument
  refine Ends.bind (ends_peek stands) fun next isNext => ?_
  split
  · exact stands
  · split
    case h_5 => exact Ends.bind (root _ p stands) fun _ stands => stands
    -- The other tokens begin a document that is marked as one.
    all_goals
      refine Ends.bind (ends_skipDocumentEnds _ stands) fun p stands => ?_
      refine Ends.bind (ends_peek stands) fun next isNext => ?_
      split
      · exact stands
      · refine (parses_readDirectives _ false [] stands).bind fun handles p stands => ?_
        dsimp only
        have handled : { p with handles := handles ++ standardHandles }.Stands tokens fault 0 0 :=
          ⟨stands.front, stands.depth, stands.fault⟩
        refine Ends.bind (ends_peek handled) fun next isNext => ?_
        split
        · exact inNodes_malformed
        · rename_i isStart
          have marked := handled.past (isNext.trans (not_not.mp isStart)) rfl
          refine Ends.bind (ends_peek marked) fun next isNext => ?_
          refine Ends.ite ?_ marked.addEmpty
          exact Ends.bind (root _ _ marked) fun _ stands => stands

end Parser

/-- A text with tokens that make no nodes nests its collections too deeply, is malformed, or was left
before its end. -/
theorem inNodes_of_ofTokens {stop : Fault} (failed : NodeGraph.ofTokens tokens fault = .error stop) :
    stop.InNodes tokens fault := by
  have ends : Ends (Fault.InNodes tokens fault) (fun _ => True) (NodeGraph.ofTokens tokens fault) := by
    unfold NodeGraph.ofTokens
    have start : Parser.Stands tokens fault 0 0 ⟨tokens, fault, Parser.standardHandles, [], #[], 0⟩ :=
      ⟨⟨[], rfl, rfl⟩, rfl, rfl⟩
    refine Ends.bind (Parser.parses_readDocument start) fun (root, p) stands => ?_
    dsimp only
    split
    · exact trivial
    · refine Ends.bind (Parser.ends_skipDocumentEnds _ stands) fun p stands => ?_
      refine Ends.bind (Parser.ends_peek stands) fun next isNext => ?_
      split
      · refine Ends.bind (Parser.parses_readDirectives _ false [] stands) fun (_, p) stands => ?_
        exact Ends.bind (Parser.ends_peek stands) fun _ _ => Parser.inNodes_malformed
      · exact trivial
  exact ends.of_eq_error failed

end EntitySchema.Document.Yaml
