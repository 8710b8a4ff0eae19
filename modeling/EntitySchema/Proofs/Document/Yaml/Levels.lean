import EntitySchema.Document.Yaml.Construction
import EntitySchema.Proofs.Document.Entries
import EntitySchema.Proofs.Document.Readers

/-!
# What constructions keep

What reaching a node, replacing merge keys and giving a node its value keep is kept level by level, up to the
values of all nodes (`Keeps.ends_parts`).
-/

namespace EntitySchema.Document.Yaml.Construction

variable {fault : Fault → Prop} {holds : Construction → Prop} {c : Construction}

/-- A property of constructions that every step keeps or fails. -/
structure Keeps (fault : Fault → Prop) (holds : Construction → Prop) : Prop where
  malformed : fault .malformed
  reach : ∀ c number, holds c → Ends fault holds (c.reach number)
  flatten : ∀ c number, holds c →
    Ends fault (fun nodes => holds { c with nodes }) (flatten (c.merges + 1) [] c.nodes number)
  put : ∀ c number part, holds c →
    (∀ entries, part = .map entries → (entries.map Prod.fst).Nodup) → holds (c.put number part)

namespace Keeps

theorem reachItems (keeps : Keeps fault holds) (items : List Nat) (now : holds c) :
    Ends fault holds (c.reachItems items) := by
  induction items generalizing c with
  | nil => exact now
  | cons item rest ih => exact Ends.bind (keeps.reach c item now) fun _ now => ih now

theorem reachPairs (keeps : Keeps fault holds) (items : List Nat) (now : holds c) :
    Ends fault (fun result => holds result.1) (c.reachPairs items) := by
  induction items generalizing c with
  | nil => exact now
  | cons item rest ih =>
    rw [Construction.reachPairs]
    split
    · refine Ends.bind (keeps.reach c _ now) fun c now => ?_
      refine Ends.bind (keeps.reach c _ now) fun c now => ?_
      exact Ends.bind (ih now) fun _ now => now
    · exact keeps.malformed

/-- The entries that are reached have no key twice: of equal keys the last one wins. -/
theorem reachEntries (keeps : Keeps fault holds) {written : List (Scalar × Nat)} (entries : List (Nat × Nat))
    (now : holds c) (distinct : (written.map Prod.fst).Nodup) :
    Ends fault (fun result => holds result.1 ∧ (result.2.map Prod.fst).Nodup)
      (c.reachEntries written entries) := by
  induction entries generalizing c written with
  | nil => exact ⟨now, distinct⟩
  | cons entry rest ih =>
    obtain ⟨key, value⟩ := entry
    rw [Construction.reachEntries]
    refine Ends.bind (keeps.reach c key now) fun c now => ?_
    split
    · exact Ends.bind (keeps.reach c value now) fun c now => ih now (Entries.nodup_keys_put distinct)
    · exact keeps.malformed

theorem reachMapping (keeps : Keeps fault holds) (number : Nat) (now : holds c) :
    Ends fault (fun result => holds result.1 ∧ (result.2.map Prod.fst).Nodup) (c.reachMapping number) := by
  unfold Construction.reachMapping
  split
  · exact Ends.bind (keeps.flatten c number now) fun nodes now => keeps.reachEntries _ now List.nodup_nil
  · exact keeps.malformed

theorem complete (keeps : Keeps fault holds) (number : Nat) (now : holds c) :
    Ends fault holds (c.complete number) := by
  unfold Construction.complete
  dsimp only
  split
  · exact Ends.bind (keeps.reachItems _ now) fun c now => keeps.put c number _ now nofun
  · exact Ends.bind (keeps.reachPairs _ now) fun result now => keeps.put result.1 number _ now nofun
  · refine Ends.bind (keeps.reachMapping number now) fun (c, entries) ⟨now, distinct⟩ => ?_
    exact keeps.put c number _ now fun _ same => Part.map.inj same ▸ distinct
  · exact Ends.bind (keeps.reachMapping number now) fun result now => keeps.put result.1 number _ now.1 nofun
  · exact keeps.malformed

theorem completeFrom (keeps : Keeps fault holds) (fuel position : Nat) (now : holds c) :
    Ends fault holds (completeFrom fuel position c) := by
  induction fuel generalizing c position with
  | zero => exact now
  | succ fuel ih =>
    rw [Construction.completeFrom]
    split
    · exact Ends.bind (keeps.complete _ now) fun _ now => ih _ now
    · exact now

theorem ends_parts (keeps : Keeps fault holds) {graph : NodeGraph} {value : Array (Option Part) → Prop}
    (start : holds ⟨graph.nodes, mergeCount graph.nodes, Array.replicate graph.nodes.size none, #[]⟩)
    (inParts : ∀ c, holds c → value c.parts) : Ends fault value graph.parts := by
  refine Ends.bind (keeps.reach _ graph.root start) fun c now => ?_
  exact Ends.bind (keeps.completeFrom _ 0 now) fun c now => inParts c now

end Keeps
end EntitySchema.Document.Yaml.Construction
