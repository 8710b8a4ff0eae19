import EntitySchema.Document.Json
import EntitySchema.Document.Yaml
import EntitySchema.Proofs.Document.Yaml.Levels

namespace EntitySchema.Document

variable {value : Value} {entries : Entries} {name : String}

/-- No mapping in the value has a key twice. -/
inductive Value.Keyed : Value → Prop where
  | scalar (value : Scalar) : Keyed (.scalar value)
  | list {items : List Value} (each : ∀ item ∈ items, Keyed item) : Keyed (.list items)
  | map {entries : List (Scalar × Value)} (distinct : (entries.map Prod.fst).Nodup)
      (each : ∀ entry ∈ entries, Keyed entry.2) : Keyed (.map entries)
  | set (members : List Scalar) : Keyed (.set members)
  | pair {key value : Value} (isKey : Keyed key) (isValue : Keyed value) : Keyed (.pair key value)
  | cyclic (anchor : Anchor) {body : Value} (isBody : Keyed body) : Keyed (.cyclic anchor body)
  | again (anchor : Anchor) : Keyed (.again anchor)

namespace Value

/-! ## Parts -/

theorem replaceItems_eq_map (anchor : Anchor) (whole : Value) (items : List Value) :
    replaceItems anchor whole items = items.map (replace anchor whole) := by
  induction items with
  | nil => rfl
  | cons item rest ih => rw [replaceItems, ih, List.map_cons]

theorem replaceEntries_eq_map (anchor : Anchor) (whole : Value) (entries : List (Scalar × Value)) :
    replaceEntries anchor whole entries =
      entries.map fun entry => (entry.1, replace anchor whole entry.2) := by
  induction entries with
  | nil => rfl
  | cons entry rest ih => rw [replaceEntries, ih, List.map_cons]

namespace Keyed

theorem replace {whole : Value} (isWhole : whole.Keyed) (anchor : Anchor) (keyed : value.Keyed) :
    (Value.replace anchor whole value).Keyed := by
  induction keyed with
  | scalar s =>
    rw [Value.replace]
    exact .scalar s
  | list _ ih =>
    rw [Value.replace, replaceItems_eq_map]
    refine .list fun item member => ?_
    obtain ⟨before, isBefore, rfl⟩ := List.mem_map.mp member
    exact ih before isBefore
  | map distinct _ ih =>
    rw [Value.replace, replaceEntries_eq_map]
    refine .map (by rwa [List.map_map]) fun entry member => ?_
    obtain ⟨before, isBefore, rfl⟩ := List.mem_map.mp member
    exact ih before isBefore
  | set members =>
    rw [Value.replace]
    exact .set members
  | pair _ _ inKey inValue =>
    rw [Value.replace]
    exact .pair inKey inValue
  | cyclic inner isBody ih =>
    rw [Value.replace]
    split
    · exact .cyclic inner isBody
    · exact .cyclic inner ih
  | again inner =>
    rw [Value.replace]
    split
    · exact isWhole
    · exact .again inner

theorem exposed (keyed : value.Keyed) : value.exposed.Keyed := by
  unfold Value.exposed
  split
  · rename_i anchor body
    cases keyed with
    | cyclic _ isBody => exact replace (.cyclic anchor isBody) anchor isBody
  · exact keyed

theorem entries? (keyed : value.Keyed) (found : value.entries? = some entries) :
    (Value.map entries).Keyed := by
  unfold Value.entries? at found
  split at found
  · rename_i isMap
    cases found
    exact isMap ▸ keyed.exposed
  · cases found

theorem nodup_keys (keyed : (Value.map entries).Keyed) : (entries.map Prod.fst).Nodup := by
  cases keyed with
  | map distinct each => exact distinct

theorem get? (keyed : (Value.map entries).Keyed) (found : entries.get? name = some value) :
    value.Keyed := by
  cases keyed with
  | map distinct each =>
    obtain ⟨entry, isFound, rfl⟩ := Option.map_eq_some_iff.mp found
    exact each entry (List.mem_of_find?_eq_some isFound)

theorem ofList (each : ∀ entry ∈ entries, entry.2.Keyed) :
    (Value.map (Entries.ofList entries)).Keyed := by
  refine .map (Entries.nodup_keys_ofList entries) fun entry member => ?_
  obtain ⟨given, isGiven, same⟩ := Entries.mem_values_ofList member
  exact same ▸ each given isGiven

end Keyed
end Value

/-! ## JSON -/

namespace Json

/-- A reader gives a value in which no mapping has a key twice, or stops. -/
def ReadsKeyed (x : Except Stop (Value × List Char)) : Prop :=
  Ends (fun _ => True) (fun result => result.1.Keyed) x

theorem readsKeyed_readNumber (text : List Char) : ReadsKeyed (readNumber text) := by
  unfold readNumber
  split
  dsimp only
  split
  case' h_2 => split
  case h_2.isTrue => exact trivial
  -- After a zero and after other digits the number goes on alike.
  all_goals
    refine Ends.bind (show Ends _ (fun _ => True) (Except.ok _) from trivial) ?_
    rintro ⟨whole, rest⟩ -
    dsimp only
    split
    · split
      · exact trivial
      · exact Value.Keyed.scalar _
    · exact Value.Keyed.scalar _

theorem readsKeyed_readPlain (text : List Char) : ReadsKeyed (readPlain text) := by
  have keyedWords : ∀ word ∈ words, word.2.Keyed := by
    simp only [words, List.forall_mem_cons]
    exact ⟨.scalar _, .scalar _, .scalar _, .scalar _, .scalar _, .scalar _, List.forall_mem_nil _⟩
  unfold readPlain
  split
  · rename_i word value isWord
    exact keyedWords _ (List.mem_of_find?_eq_some isWord)
  · exact readsKeyed_readNumber text

/-- With so much fuel the readers of values give no mapping with a key twice. -/
structure KeyedReaders (fuel : Nat) : Prop where
  value : ∀ levels text, ReadsKeyed (readValue levels fuel text)
  items : ∀ levels text,
    Ends (fun _ => True) (fun result => ∀ item ∈ result.1, item.Keyed) (readItems levels fuel text)
  members : ∀ levels text,
    Ends (fun _ => True) (fun result => ∀ entry ∈ result.1, entry.2.Keyed) (readMembers levels fuel text)

namespace KeyedReaders

variable {fuel : Nat}

theorem value_succ (readers : KeyedReaders fuel) (levels : Nat) (text : List Char) :
    ReadsKeyed (readValue levels (fuel + 1) text) := by
  rw [readValue.eq_def]
  dsimp only
  split
  · exact Ends.bind Ends.trivially fun (body, after) _ => Value.Keyed.scalar _
  · split
    · exact trivial
    · split
      · exact Value.Keyed.map List.nodup_nil (List.forall_mem_nil _)
      · exact Ends.bind (readers.members _ _) fun (entries, after) each => Value.Keyed.ofList each
  · split
    · exact trivial
    · split
      · exact Value.Keyed.list (List.forall_mem_nil _)
      · exact Ends.bind (readers.items _ _) fun (items, after) each => Value.Keyed.list each
  · exact readsKeyed_readPlain text

theorem items_succ (readers : KeyedReaders fuel) (levels : Nat) (text : List Char) :
    Ends (fun _ => True) (fun result => ∀ item ∈ result.1, item.Keyed)
      (readItems levels (fuel + 1) text) := by
  rw [readItems]
  refine Ends.bind (readers.value levels text) fun (item, after) isItem => ?_
  dsimp only
  split
  · exact List.forall_mem_singleton.mpr isItem
  · exact Ends.bind (readers.items _ _) fun (rest, after) each => List.forall_mem_cons.mpr ⟨isItem, each⟩
  · exact trivial

theorem members_succ (readers : KeyedReaders fuel) (levels : Nat) (text : List Char) :
    Ends (fun _ => True) (fun result => ∀ entry ∈ result.1, entry.2.Keyed)
      (readMembers levels (fuel + 1) text) := by
  rw [readMembers.eq_def]
  dsimp only
  split
  · refine Ends.bind Ends.trivially fun (key, after) _ => ?_
    dsimp only
    split
    · refine Ends.bind (readers.value levels _) fun (item, after) isItem => ?_
      dsimp only
      split
      · exact List.forall_mem_singleton.mpr isItem
      · exact Ends.bind (readers.members _ _) fun (rest, after) each =>
          List.forall_mem_cons.mpr ⟨isItem, each⟩
      · exact trivial
    · exact trivial
  · exact trivial

end KeyedReaders

-- The three readers call one another, so one induction on their fuel carries all of them.
theorem keyedReaders (fuel : Nat) : KeyedReaders fuel := by
  induction fuel with
  | zero =>
    refine ⟨fun levels text => ?_, fun levels text => ?_, fun levels text => ?_⟩
    · rw [readValue]; exact trivial
    · rw [readItems]; exact trivial
    · rw [readMembers]; exact trivial
  | succ fuel ih => exact ⟨ih.value_succ, ih.items_succ, ih.members_succ⟩

theorem keyed_of_read {text : String} (isRead : read text = .ok value) : value.Keyed := by
  have reads : Ends (fun _ => True) Value.Keyed (readAll text.toList) := by
    unfold readAll
    split
    · exact trivial
    · refine Ends.bind ((keyedReaders _).value nestingLimit _) fun (value, rest) keyed => ?_
      dsimp only
      split
      · exact keyed
      · exact trivial
  unfold read at isRead
  split at isRead
  · rename_i found isFound
    cases isRead
    exact reads.of_eq_ok isFound
  · cases isRead

end Json

/-! ## YAML -/

namespace Yaml

/-- No mapping among the values of nodes has a key twice. -/
def KeyedParts (parts : Array (Option Part)) : Prop :=
  ∀ entries : List (Scalar × Nat), some (.map entries) ∈ parts → (entries.map Prod.fst).Nodup

theorem Tag.entries_of_emptyPart? {tag : Tag} {entries : List (Scalar × Nat)}
    (isEmpty : tag.emptyPart? = some (.map entries)) : entries = [] := by
  unfold Tag.emptyPart? at isEmpty
  split at isEmpty <;> cases isEmpty
  rfl

namespace Construction

variable {c : Construction} {number : Nat}

theorem keyed_put {part : Part} (keyed : KeyedParts c.parts)
    (isKeyed : ∀ entries, part = .map entries → (entries.map Prod.fst).Nodup) :
    KeyedParts (c.put number part).parts := by
  intro entries member
  rcases Array.mem_or_eq_of_mem_setIfInBounds member with before | isNew
  · exact keyed entries before
  · exact isKeyed entries (Option.some.inj isNew).symm

theorem keyed_reach (number : Nat) (keyed : KeyedParts c.parts) :
    Ends (fun _ => True) (fun c => KeyedParts c.parts) (c.reach number) := by
  unfold reach
  split
  · rename_i node _ _
    split
    · rename_i part isEmpty
      refine keyed_put keyed fun entries isMap => ?_
      rw [isMap] at isEmpty
      rw [Tag.entries_of_emptyPart? isEmpty]
      exact List.nodup_nil
    · refine Ends.bind Ends.trivially fun text _ => ?_
      dsimp only
      split
      · exact trivial
      · exact Ends.bind Ends.trivially fun value _ => keyed_put keyed nofun
  · exact keyed

theorem keeps_keyedParts : Keeps (fun _ => True) fun c => KeyedParts c.parts where
  malformed := trivial
  reach _ number keyed := keyed_reach number keyed
  flatten _ _ keyed := Ends.imp Ends.trivially (fun _ fault => fault) fun _ _ => keyed
  put _ _ _ keyed isKeyed := keyed_put keyed isKeyed

end Construction

theorem keyed_parts {graph : NodeGraph} {parts : Array (Option Part)} (areParts : graph.parts = .ok parts) :
    KeyedParts parts := by
  have none : KeyedParts (Array.replicate graph.nodes.size (Option.none : Option Part)) := by
    intro entries member
    cases (Array.mem_replicate.mp member).2
  have ends : Ends (fun _ => True) KeyedParts graph.parts :=
    Construction.keeps_keyedParts.ends_parts none fun _ keyed => keyed
  exact ends.of_eq_ok areParts

theorem keyed_closed {anchor : Anchor} {body : Open Value} (keyed : body.1.Keyed) :
    (closed anchor body).1.Keyed := by
  unfold closed
  split
  · exact keyed
  · exact .cyclic anchor keyed

theorem keyed_valueOf {parts : Array (Option Part)} (keyed : KeyedParts parts) (fuel : Nat) (around : List Nat)
    (number : Nat) : (valueOf parts fuel around number).1.Keyed := by
  induction fuel generalizing around number with
  | zero => exact .scalar _
  | succ fuel ih =>
    rw [valueOf]
    dsimp only
    split
    · exact .again _
    · split
      · exact .scalar _
      · exact .scalar _
      · exact .set _
      · refine keyed_closed (.list fun item member => ?_)
        rw [gathered, List.map_map] at member
        obtain ⟨inner, -, rfl⟩ := List.mem_map.mp member
        exact ih _ inner
      · rename_i entries isMap
        have member : some (.map entries) ∈ parts :=
          Array.mem_of_getElem? (Option.join_eq_some_iff.mp isMap)
        refine keyed_closed (.map ?_ fun entry member => ?_)
        · rw [gathered, List.map_map, List.map_map]
          exact keyed entries member
        · rw [gathered, List.map_map] at member
          obtain ⟨inner, -, rfl⟩ := List.mem_map.mp member
          exact ih _ inner.2
      · refine keyed_closed (.list fun item member => ?_)
        rw [gathered, List.map_map] at member
        obtain ⟨inner, -, rfl⟩ := List.mem_map.mp member
        exact keyed_closed (.pair (ih _ _) (ih _ _))

theorem keyed_of_read {text : String} (isRead : read text = .ok value) : value.Keyed := by
  unfold read at isRead
  split at isRead
  · cases isRead
  · split at isRead
    · cases isRead
    · split at isRead
      obtain ⟨graph?, -, isRead⟩ := bind_eq_ok_iff.mp isRead
      split at isRead
      · cases isRead
        exact .scalar _
      · obtain ⟨parts, areParts, isRead⟩ := bind_eq_ok_iff.mp isRead
        cases isRead
        exact keyed_valueOf (keyed_parts areParts) _ _ _

end Yaml
end EntitySchema.Document
