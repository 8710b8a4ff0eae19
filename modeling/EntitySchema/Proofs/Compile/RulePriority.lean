import EntitySchema.Proofs.Compile.FieldColumns
import Mathlib.Data.List.Induction

/-!
# Ranks of column rules

Registering keeps rules from the highest rank down, and rules of one rank as they were registered
(`ColumnRules.Registered`); a list of rules with that order is the only one, and is what a stable sort gives.
So the rule that is used for a field is the matching one of the highest rank, of equal ranks the one that
was registered first (`ColumnRules.Dispatches`), and rules of different ranks compile an entity alike in
whatever order they are registered. `columnRules_byRank` says all of it.
-/

namespace EntitySchema
namespace ColumnRules

variable {calls : List RankedRule} {rules others : ColumnRules}

/-! ## Registering -/

/-- Rules stand from the highest rank down, and those of one rank as they were registered. -/
structure Registered (calls : List RankedRule) (rules : ColumnRules) : Prop where
  /-- Every rule is there as often as it was registered. -/
  same : rules.Perm calls
  falling : rules.Pairwise fun first second => second.rank ≤ first.rank
  inTurn : ∀ rank, (rules.filter fun ranked => ranked.rank = rank) =
    calls.filter fun ranked => ranked.rank = rank

/-- Whether a rule may stand before another one. -/
def mayPrecede (first second : RankedRule) : Bool := second.rank ≤ first.rank

theorem register_perm (ranked : RankedRule) (rules : ColumnRules) :
    (register ranked rules).Perm (ranked :: rules) := by
  induction rules with
  | nil => exact List.Perm.refl _
  | cons first rest ih =>
    rw [register]
    split
    · exact List.Perm.refl _
    · exact (ih.cons first).trans (List.Perm.swap ranked first rest)

theorem falling_register {ranked : RankedRule}
    (falling : rules.Pairwise fun first second => second.rank ≤ first.rank) :
    (register ranked rules).Pairwise fun first second => second.rank ≤ first.rank := by
  induction rules with
  | nil => exact List.pairwise_singleton _ _
  | cons first rest ih =>
    obtain ⟨below, behind⟩ := List.pairwise_cons.mp falling
    rw [register]
    split
    · rename_i lower
      refine List.pairwise_cons.mpr ⟨fun other member => ?_, falling⟩
      rcases List.mem_cons.mp member with rfl | later
      · exact Int.le_of_lt lower
      · exact Int.le_trans (below other later) (Int.le_of_lt lower)
    · rename_i notLower
      refine List.pairwise_cons.mpr ⟨fun other member => ?_, ih behind⟩
      rcases List.mem_cons.mp ((register_perm ranked rest).mem_iff.mp member) with rfl | later
      · exact Int.not_lt.mp notLower
      · exact below other later

/-- A rule comes behind those of its rank, and leaves the rules of every other rank as they are. -/
theorem filter_register {ranked : RankedRule}
    (falling : rules.Pairwise fun first second => second.rank ≤ first.rank) (rank : Int) :
    ((register ranked rules).filter fun other => other.rank = rank) =
      (rules ++ [ranked]).filter fun other => other.rank = rank := by
  induction rules with
  | nil => rfl
  | cons first rest ih =>
    obtain ⟨below, behind⟩ := List.pairwise_cons.mp falling
    rw [register]
    split
    · rename_i lower
      by_cases isRank : ranked.rank = rank
      -- All the rules are of lower ranks, so none of them is of this one.
      · have none : ((first :: rest).filter fun other => decide (other.rank = rank)) = [] := by
          rw [List.filter_eq_nil_iff]
          intro other member
          have atMost : other.rank ≤ first.rank := by
            rcases List.mem_cons.mp member with rfl | later
            · exact Int.le_refl _
            · exact below other later
          simp only [decide_eq_true_eq]
          omega
        rw [List.filter_append, none, List.filter_cons_of_pos (by simpa using isRank), none,
          List.nil_append, List.filter_singleton]
        simp [isRank]
      · rw [List.filter_cons_of_neg (by simpa using isRank), List.filter_append, List.filter_singleton]
        simp [isRank]
    · rw [List.cons_append, List.filter_cons, List.filter_cons, ih behind]

theorem mem_iff_of_filter_eq
    (alike : ∀ rank, (rules.filter fun ranked => ranked.rank = rank) =
      others.filter fun ranked => ranked.rank = rank) (ranked : RankedRule) :
    ranked ∈ rules ↔ ranked ∈ others := by
  have ofRank := congrArg (ranked ∈ ·) (alike ranked.rank)
  simpa using ofRank

theorem eq_of_filter_eq
    (falling : rules.Pairwise fun first second => second.rank ≤ first.rank)
    (fallingToo : others.Pairwise fun first second => second.rank ≤ first.rank)
    (alike : ∀ rank, (rules.filter fun ranked => ranked.rank = rank) =
      others.filter fun ranked => ranked.rank = rank) : rules = others := by
  induction rules generalizing others with
  | nil =>
    refine (List.eq_nil_iff_forall_not_mem.mpr fun ranked member => ?_).symm
    exact absurd ((mem_iff_of_filter_eq alike ranked).mpr member) List.not_mem_nil
  | cons first rest ih =>
    have mem_iff := mem_iff_of_filter_eq alike
    cases others with
    | nil => exact absurd ((mem_iff first).mp List.mem_cons_self) List.not_mem_nil
    | cons other more =>
      obtain ⟨below, behind⟩ := List.pairwise_cons.mp falling
      obtain ⟨belowToo, behindToo⟩ := List.pairwise_cons.mp fallingToo
      -- Each of the two first rules stands in the other list, so none has the higher rank.
      have sameRank : other.rank = first.rank := by
        refine Int.le_antisymm ?_ ?_
        · rcases List.mem_cons.mp ((mem_iff other).mpr List.mem_cons_self) with rfl | later
          · exact Int.le_refl _
          · exact below other later
        · rcases List.mem_cons.mp ((mem_iff first).mp List.mem_cons_self) with rfl | later
          · exact Int.le_refl _
          · exact belowToo first later
      obtain rfl : first = other := by
        have ofRank := alike first.rank
        rw [List.filter_cons_of_pos (by simp), List.filter_cons_of_pos (by simpa using sameRank)] at ofRank
        exact (List.cons.inj ofRank).1
      have later : ∀ rank, (rest.filter fun ranked => ranked.rank = rank) =
          more.filter fun ranked => ranked.rank = rank := by
        intro rank
        have ofRank := alike rank
        rw [List.filter_cons, List.filter_cons] at ofRank
        split at ofRank
        · exact (List.cons.inj ofRank).2
        · exact ofRank
      rw [ih behind behindToo later]

theorem Registered.register {ranked : RankedRule} (registered : Registered calls rules) :
    Registered (calls ++ [ranked]) (register ranked rules) where
  same := ((register_perm ranked rules).trans (registered.same.cons ranked)).trans
    (List.perm_append_singleton ranked calls).symm
  falling := falling_register registered.falling
  inTurn rank := by
    rw [filter_register registered.falling, List.filter_append, List.filter_append, registered.inTurn rank]

theorem ofList_concat (calls : List RankedRule) (ranked : RankedRule) :
    ofList (calls ++ [ranked]) = register ranked (ofList calls) := by
  rw [ofList, List.foldl_append]
  rfl

theorem registered_ofList (calls : List RankedRule) : Registered calls (ofList calls) := by
  induction calls using List.reverseRec with
  | nil => exact ⟨List.Perm.refl _, List.Pairwise.nil, fun _ => rfl⟩
  | append_singleton calls ranked ih =>
    rw [ofList_concat]
    exact ih.register

/-- The order in which rules are registered and their ranks leave one list of rules. -/
theorem Registered.unique (registered : Registered calls rules) (too : Registered calls others) :
    rules = others :=
  eq_of_filter_eq registered.falling too.falling fun rank =>
    (registered.inTurn rank).trans (too.inTurn rank).symm

/-! ## Sorting -/

/-- A stable sort is another way to that order. -/
theorem registered_mergeSort (calls : List RankedRule) : Registered calls (calls.mergeSort mayPrecede) := by
  have trans (first second third : RankedRule) (before : mayPrecede first second = true)
      (later : mayPrecede second third = true) : mayPrecede first third = true := by
    simp only [mayPrecede, decide_eq_true_eq] at before later ⊢
    exact Int.le_trans later before
  have total (first second : RankedRule) :
      (mayPrecede first second || mayPrecede second first) = true := by
    simp only [mayPrecede, Bool.or_eq_true, decide_eq_true_eq]
    exact Int.le_total _ _
  have sorted := List.pairwise_mergeSort trans total calls
  refine ⟨List.mergeSort_perm _ _, sorted.imp fun before => by simpa [mayPrecede] using before, ?_⟩
  intro rank
  have ofRank : (calls.filter fun ranked => ranked.rank = rank).Pairwise
      fun first second => mayPrecede first second = true := by
    refine List.pairwise_of_forall_mem_list fun first isFirst second isSecond => ?_
    have firstRank : first.rank = rank := by simpa using (List.mem_filter.mp isFirst).2
    have secondRank : second.rank = rank := by simpa using (List.mem_filter.mp isSecond).2
    simp [mayPrecede, firstRank, secondRank]
  -- The rules of a rank stay in their order, and sorting adds none of the rank.
  have kept := (List.sublist_mergeSort trans total ofRank List.filter_sublist).filter
    fun ranked => ranked.rank = rank
  rw [List.filter_filter] at kept
  simp only [Bool.and_self] at kept
  have asMany := ((List.mergeSort_perm calls mayPrecede).filter fun ranked => ranked.rank = rank).length_eq
  exact (kept.eq_of_length asMany.symm).symm

/-- Registering puts a rule at the end and sorts, and rules of one rank stay as they were. -/
theorem Registered.register_eq_mergeSort {ranked : RankedRule} (registered : Registered calls rules) :
    ColumnRules.register ranked rules = (rules ++ [ranked]).mergeSort mayPrecede := by
  have sorted := registered_mergeSort (rules ++ [ranked])
  refine registered.register.unique ⟨?_, sorted.falling, fun rank => ?_⟩
  · exact sorted.same.trans (registered.same.append_right [ranked])
  · rw [sorted.inTurn rank, List.filter_append, List.filter_append, registered.inTurn rank]

/-! ## The first choice -/

/-- Of the rules that may be chosen, one of the highest rank, and of those the one that was registered
first. -/
def FirstChoice (mayChoose : RankedRule → Prop) (calls : List RankedRule) (chosen : RankedRule) : Prop :=
  ∃ earlier later, calls = earlier ++ chosen :: later ∧ mayChoose chosen ∧
    (∀ ranked ∈ earlier, mayChoose ranked → ranked.rank < chosen.rank) ∧
    ∀ ranked ∈ later, mayChoose ranked → ranked.rank ≤ chosen.rank

section

variable {mayChoose : RankedRule → Prop} {chosen other : RankedRule}

theorem FirstChoice.unique (first : FirstChoice mayChoose calls chosen)
    (too : FirstChoice mayChoose calls other) : chosen = other := by
  obtain ⟨earlier, later, rfl, isChoice, before, behind⟩ := first
  obtain ⟨earlierToo, laterToo, split, isChoiceToo, beforeToo, behindToo⟩ := too
  rcases List.append_eq_append_iff.mp split with ⟨between, isEarlier, rest⟩ | ⟨between, isEarlier, rest⟩
  · cases between with
    | nil => exact (List.cons.inj rest).1
    | cons head tail =>
      obtain ⟨rfl, rfl⟩ := List.cons.inj rest
      have less := beforeToo chosen (by simp [isEarlier]) isChoice
      have atMost := behind other (by simp) isChoiceToo
      omega
  · cases between with
    | nil => exact (List.cons.inj rest).1.symm
    | cons head tail =>
      obtain ⟨rfl, rfl⟩ := List.cons.inj rest
      have less := before other (by simp [isEarlier]) isChoiceToo
      have atMost := behindToo chosen (by simp) isChoice
      omega

/-- Going down registered rules, the first one that may be chosen is the first choice. -/
theorem Registered.firstChoice {front back : List RankedRule}
    (registered : Registered calls (front ++ chosen :: back)) (isChoice : mayChoose chosen)
    (passed : ∀ ranked ∈ front, ¬ mayChoose ranked) : FirstChoice mayChoose calls chosen := by
  have ofRank := registered.inTurn chosen.rank
  rw [List.filter_append, List.filter_cons_of_pos (by simp), eq_comm, List.filter_eq_append_iff] at ofRank
  obtain ⟨start, rest, isCalls, ofStart, ofRest⟩ := ofRank
  obtain ⟨between, later, isRest, noneBetween, -, -⟩ := List.filter_eq_cons_iff.mp ofRest
  have atMost : ∀ ranked ∈ calls, mayChoose ranked → ranked.rank ≤ chosen.rank := by
    intro ranked member mayBe
    have behind := (List.pairwise_append.mp registered.falling).2.1
    rcases List.mem_append.mp (registered.same.mem_iff.mpr member) with inFront | inBack
    · exact absurd mayBe (passed ranked inFront)
    · rcases List.mem_cons.mp inBack with rfl | inBack
      · exact Int.le_refl _
      · exact (List.pairwise_cons.mp behind).1 ranked inBack
  have isSplit : calls = (start ++ between) ++ chosen :: later := by
    rw [isCalls, isRest, List.append_assoc]
  refine ⟨start ++ between, later, isSplit, isChoice, fun ranked member mayBe => ?_,
    fun ranked member => atMost ranked (by simp [isSplit, member])⟩
  have isCall : ranked ∈ calls := isSplit ▸ List.mem_append_left _ member
  refine Int.lt_iff_le_and_ne.mpr ⟨atMost ranked isCall mayBe, fun same => ?_⟩
  -- A rule of the same rank that was registered earlier stands in front of the chosen one.
  rcases List.mem_append.mp member with inStart | isBetween
  · have inFront : ranked ∈ front.filter fun ranked => ranked.rank = chosen.rank := by
      rw [← ofStart]
      exact List.mem_filter.mpr ⟨inStart, by simpa using same⟩
    exact passed ranked (List.mem_filter.mp inFront).1 mayBe
  · exact noneBetween ranked isBetween (by simpa using same)

end

/-! ## Asking rules -/

section

variable {context : ColumnContext} {field : Field} {chosen : RankedRule}

def Matches (context : ColumnContext) (field : Field) (ranked : RankedRule) : Prop :=
  (ranked.rule.matchesField context field).result = .ok true

/-- Asking the rules in their order comes to an end: none of those that are asked fails to answer. -/
def Decided (rules : ColumnRules) (context : ColumnContext) (field : Field) : Prop :=
  ∃ found, (rules.find? context field).result = .ok found

theorem split_of_find? (found : (rules.find? context field).result = .ok (some chosen)) :
    ∃ front back, rules = front ++ chosen :: back ∧ Matches context field chosen ∧
      ∀ ranked ∈ front, ¬ Matches context field ranked := by
  induction rules with
  | nil => cases found
  | cons first rest ih =>
    obtain ⟨isMatch, answer, found⟩ := Traced.result_bind_eq_ok.mp found
    cases isMatch with
    | true =>
      cases found
      exact ⟨[], rest, rfl, answer, fun _ member => absurd member List.not_mem_nil⟩
    | false =>
      obtain ⟨front, back, rfl, isMatch, passed⟩ := ih found
      refine ⟨first :: front, back, rfl, isMatch, fun ranked member => ?_⟩
      rcases List.mem_cons.mp member with rfl | inFront
      · simp [Matches, answer]
      · exact passed ranked inFront

theorem not_matches_of_find? (found : (rules.find? context field).result = .ok none) :
    ∀ ranked ∈ rules, ¬ Matches context field ranked := by
  induction rules with
  | nil => exact fun _ member => absurd member List.not_mem_nil
  | cons first rest ih =>
    obtain ⟨isMatch, answer, found⟩ := Traced.result_bind_eq_ok.mp found
    cases isMatch with
    | true => cases found
    | false =>
      intro ranked member
      rcases List.mem_cons.mp member with rfl | later
      · simp [Matches, answer]
      · exact ih found ranked later

theorem decided_of_answers
    (answers : ∀ ranked ∈ rules, ∃ isMatch, (ranked.rule.matchesField context field).result = .ok isMatch) :
    rules.Decided context field := by
  induction rules with
  | nil => exact ⟨none, rfl⟩
  | cons first rest ih =>
    obtain ⟨isMatch, answer⟩ := answers first List.mem_cons_self
    obtain ⟨found, isFound⟩ := ih fun ranked member => answers ranked (List.mem_cons_of_mem _ member)
    cases isMatch with
    | true => exact ⟨some first, Traced.result_bind_eq_ok.mpr ⟨true, answer, rfl⟩⟩
    | false => exact ⟨found, Traced.result_bind_eq_ok.mpr ⟨false, answer, isFound⟩⟩

end

end ColumnRules

/-! ## Using rules -/

section

variable {calls : List RankedRule} {context : ColumnContext} {field : Field}

/-- What a field gets of the columns that a rule makes: where something is wrong with the field alone, the
settings decide. -/
def ColumnContext.settled (context : ColumnContext) (field : Field) :
    Except Failure (List Column) → Except Failure (List Column)
  | .ok columns => .ok columns
  | .error failure =>
    if ColumnRules.isFieldFailure failure && context.config.fieldErrors == .degrade then
      .ok [.fallback field]
    else .error failure

namespace ColumnRules

/-- The rule for a field is the first choice of the matching ones. -/
structure Dispatches (calls : List RankedRule) (context : ColumnContext) (field : Field) : Prop where
  found : ∀ chosen, ((ofList calls).find? context field).result = .ok (some chosen) ↔
    FirstChoice (Matches context field) calls chosen
  /-- The first choice makes the columns of the field. -/
  used : ∀ chosen, FirstChoice (Matches context field) calls chosen →
    ((ofList calls).columnsOf context field).result =
      context.settled field (chosen.rule.columns context field).result
  /-- Where a rule matches there is a first choice. -/
  chosen : ∀ ranked ∈ calls, Matches context field ranked →
    ∃ chosen, FirstChoice (Matches context field) calls chosen
  /-- Where none matches the field has no column. -/
  skipped : (∀ ranked ∈ calls, ¬ Matches context field ranked) →
    ((ofList calls).columnsOf context field).result = .ok []

theorem columnsOf_of_find? {rules : ColumnRules} {chosen : RankedRule}
    (found : (rules.find? context field).result = .ok (some chosen)) :
    (rules.columnsOf context field).result =
      context.settled field (chosen.rule.columns context field).result := by
  have applied : (rules.apply context field).result = (chosen.rule.columns context field).result := by
    rw [apply, Traced.result_bind, found]
    rfl
  rw [columnsOf_result, applied]
  rfl

theorem columnsOf_of_find?_none {rules : ColumnRules}
    (found : (rules.find? context field).result = .ok none) :
    (rules.columnsOf context field).result = .ok [] := by
  have applied : (rules.apply context field).result = .ok [] := by
    rw [apply, Traced.result_bind, found]
    rfl
  rw [columnsOf_result, applied]

theorem dispatches (decided : (ofList calls).Decided context field) : Dispatches calls context field := by
  have registered := registered_ofList calls
  have firstChoice {chosen : RankedRule}
      (found : ((ofList calls).find? context field).result = .ok (some chosen)) :
      FirstChoice (Matches context field) calls chosen := by
    obtain ⟨front, back, split, isMatch, passed⟩ := split_of_find? found
    rw [split] at registered
    exact registered.firstChoice isMatch passed
  have noMatch (found : ((ofList calls).find? context field).result = .ok none) :
      ∀ ranked ∈ calls, ¬ Matches context field ranked := fun ranked member =>
    not_matches_of_find? found ranked (registered.same.mem_iff.mpr member)
  have found {chosen : RankedRule} (first : FirstChoice (Matches context field) calls chosen) :
      ((ofList calls).find? context field).result = .ok (some chosen) := by
    obtain ⟨found, isFound⟩ := decided
    cases found with
    | some other => rw [isFound, (firstChoice isFound).unique first]
    | none =>
      obtain ⟨earlier, later, split, isMatch, -⟩ := first
      exact absurd isMatch (noMatch isFound chosen (by simp [split]))
  refine ⟨fun chosen => ⟨firstChoice, found⟩, fun chosen first => columnsOf_of_find? (found first), ?_, ?_⟩
  · intro ranked member isMatch
    obtain ⟨found, isFound⟩ := decided
    cases found with
    | some chosen => exact ⟨chosen, firstChoice isFound⟩
    | none => exact absurd isMatch (noMatch isFound ranked member)
  · intro none
    obtain ⟨found, isFound⟩ := decided
    cases found with
    | some chosen =>
      obtain ⟨earlier, later, split, isMatch, -⟩ := firstChoice isFound
      exact absurd isMatch (none chosen (by simp [split]))
    | none => exact columnsOf_of_find?_none isFound

/-- Rules of different ranks are the same rules in whatever order they are registered. -/
theorem ofList_eq_of_perm {others : List RankedRule} (same : others.Perm calls)
    (apart : (calls.map RankedRule.rank).Nodup) : ofList others = ofList calls := by
  have registered := registered_ofList others
  refine Registered.unique ⟨registered.same.trans same, registered.falling, fun rank => ?_⟩
    (registered_ofList calls)
  have ofRank := same.filter fun ranked => decide (ranked.rank = rank)
  rw [registered.inTurn rank]
  have everywhere (ranked : List RankedRule) : ranked.Pairwise fun _ _ => True :=
    List.pairwise_of_forall fun _ _ => trivial
  refine List.Perm.eq_of_pairwise (fun first second isFirst isSecond _ _ => ?_) (everywhere _)
    (everywhere _) ofRank
  -- Two rules of one rank are one rule.
  obtain ⟨inOthers, firstRank⟩ := List.mem_filter.mp isFirst
  obtain ⟨inCalls, secondRank⟩ := List.mem_filter.mp isSecond
  rw [decide_eq_true_eq] at firstRank secondRank
  exact List.inj_on_of_nodup_map apart (same.mem_iff.mp inOthers) inCalls (firstRank.trans secondRank.symm)

end ColumnRules

end

/-- Column rules go by their ranks. What registering leaves holds the registered rules from the highest rank
down, those of one rank as they came, and is sorted stably again with each call. A field gets its columns
from the matching rule of the highest rank, of equal ranks from the one that was registered first, and has
none where no rule matches. Rules of different ranks compile every entity alike in whatever order they are
registered. -/
theorem columnRules_byRank :
    (∀ calls, ColumnRules.Registered calls (.ofList calls) ∧
      ∀ ranked, ColumnRules.ofList (calls ++ [ranked]) =
        (ColumnRules.ofList calls ++ [ranked]).mergeSort ColumnRules.mayPrecede) ∧
    (∀ calls context field, (ColumnRules.ofList calls).Decided context field →
      ColumnRules.Dispatches calls context field) ∧
    ∀ calls others : List RankedRule, others.Perm calls → (calls.map RankedRule.rank).Nodup →
      ∀ (entity : Entity) config types,
        entity.compile ⟨config, types, .ofList others⟩ = entity.compile ⟨config, types, .ofList calls⟩ := by
  refine ⟨fun calls => ?_, fun _ _ _ decided => ColumnRules.dispatches decided,
    fun calls others same apart entity config types => ?_⟩
  · have registered := ColumnRules.registered_ofList calls
    refine ⟨registered, fun ranked => ?_⟩
    rw [ColumnRules.ofList_concat, registered.register_eq_mergeSort]
  · rw [ColumnRules.ofList_eq_of_perm same apart]

/-- Two rules of one rank match an enum field, and the one that was registered first makes its column; and
the standard rules compile an entity alike if they are registered from the lowest rank up. -/
theorem columnRules_byRank_status :
    let calls : List RankedRule := [⟨.regular, 5⟩, ⟨.json, 70⟩, ⟨.enum, 5⟩, ⟨.regular, -3⟩]
    let context : ColumnContext := ⟨"Post", .standard, .standard⟩
    let field : Field := { Field.plain "status" with kind := some .enum, enum := some ["draft"] }
    let standard : List RankedRule := ColumnRule.all.map fun rule => ⟨rule, rule.rank⟩
    ColumnRules.Registered calls [⟨.json, 70⟩, ⟨.regular, 5⟩, ⟨.enum, 5⟩, ⟨.regular, -3⟩] ∧
      (ColumnRules.ofList calls).Decided context field ∧
      ColumnRules.FirstChoice (ColumnRules.Matches context field) calls ⟨.regular, 5⟩ ∧
      ((ColumnRules.ofList calls).columnsOf context field).result =
        context.settled field (ColumnRule.regular.columns context field).result ∧
      standard.reverse.Perm standard ∧ (standard.map RankedRule.rank).Nodup ∧
      ∀ (entity : Entity) config types,
        entity.compile ⟨config, types, .ofList standard.reverse⟩ =
          entity.compile ⟨config, types, .standard⟩ := by
  intro calls context field standard
  obtain ⟨registering, dispatching, compiling⟩ := columnRules_byRank
  have decided : (ColumnRules.ofList calls).Decided context field := by
    refine ColumnRules.decided_of_answers ?_
    rw [show ColumnRules.ofList calls = [⟨.json, 70⟩, ⟨.regular, 5⟩, ⟨.enum, 5⟩, ⟨.regular, -3⟩] from rfl]
    simp only [List.forall_mem_cons]
    exact ⟨⟨false, rfl⟩, ⟨true, rfl⟩, ⟨true, rfl⟩, ⟨true, rfl⟩, fun _ member => nomatch member⟩
  have dispatches := dispatching calls context field decided
  have first := (dispatches.found ⟨.regular, 5⟩).mp rfl
  have same : standard.reverse.Perm standard := List.reverse_perm standard
  have apart : (standard.map RankedRule.rank).Nodup := by decide
  exact ⟨(registering calls).1, decided, first, dispatches.used _ first, same, apart,
    compiling standard standard.reverse same apart⟩

end EntitySchema
