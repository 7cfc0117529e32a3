import LabelFilter.Proofs.Filter.Faults

/-!
# Implied items

What an aggregation implies is checked and written apart from what a filter states. For a filter
whose items must all hold it comes to the same as if the filter had stated it as well; for
alternatives it does not, because what is implied is no alternative. In both cases a predicate is
the predicate without rules, with the implied conditions as further conjuncts behind it.

## Main definitions

* `Compiler.withoutRules` — a compiler that knows of no rules
* `Compiler.impliedText` — what an aggregation adds to every predicate

## Main results

* `Compiler.predicate_eq_append` — a predicate is the one without rules and what is added to it
* `Compiler.predicate_eq_stated` — implied items are as good as stated ones
* `Compiler.predicate_of_rules` — how rules come into predicates
-/

namespace LabelFilter

namespace Compiler

/-- A compiler of the same dialect that knows of no rules. -/
def withoutRules (c : Compiler) : Compiler := { c with rules := [] }

/-- What an aggregation adds to a predicate. -/
def impliedText (c : Compiler) (a : Aggregation) : Except ItemError String :=
  ((c.rules.implied a).mapM Item.condition).map fun implied =>
    String.join (implied.map fun cond => " AND " ++ cond.sql c.dialect labelsColumn)

variable {c : Compiler} {f : Filter} {s : Scope}

theorem predicate_withoutRules (c : Compiler) (f : Filter) (s : Scope) :
    c.withoutRules.predicate f s = (do
      let stated ← f.items.mapM Item.condition
      return c.assemble f.combinator s stated []) := by
  rw [predicate_eq_do]
  rfl

/-- The implied conditions stand behind all others. -/
theorem assemble_eq_append (c : Compiler) (op : Combinator) (s : Scope)
    (stated implied : List Condition) :
    c.assemble op s stated implied = c.assemble op s stated [] ++
      String.join (implied.map fun cond => " AND " ++ cond.sql c.dialect labelsColumn) := by
  simp only [assemble, List.map_nil, List.append_nil]
  rw [intercalate_append_eq_join _ (List.cons_ne_nil _ _), List.map_map]
  rfl

/-- **A predicate is the one without rules and what is added to it.** -/
theorem predicate_eq_append (c : Compiler) (f : Filter) (s : Scope) :
    c.predicate f s = (do
      let own ← c.withoutRules.predicate f s
      let added ← c.impliedText s.aggregation
      return own ++ added) := by
  rw [predicate_eq_do, predicate_withoutRules, impliedText]
  cases f.items.mapM Item.condition with
  | error e => rfl
  | ok stated =>
    cases (c.rules.implied s.aggregation).mapM Item.condition with
    | error e => rfl
    | ok implied => exact congrArg Except.ok (c.assemble_eq_append f.combinator s stated implied)

/-! ### Implied items as stated ones -/

theorem assemble_all_append {implied : List Condition} (stated : List Condition)
    (h : ∀ cond ∈ implied, cond.key ∉ s.excluded) :
    c.assemble .all s (stated ++ implied) [] = c.assemble .all s stated implied := by
  have hkept : implied.filter (fun cond => !s.excluded.contains cond.key) = implied :=
    List.filter_eq_self.mpr fun cond hcond => by simpa using h cond hcond
  have hall : ∀ fs, Combinator.conjuncts .all fs = fs := fun fs => by
    rw [Combinator.conjuncts.eq_def]
  simp only [assemble, List.filter_append, hkept, hall, List.map_append, List.map_nil,
    List.append_nil, List.cons_append]

/-- **Implied items are as good as stated ones**, if all items must hold and no implied one is on
an excluded key. -/
theorem predicate_eq_stated (hop : f.combinator = .all)
    (hkeys : ∀ item ∈ c.rules.implied s.aggregation, item.key ∉ s.excluded) :
    c.predicate f s =
      c.withoutRules.predicate ⟨.all, f.items ++ c.rules.implied s.aggregation⟩ s := by
  rw [predicate_eq_do, predicate_withoutRules, hop, List.mapM_append]
  simp only [bind_assoc, pure_bind]
  refine bind_congr fun stated => bind_congr_of_ok fun implied himplied => ?_
  have hconds : ∀ cond ∈ implied, cond.key ∉ s.excluded :=
    (States.forall_mem_key_iff (P := (· ∉ s.excluded)) (mapM_eq_ok_iff.mp himplied)).mp hkeys
  exact congrArg Except.ok (assemble_all_append stated hconds).symm

/-- A filter that is in order has a predicate without rules, and what is added to it does not
depend on the filter. -/
theorem predicate_of_forall_isValid (c : Compiler) (s : Scope)
    (h : ∀ item ∈ f.items, item.IsValid) :
    ∃ own, c.withoutRules.predicate f s = .ok own ∧
      c.predicate f s = (c.impliedText s.aggregation).map (own ++ ·) := by
  obtain ⟨stated, hstated⟩ := exists_mapM_eq_ok_iff.mpr h
  have hown : c.withoutRules.predicate f s = .ok (c.assemble f.combinator s stated []) := by
    rw [predicate_withoutRules, hstated]
    rfl
  refine ⟨_, hown, ?_⟩
  rw [predicate_eq_append, hown]
  cases c.impliedText s.aggregation <;> rfl

/-! ### Rules that count -/

/-- A table of rules counts for the items that it implies. -/
theorem predicate_congr_rules (c : Compiler) (f : Filter) {s : Scope} {rules rules' : RuleTable}
    (h : rules.implied s.aggregation = rules'.implied s.aggregation) :
    ({ c with rules := rules } : Compiler).predicate f s =
      ({ c with rules := rules' } : Compiler).predicate f s := by
  simp only [predicate_eq_do, h]
  rfl

/-- **How rules come into predicates.** The items of the rules for the aggregation, in the order of
the table and once for each rule, might as well have been stated, if all items must hold and none
of these is on an excluded key; the errors are the same then, too. Whatever the combinator is, they
are conjuncts of their own behind the predicate without rules, so that they are no alternatives.
Rules for other aggregations do not count, not even if they are faulty, and it does not matter how
often a rule lists the aggregation. -/
theorem predicate_of_rules (c : Compiler) (f : Filter) (s : Scope) :
    let items := (c.rules.filter fun rule => s.aggregation ∈ rule.aggregations).map Rule.item
    (f.combinator = .all → (∀ item ∈ items, item.key ∉ s.excluded) →
      c.predicate f s = c.withoutRules.predicate ⟨.all, f.items ++ items⟩ s) ∧
    ((∀ item ∈ f.items, item.IsValid) → ∃ own, c.withoutRules.predicate f s = .ok own ∧
      c.predicate f s = (items.mapM Item.condition).map fun implied =>
        own ++ String.join (implied.map fun cond => " AND " ++ cond.sql c.dialect labelsColumn)) ∧
    (∀ before rule after, s.aggregation ∉ rule.aggregations →
      ({ c with rules := before ++ rule :: after } : Compiler).predicate f s =
        ({ c with rules := before ++ after } : Compiler).predicate f s) ∧
    ∀ before aggregations item after, s.aggregation ∈ aggregations →
      ({ c with rules := before ++ ⟨aggregations, item⟩ :: after } : Compiler).predicate f s =
        ({ c with
            rules := before ++ ⟨[s.aggregation], item⟩ :: after } : Compiler).predicate f s := by
  intro items
  have hitems : c.rules.implied s.aggregation = items := by
    simp only [RuleTable.implied, items, List.contains_eq_mem]
  refine ⟨fun hop hkeys => ?_, fun hvalid => ?_, fun before rule after h => ?_,
    fun before aggregations item after h => ?_⟩
  · rw [predicate_eq_stated hop (hitems ▸ hkeys), hitems]
  · obtain ⟨own, hown, htext⟩ := predicate_of_forall_isValid c s hvalid
    refine ⟨own, hown, ?_⟩
    rw [htext, impliedText, hitems]
    cases items.mapM Item.condition <;> rfl
  · exact c.predicate_congr_rules f (by simp [RuleTable.implied, h])
  · exact c.predicate_congr_rules f (by simp [RuleTable.implied, h])

/-- A rule that lists the aggregation twice, between rules for other aggregations: a faulty one, and
one on an excluded key. -/
theorem predicate_of_repeated_rule :
    let le : Item := ⟨"le", none, "exists"⟩
    let faulty : Rule := ⟨[.max], ⟨"pod", none, "BAD"⟩⟩
    let other : Rule := ⟨[.avg], ⟨"env", none, "exists"⟩⟩
    let c : Compiler := ⟨.duckdb, [faulty, ⟨[.sum, .max, .sum], le⟩, other]⟩
    let items : List Item := [⟨"env", some (.single "a"), "eq"⟩, ⟨"job", none, " EXISTS "⟩,
      ⟨"pod", some (.list ["x", "y' OR '"]), "NIN"⟩]
    let s : Scope := ⟨"up", ["env"], .sum⟩
    c.predicate ⟨.all, items⟩ s = c.withoutRules.predicate ⟨.all, items ++ [le]⟩ s ∧
      (∃ own, c.withoutRules.predicate ⟨.any, items⟩ s = .ok own ∧
        c.predicate ⟨.any, items⟩ s = .ok (own ++ " AND json_exists(labels, '$.\"le\"')")) ∧
      c.predicate ⟨.any, items⟩ s =
        (⟨.duckdb, [⟨[.sum, .max, .sum], le⟩, other]⟩ : Compiler).predicate ⟨.any, items⟩ s ∧
      c.predicate ⟨.any, items⟩ s =
        (⟨.duckdb, [faulty, ⟨[.sum], le⟩, other]⟩ : Compiler).predicate ⟨.any, items⟩ s := by
  intro le faulty other c items s
  have hvalid : ∀ item ∈ items, item.IsValid := by
    simpa [items] using ⟨⟨_, rfl⟩, ⟨_, rfl⟩, ⟨_, rfl⟩⟩
  obtain ⟨hstated, -, -, -⟩ := predicate_of_rules c ⟨.all, items⟩ s
  obtain ⟨-, hadded, hother, honce⟩ := predicate_of_rules c ⟨.any, items⟩ s
  obtain ⟨own, hown, htext⟩ := hadded hvalid
  have hle : ([⟨"le", none, "exists"⟩] : List Item).mapM Item.condition =
      .ok [⟨"le", .present⟩] := rfl
  have hsql : String.join (([⟨"le", .present⟩] : List Condition).map fun cond =>
      " AND " ++ cond.sql .duckdb labelsColumn) = " AND json_exists(labels, '$.\"le\"')" := by
    decide
  refine ⟨hstated rfl (by decide), ⟨own, hown, ?_⟩, ?_, ?_⟩
  · rw [← hsql]
    exact htext.trans (congrArg _ hle)
  · exact hother [] faulty [⟨[.sum, .max, .sum], le⟩, other] (by decide)
  · exact honce [faulty] [.sum, .max, .sum] le [other] (by decide)

end Compiler

end LabelFilter
