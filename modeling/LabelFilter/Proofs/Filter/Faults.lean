import LabelFilter.Proofs.Filter.Stated

/-!
# Faulty items

Items are checked in their order, and the first one that states no condition decides the error. A
compiler checks the items of the filter before the implied ones, and all of them before it writes
anything, so nothing else in its input has a say in whether it fails. A table of rules is checked
as a whole, whatever the aggregation.

## Main definitions

* `Item.IsValid` — items that state a condition
* `FirstFault` — the error of the first item that states none
* `RuleTable.FirstFaultFor` — the error of the first such rule for an aggregation

## Main results

* `Compiler.predicate_eq_error_iff` — when compiling fails, and with what
* `RuleTable.check_eq_ok_iff`, `RuleTable.check_eq_error_iff` — when a table of rules is in order
* `Compiler.outcome_of_items` — the items alone decide whether compiling fails, and with what
-/

namespace LabelFilter

/-- An item that states a condition. -/
def Item.IsValid (item : Item) : Prop := ∃ c, item.condition = .ok c

/-- `e` is the error of the first item that states no condition. -/
def FirstFault (items : List Item) (e : ItemError) : Prop :=
  ∃ before item after, items = before ++ item :: after ∧ (∀ i ∈ before, i.IsValid) ∧
    item.condition = .error e

section

variable {items : List Item} {e : ItemError}

theorem mapM_condition_eq_error_iff : items.mapM Item.condition = .error e ↔ FirstFault items e :=
  mapM_eq_error_iff

theorem exists_states_iff : (∃ cs, States items cs) ↔ ∀ item ∈ items, item.IsValid :=
  (exists_congr fun _ => mapM_eq_ok_iff.symm).trans exists_mapM_eq_ok_iff

theorem FirstFault.not_forall_isValid (h : FirstFault items e) :
    ¬ ∀ item ∈ items, item.IsValid := by
  obtain ⟨before, item, after, rfl, -, hitem⟩ := h
  intro hvalid
  obtain ⟨c, hc⟩ := hvalid item (by simp)
  cases hitem.symm.trans hc

/-- Some item is the first faulty one, unless all are in order. -/
theorem exists_firstFault_iff : (∃ e, FirstFault items e) ↔ ¬ ∀ item ∈ items, item.IsValid := by
  refine ⟨fun ⟨_, h⟩ => h.not_forall_isValid, fun h => ?_⟩
  cases hitems : items.mapM Item.condition with
  | error e => exact ⟨e, mapM_condition_eq_error_iff.mp hitems⟩
  | ok cs => exact absurd (exists_states_iff.mp ⟨cs, mapM_eq_ok_iff.mp hitems⟩) h

end

/-! ### Compilers -/

namespace Compiler

variable {c : Compiler} {f : Filter} {s : Scope} {e : ItemError}

/-- The items of the filter are checked before the implied ones. -/
theorem predicate_eq_error_iff : c.predicate f s = .error e ↔
    FirstFault f.items e ∨
      (∀ item ∈ f.items, item.IsValid) ∧ FirstFault (c.rules.implied s.aggregation) e := by
  rw [← exists_states_iff, ← mapM_condition_eq_error_iff, ← mapM_condition_eq_error_iff]
  simp only [States, ← mapM_eq_ok_iff]
  rw [predicate_eq_do]
  cases f.items.mapM Item.condition with
  | error e' => simp [bind, Except.bind]
  | ok stated =>
    cases (c.rules.implied s.aggregation).mapM Item.condition <;>
      simp [bind, Except.bind, pure, Except.pure]

/-- Where all implied items are in order, only the items of the filter count. -/
theorem predicate_eq_error_iff_of_implied
    (h : ∀ item ∈ c.rules.implied s.aggregation, item.IsValid) :
    c.predicate f s = .error e ↔ FirstFault f.items e := by
  rw [predicate_eq_error_iff, or_iff_left]
  exact fun hfault => hfault.2.not_forall_isValid h

end Compiler

/-! ### Tables of rules -/

namespace RuleTable

variable {rules : RuleTable} {e : ItemError}

theorem check_eq (rules : RuleTable) :
    rules.check = ((rules.map Rule.item).mapM Item.condition).map fun _ => () := by
  induction rules with
  | nil => rfl
  | cons r rules ih =>
    have hcheck : check (r :: rules) =
        r.item.condition.map (fun _ => ()) >>= fun _ => check rules := rfl
    rw [hcheck, ih, List.map_cons, List.mapM_cons]
    cases r.item.condition with
    | error e => rfl
    | ok c => cases (rules.map Rule.item).mapM Item.condition <;> rfl

theorem check_eq_ok_iff : rules.check = .ok () ↔ ∀ rule ∈ rules, rule.item.IsValid := by
  have hitems : (∀ rule ∈ rules, rule.item.IsValid) ↔
      ∃ cs, (rules.map Rule.item).mapM Item.condition = .ok cs := by
    rw [exists_mapM_eq_ok_iff, List.forall_mem_map]
    rfl
  rw [hitems, check_eq]
  cases (rules.map Rule.item).mapM Item.condition <;> simp [Except.map]

theorem check_eq_error_iff : rules.check = .error e ↔ FirstFault (rules.map Rule.item) e := by
  rw [← mapM_condition_eq_error_iff, check_eq]
  cases (rules.map Rule.item).mapM Item.condition <;> simp [Except.map]

theorem forall_mem_implied_iff {a : Aggregation} {P : Item → Prop} :
    (∀ item ∈ rules.implied a, P item) ↔ ∀ rule ∈ rules, a ∈ rule.aggregations → P rule.item := by
  rw [implied, List.forall_mem_map]
  simp only [List.mem_filter, List.contains_iff_mem, and_imp]

/-- The items that an aggregation implies are in order if all rules are. -/
theorem isValid_implied (h : ∀ rule ∈ rules, rule.item.IsValid) (a : Aggregation) :
    ∀ item ∈ rules.implied a, item.IsValid :=
  forall_mem_implied_iff.mpr fun rule hrule _ => h rule hrule

/-- `e` is the error of the first rule for an aggregation whose item states no condition. -/
def FirstFaultFor (rules : RuleTable) (a : Aggregation) (e : ItemError) : Prop :=
  ∃ before rule after, rules = before ++ rule :: after ∧
    (∀ r ∈ before, a ∈ r.aggregations → r.item.IsValid) ∧ a ∈ rule.aggregations ∧
    rule.item.condition = .error e

theorem firstFault_implied_iff {a : Aggregation} :
    FirstFault (rules.implied a) e ↔ rules.FirstFaultFor a e := by
  constructor
  · rintro ⟨before, item, after, hitems, hbefore, hitem⟩
    obtain ⟨front, back, hrules, rfl, hback⟩ := List.map_eq_append_iff.mp hitems
    obtain ⟨rule, back, rfl, rfl, rfl⟩ := List.map_eq_cons_iff.mp hback
    obtain ⟨rules₁, rules₂, rfl, rfl, hrules₂⟩ := List.filter_eq_append_iff.mp hrules
    obtain ⟨skipped, rest, rfl, hskipped, hrule, rfl⟩ := List.filter_eq_cons_iff.mp hrules₂
    refine ⟨rules₁ ++ skipped, rule, rest, by simp, ?_, by simpa using hrule, hitem⟩
    refine List.forall_mem_append.mpr ⟨forall_mem_implied_iff.mp hbefore, fun r hr ha => ?_⟩
    -- No rule between the ones before and the faulty one is for the aggregation.
    exact absurd (List.contains_iff_mem.mpr ha) (hskipped r hr)
  · rintro ⟨before, rule, after, rfl, hbefore, hrule, he⟩
    have hvalid := forall_mem_implied_iff.mpr hbefore
    refine ⟨implied before a, rule.item, implied after a, ?_, hvalid, he⟩
    simp [implied, hrule]

end RuleTable

/-! ### Outcomes -/

namespace Compiler

variable {c c' : Compiler} {f f' : Filter} {s s' : Scope} {e : ItemError}

theorem subQuery_eq_error_iff {source : SeriesTable} {tags : List String} :
    c.subQuery source f s tags = .error e ↔ c.predicate f s = .error e := by
  rw [subQuery]
  cases c.predicate f s <;> simp [bind, Except.bind, pure, Except.pure]

/-- The first faulty item decides the error, wherever it comes from. -/
theorem predicate_eq_error_iff_firstFaultFor : c.predicate f s = .error e ↔
    FirstFault f.items e ∨
      (∀ item ∈ f.items, item.IsValid) ∧ c.rules.FirstFaultFor s.aggregation e := by
  rw [predicate_eq_error_iff, RuleTable.firstFault_implied_iff]

theorem exists_predicate_eq_error_iff : (∃ e, c.predicate f s = .error e) ↔
    (∃ item ∈ f.items, ¬ item.IsValid) ∨
      ∃ rule ∈ c.rules, s.aggregation ∈ rule.aggregations ∧ ¬ rule.item.IsValid := by
  have hstated : (∃ item ∈ f.items, ¬ item.IsValid) ↔ ¬ ∀ item ∈ f.items, item.IsValid := by
    push Not
    rfl
  have himplied : (∃ rule ∈ c.rules, s.aggregation ∈ rule.aggregations ∧ ¬ rule.item.IsValid) ↔
      ¬ ∀ item ∈ c.rules.implied s.aggregation, item.IsValid := by
    rw [RuleTable.forall_mem_implied_iff]
    push Not
    rfl
  rw [hstated, himplied]
  simp only [predicate_eq_error_iff, exists_or, exists_and_left, exists_firstFault_iff]
  tauto

/-- **Errors are exact.** A filter is refused exactly if one of its items, on an excluded key or
not, or one that the aggregation implies states no condition. The first such item decides the
error, where those of the filter come before the implied ones. Nothing else has a say: with the
same items, rules and aggregation, predicates and sub-queries come to the same whatever the
dialect, the metric, the excluded keys, the combinator, the tables and the tags are. -/
theorem outcome_of_items (c : Compiler) (f : Filter) (s : Scope) :
    ((∃ e, c.predicate f s = .error e) ↔
      (∃ item ∈ f.items, ¬ item.IsValid) ∨
        ∃ rule ∈ c.rules, s.aggregation ∈ rule.aggregations ∧ ¬ rule.item.IsValid) ∧
    (∀ e, c.predicate f s = .error e ↔
      FirstFault f.items e ∨
        (∀ item ∈ f.items, item.IsValid) ∧ c.rules.FirstFaultFor s.aggregation e) ∧
    ∀ (c' : Compiler) (f' : Filter) (s' : Scope), c'.rules = c.rules → f'.items = f.items →
      s'.aggregation = s.aggregation →
      SameOutcome (c.predicate f s) (c'.predicate f' s') ∧
      ∀ source source' tags tags',
        SameOutcome (c.subQuery source f s tags) (c'.subQuery source' f' s' tags') := by
  refine ⟨exists_predicate_eq_error_iff, fun e => predicate_eq_error_iff_firstFaultFor, ?_⟩
  intro c' f' s' hrules hitems haggregation
  have herror : ∀ e, c.predicate f s = .error e ↔ c'.predicate f' s' = .error e := fun e => by
    rw [predicate_eq_error_iff, predicate_eq_error_iff, hrules, hitems, haggregation]
  refine ⟨sameOutcome_iff.mpr herror, fun source source' tags tags' => sameOutcome_iff.mpr ?_⟩
  intro e
  rw [subQuery_eq_error_iff, subQuery_eq_error_iff, herror]

/-- An implied item is faulty, and so is the rule before it, which is for another aggregation. -/
theorem outcome_of_faulty_rule :
    let rules : RuleTable :=
      [⟨[.max], ⟨"pod", none, "BAD"⟩⟩, ⟨[.avg, .sum], ⟨"le", some (.list []), "in"⟩⟩]
    let items : List Item := [⟨"env", some (.single "it's"), "eq"⟩, ⟨"job", none, " EXISTS "⟩]
    let e : ItemError := .wrongOperand "le" .oneOf .list .emptyList
    (⟨.duckdb, rules⟩ : Compiler).predicate ⟨.any, items⟩ ⟨"up", ["le", "env"], .sum⟩ = .error e ∧
      SameOutcome
        ((⟨.duckdb, rules⟩ : Compiler).subQuery ⟨"a", "b"⟩ ⟨.any, items⟩
          ⟨"up", ["le", "env"], .sum⟩ ["job"])
        ((⟨.clickhouse, rules⟩ : Compiler).subQuery ⟨"c", "d"⟩ ⟨.all, items⟩
          ⟨"down", [], .sum⟩ []) := by
  intro rules items e
  obtain ⟨-, herror, hsame⟩ :=
    outcome_of_items ⟨.duckdb, rules⟩ ⟨.any, items⟩ ⟨"up", ["le", "env"], .sum⟩
  refine ⟨(herror e).mpr (.inr ⟨?_, ?_⟩),
    (hsame ⟨.clickhouse, rules⟩ ⟨.all, items⟩ ⟨"down", [], .sum⟩ rfl rfl rfl).2 _ _ _ _⟩
  · simpa [items] using ⟨⟨_, rfl⟩, ⟨_, rfl⟩⟩
  · exact ⟨[_], _, [], rfl, by simp, by decide, rfl⟩

end Compiler

end LabelFilter
