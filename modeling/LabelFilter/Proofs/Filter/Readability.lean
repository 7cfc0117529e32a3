import Mathlib.Data.List.Nodup
import LabelFilter.Proofs.Filter.Expression

/-!
# Unique readability

A predicate can be read back: its text determines the metric, the conditions in their order, and the
combinator wherever it matters. Whatever the values are made of, two filters with one predicate say
the same, and only the spelling of their operators may differ.

## Main definitions

* `Reading`, `Filter.readings` — what a filter says, however its operators are spelled
* `Operator.IsSpelling`, `Item.Respelled` — tokens of one operator

## Main results

* `Operator.ofToken?_eq_some_iff` — a token names the operator that it spells
* `Condition.expr_injective` — conditions are determined by their expressions
* `Compiler.predicate_eq_iff_readings` — predicates are equal when they say the same, and only then
-/

namespace LabelFilter

open Sql (Expr)

/-! ### Readings -/

/-- What an item says: a key, the operator that its token names, and the operand. -/
structure Reading where
  key : String
  operator : Option Operator
  operand : Option Operand
  deriving DecidableEq, Repr

/-- What an item says. -/
def Item.reading (item : Item) : Reading :=
  ⟨item.key, Operator.ofToken? item.operator, item.operand⟩

/-- What the items of a filter say, except for those on excluded keys. -/
def Filter.readings (f : Filter) (excluded : List String) : List Reading :=
  (f.keptItems excluded).map Item.reading

/-- What a condition says. -/
def Condition.reading (c : Condition) : Reading :=
  ⟨c.key, some c.test.operator, c.test.operand⟩

theorem Condition.reading_injective {c c' : Condition} (h : c.reading = c'.reading) : c = c' := by
  simp only [reading, Reading.mk.injEq, Option.some.injEq] at h
  obtain ⟨hkey, hoperator, hoperand⟩ := h
  have htest := Test.ext_operator_operand hoperator hoperand
  cases c
  cases c'
  simp_all

theorem Item.reading_eq {item : Item} {c : Condition} (h : item.condition = .ok c) :
    item.reading = c.reading := by
  obtain ⟨op, hop, htest, hkey⟩ := Item.condition_eq_ok_iff.mp h
  rw [reading, Condition.reading, hop, hkey, Test.operator_ofOperand? htest,
    Test.operand_ofOperand? htest]

theorem States.map_reading {items : List Item} {cs : List Condition} (h : States items cs) :
    items.map Item.reading = cs.map Condition.reading := by
  rw [States] at h
  induction h with
  | nil => rfl
  | cons hc _ ih => rw [List.map_cons, List.map_cons, Item.reading_eq hc, ih]

theorem Compiler.Yields.readings_eq {c : Compiler} {f : Filter} {s : Scope}
    {stated implied : List Condition} (h : c.Yields f s stated implied) :
    f.readings s.excluded = (kept s stated).map Condition.reading :=
  (h.stated.filter fun key => !s.excluded.contains key).map_reading

/-! ### Spellings -/

/-- Whether a token spells an operator: it is one of its tokens up to letter case, with blanks
around it. -/
def Operator.IsSpelling (token : String) (op : Operator) : Prop :=
  ∃ entry ∈ tokens, entry.2 = op ∧ Text.sameLetters entry.1 (Text.trim token) = true

/-- No two tokens of the vocabulary are the same up to letter case. -/
theorem Operator.nodup_upper_tokens : (tokens.map fun entry => Text.upper entry.1).Nodup := by
  decide

/-- A text has the letters of one token at most. -/
theorem Operator.eq_of_sameLetters {s : String} : ∀ entry ∈ tokens, ∀ entry' ∈ tokens,
    Text.sameLetters entry.1 s = true → Text.sameLetters entry'.1 s = true → entry = entry' := by
  intro entry hmem entry' hmem' h h'
  exact List.inj_on_of_nodup_map nodup_upper_tokens hmem hmem'
    ((Text.sameLetters_iff.mp h).trans (Text.sameLetters_iff.mp h').symm)

/-- A token names the operator that it spells. -/
theorem Operator.ofToken?_eq_some_iff {token : String} {op : Operator} :
    ofToken? token = some op ↔ IsSpelling token op := by
  rw [ofToken?, IsSpelling, Option.map_eq_some_iff]
  refine exists_congr fun entry => ?_
  rw [find?_eq_some_iff_of_unique eq_of_sameLetters, and_assoc,
    and_comm (a := Text.sameLetters _ _ = true)]

/-- Items that differ in the spelling of their operator only. -/
structure Item.Respelled (item item' : Item) : Prop where
  key : item.key = item'.key
  operand : item.operand = item'.operand
  operator : ∃ op, Operator.IsSpelling item.operator op ∧ Operator.IsSpelling item'.operator op

theorem Item.Respelled.reading_eq {item item' : Item} (h : item.Respelled item') :
    item.reading = item'.reading := by
  obtain ⟨op, hop, hop'⟩ := h.operator
  rw [reading, reading, Operator.ofToken?_eq_some_iff.mpr hop,
    Operator.ofToken?_eq_some_iff.mpr hop', h.key, h.operand]

/-- Filters whose operators are spelled differently say the same. -/
theorem Filter.readings_eq_of_respelled {f g : Filter}
    (h : List.Forall₂ Item.Respelled f.items g.items) (excluded : List String) :
    f.readings excluded = g.readings excluded := by
  have hkept : List.Forall₂ Item.Respelled (f.keptItems excluded) (g.keptItems excluded) :=
    List.rel_filter (fun item item' h => by simp only [h.key]) h
  have := List.forall₂_map_left_iff.mpr (List.forall₂_map_right_iff.mpr
    (hkept.imp fun _ _ => Item.Respelled.reading_eq))
  exact List.forall₂_eq_eq_eq ▸ this

/-! ### Conditions -/

namespace Dialect

variable {d : Dialect} {key key' p p' : String} {a a' : Expr} {negated : Bool}

@[simp] theorem labelExpr_inj : d.labelExpr key = d.labelExpr key' ↔ key = key' := by
  cases d <;> simp [labelExpr, Sql.labelPath_injective.eq_iff]

@[simp] theorem hasLabelExpr_inj : d.hasLabelExpr key = d.hasLabelExpr key' ↔ key = key' := by
  cases d <;> simp [hasLabelExpr, Sql.labelPath_injective.eq_iff]

@[simp] theorem likeExpr_inj :
    d.likeExpr a p negated = d.likeExpr a' p' negated ↔ a = a' ∧ p = p' := by
  cases d <;> simp [likeExpr]

@[simp] theorem regexExpr_inj :
    d.regexExpr a p negated = d.regexExpr a' p' negated ↔ a = a' ∧ p = p' := by
  cases negated <;> simp [regexExpr]

/-- The operator that a function of a dialect stands for. -/
def operatorOfCall? (d : Dialect) (f : String) : Option Operator :=
  match d.functions.lookup f with
  | some .like => some .like
  | some .notLike => some .notLike
  | some .regex => some .regex
  | some .has | some .hasAt => some .present
  | _ => none

/-- The operator that an expression was made with. -/
def operatorOf? (d : Dialect) : Expr → Option Operator
  | .compare .equal negated _ _ => some (if negated then .notEqual else .equal)
  | .compare .member negated _ _ => some (if negated then .noneOf else .oneOf)
  | .compare .like negated _ _ => some (if negated then .notLike else .like)
  | .call f _ _ => d.operatorOfCall? f
  | .not (.call f _ _) =>
    (d.operatorOfCall? f).map fun op => if op = .regex then .notRegex else .absent
  | _ => none

end Dialect

theorem Condition.operatorOf?_expr (d : Dialect) (c : Condition) :
    d.operatorOf? (c.expr d) = some c.test.operator := by
  obtain ⟨key, test⟩ := c
  cases d <;> cases test <;> rfl

/-- **Conditions are determined by their expressions.** -/
theorem Condition.expr_injective {d : Dialect} {c c' : Condition} (h : c.expr d = c'.expr d) :
    c = c' := by
  have hop : c.test.operator = c'.test.operator := by
    rw [← Option.some.injEq, ← c.operatorOf?_expr d, ← c'.operatorOf?_expr d, h]
  obtain ⟨key, test⟩ := c
  obtain ⟨key', test'⟩ := c'
  cases test <;> cases test' <;> try cases hop
  all_goals simpa [expr] using h

theorem Condition.isAnd_expr (d : Dialect) (c : Condition) : (c.expr d).isAnd = false := by
  obtain ⟨key, test⟩ := c
  cases d <;> cases test <;> rfl

theorem Condition.isOr_expr (d : Dialect) (c : Condition) : (c.expr d).isOr = false := by
  obtain ⟨key, test⟩ := c
  cases d <;> cases test <;> rfl

/-! ### Predicates -/

/-- Members are gathered to one if there are several alternatives, and not at all otherwise. -/
theorem Combinator.gather_cases {α : Type} (op : Combinator) (group : List α → α) (as : List α) :
    (op.gather group as = as ∧ (2 ≤ as.length → op = .all)) ∨
      (op.gather group as = [group as] ∧ 2 ≤ as.length ∧ op = .any) := by
  match op, as with
  | .all, [] | .any, [] | .all, [_] | .any, [_] => exact .inl ⟨rfl, by simp⟩
  | .all, _ :: _ :: _ => exact .inl ⟨rfl, fun _ => rfl⟩
  | .any, _ :: _ :: _ => exact .inr ⟨rfl, by simp, rfl⟩

namespace Compiler

variable {c : Compiler} {op op' : Combinator} {s s' : Scope} {es es' : List Expr}

theorem isOr_groupExpr (h : 2 ≤ es.length) : (groupExpr es).isOr = true := by
  match es, h with
  | _ :: _ :: _, _ => rfl

theorem isAnd_groupExpr (h : ∀ e ∈ es, e.isAnd = false) : (groupExpr es).isAnd = false := by
  match es with
  | [] => rfl
  | [e] => exact h e (.head _)
  | _ :: _ :: _ => rfl

theorem groupExpr_injective (hl : ∀ e ∈ es, e.isOr = false) (hr : ∀ e ∈ es', e.isOr = false)
    (hlen : 2 ≤ es.length) (hlen' : 2 ≤ es'.length) (h : groupExpr es = groupExpr es') :
    es = es' := by
  match es, es' with
  | _ :: _, _ :: _ => exact Expr.chain_or_injective hl hr h

/-- Gathered expressions determine their members, and the combinator if there are several. -/
theorem gather_groupExpr_injective (hl : ∀ e ∈ es, e.isOr = false)
    (hr : ∀ e ∈ es', e.isOr = false) (h : op.gather groupExpr es = op'.gather groupExpr es') :
    es = es' ∧ (2 ≤ es.length → op = op') := by
  obtain ⟨heq, hop⟩ | ⟨heq, hlen, hop⟩ := op.gather_cases groupExpr es <;>
    obtain ⟨heq', hop'⟩ | ⟨heq', hlen', hop'⟩ := op'.gather_cases groupExpr es' <;>
    rw [heq, heq'] at h
  · subst h
    exact ⟨rfl, fun hlen => (hop hlen).trans (hop' hlen).symm⟩
  · have := hl (groupExpr es') (by simp [h])
    rw [isOr_groupExpr hlen'] at this
    cases this
  · have := hr (groupExpr es) (by simp [← h])
    rw [isOr_groupExpr hlen] at this
    cases this
  · exact ⟨groupExpr_injective hl hr hlen hlen' (List.cons_eq_cons.mp h).1,
      fun _ => hop.trans hop'.symm⟩

/-- A predicate determines the metric, the conditions that are left, and the combinator if there
are several of them. -/
theorem expr_injective {stated stated' implied : List Condition}
    (h : c.expr op s stated implied = c.expr op' s' stated' implied) :
    s.metric = s'.metric ∧ kept s stated = kept s' stated' ∧
      (2 ≤ (kept s stated).length → op = op') := by
  have hand : ∀ cs : List Condition, ∀ e ∈ cs.map (Condition.expr c.dialect), e.isAnd = false := by
    simpa using fun _ cond _ => cond.isAnd_expr c.dialect
  have hor : ∀ cs : List Condition, ∀ e ∈ cs.map (Condition.expr c.dialect), e.isOr = false := by
    simpa using fun _ cond _ => cond.isOr_expr c.dialect
  have hmembers : ∀ (op : Combinator) (s : Scope) (stated : List Condition),
      ∀ e ∈ metricExpr s.metric ::
        (op.gather groupExpr ((kept s stated).map (Condition.expr c.dialect)) ++
          implied.map (Condition.expr c.dialect)), e.isAnd = false := by
    intro op s stated
    refine List.forall_mem_cons.mpr ⟨rfl, List.forall_mem_append.mpr ⟨?_, hand implied⟩⟩
    exact Combinator.forall_mem_gather (fun _ => isAnd_groupExpr (hand _)) (hand _)
  have hcons := Expr.chain_and_injective (hmembers op s stated) (hmembers op' s' stated') h
  obtain ⟨hmetric, hrest⟩ := List.cons_eq_cons.mp hcons
  obtain ⟨hkept, hop⟩ := gather_groupExpr_injective (hor _) (hor _) (List.append_cancel_right hrest)
  refine ⟨?_, ?_, by simpa using hop⟩
  · simpa [metricExpr] using hmetric
  · exact List.map_injective_iff.mpr (fun _ _ => Condition.expr_injective) hkept

/-- Predicates of the same conditions are the same, where the combinator only counts if there are
several conditions. -/
theorem assemble_congr {stated stated' : List Condition} (implied : List Condition)
    (hmetric : s.metric = s'.metric) (hkept : kept s stated = kept s' stated')
    (hop : 2 ≤ (kept s stated).length → op = op') :
    c.assemble op s stated implied = c.assemble op' s' stated' implied := by
  have hgather : ∀ rows : List (List Sql.Piece), (2 ≤ rows.length → op = op') →
      op.gather groupPieces rows = op'.gather groupPieces rows := by
    intro rows h
    match rows with
    | [] | [_] => cases op <;> cases op' <;> rfl
    | _ :: _ :: _ => rw [h (by simp)]
  rw [← String.toList_inj, toList_assemble, toList_assemble, pieces, pieces, ← hmetric, ← hkept,
    hgather _ (by simpa using hop)]

/-- **Predicates are uniquely readable**: they are equal exactly if their filters say the same of
the same metric, in the same order and with the same combinator if there are several items. How
operators are spelled makes no difference. -/
theorem predicate_eq_iff_readings {f g : Filter} {a b : String}
    (haggregation : s.aggregation = s'.aggregation) (h : c.predicate f s = .ok a)
    (h' : c.predicate g s' = .ok b) :
    (a = b ↔ s.metric = s'.metric ∧ f.readings s.excluded = g.readings s'.excluded ∧
      (2 ≤ (f.readings s.excluded).length → f.combinator = g.combinator)) ∧
    (s.metric = s'.metric → s.excluded = s'.excluded → f.combinator = g.combinator →
      List.Forall₂ Item.Respelled f.items g.items → a = b) := by
  obtain ⟨stated, implied, hyields, rfl⟩ := predicate_eq_ok_iff.mp h
  obtain ⟨stated', implied', hyields', rfl⟩ := predicate_eq_ok_iff.mp h'
  obtain rfl : implied = implied' := hyields.implied.unique (haggregation ▸ hyields'.implied)
  have hiff :
      c.assemble f.combinator s stated implied = c.assemble g.combinator s' stated' implied ↔
      s.metric = s'.metric ∧ f.readings s.excluded = g.readings s'.excluded ∧
        (2 ≤ (f.readings s.excluded).length → f.combinator = g.combinator) := by
    rw [hyields.readings_eq, hyields'.readings_eq, List.length_map,
      (List.map_injective_iff.mpr fun _ _ => Condition.reading_injective).eq_iff]
    constructor
    · intro heq
      have hread := c.read_assemble f.combinator s hyields.stated.isStated hyields.implied.isStated
      rw [heq, c.read_assemble g.combinator s' hyields'.stated.isStated hyields.implied.isStated]
        at hread
      exact expr_injective (Option.some.inj hread).symm
    · exact fun ⟨hmetric, hkept, hop⟩ => assemble_congr implied hmetric hkept hop
  refine ⟨hiff, fun hmetric hexcluded hop hitems => hiff.mpr ⟨hmetric, ?_, fun _ => hop⟩⟩
  exact hexcluded ▸ Filter.readings_eq_of_respelled hitems s.excluded

/-- Two spellings of one operator, and two combinators of one item that is left. -/
theorem predicate_of_respelled :
    ∃ text, (⟨.clickhouse, []⟩ : Compiler).predicate
        ⟨.any, [⟨"env", some (.list ["a') OR (b", "c"]), " nin"⟩, ⟨"pod", none, "EXISTS"⟩]⟩
        ⟨"up", ["pod"], .sum⟩ = .ok text ∧
      (⟨.clickhouse, []⟩ : Compiler).predicate
        ⟨.all, [⟨"env", some (.list ["a') OR (b", "c"]), "Not_In"⟩]⟩
        ⟨"up", [], .sum⟩ = .ok text := by
  have hsame := (@predicate_eq_iff_readings ⟨.clickhouse, []⟩
    ⟨"up", ["pod"], .sum⟩ ⟨"up", [], .sum⟩
    ⟨.any, [⟨"env", some (.list ["a') OR (b", "c"]), " nin"⟩, ⟨"pod", none, "EXISTS"⟩]⟩
    ⟨.all, [⟨"env", some (.list ["a') OR (b", "c"]), "Not_In"⟩]⟩ _ _ rfl rfl rfl).1.mpr
    ⟨rfl, by decide, by decide⟩
  exact ⟨_, rfl, congrArg Except.ok hsame.symm⟩

end Compiler

end LabelFilter
