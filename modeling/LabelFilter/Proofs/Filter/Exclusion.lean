import LabelFilter.Proofs.Filter.Implied
import LabelFilter.Proofs.Filter.Readability

/-!
# Excluded keys

Excluding keys is deleting items: a predicate does not tell whether the items on some keys were
excluded or had never been there. They must state conditions to be left out, and nothing more is
asked of them. What is implied is not left out, whichever key it is on.

## Main definitions

* `Scope.excluding` — a scope with other excluded keys
* `Filter.without` — a filter without its items on some keys

## Main results

* `Compiler.predicate_excluding_append` — keys can be excluded before or after deleting others
* `Compiler.predicate_excluding_congr` — only the keys of items count
* `Compiler.predicate_excluding` — excluding keys is deleting items
-/

namespace LabelFilter

/-- A scope with other excluded keys. -/
def Scope.excluding (s : Scope) (keys : List String) : Scope := { s with excluded := keys }

/-- A filter without its items on some keys. -/
def Filter.without (f : Filter) (keys : List String) : Filter :=
  { f with items := f.keptItems keys }

/-- Left-out items that are in order have no part in what the others state. -/
theorem Filter.mapM_keptItems {f : Filter} {keys : List String}
    (h : ∀ item ∈ f.items, item.key ∈ keys → item.IsValid) :
    (f.keptItems keys).mapM Item.condition =
      (f.items.mapM Item.condition).map (List.filter fun cond => !keys.contains cond.key) := by
  refine mapM_filter (fun item cond hcond => ?_) fun item hitem hkey => h item hitem ?_
  · rw [Item.key_eq_of_condition hcond]
  · simpa using hkey

namespace Compiler

variable {c : Compiler} {f : Filter} {s : Scope} {keys keys' : List String}

/-- Conditions on excluded keys might as well not be there. -/
theorem kept_excluding_append (s : Scope) (keys more : List String) (stated : List Condition) :
    kept (s.excluding (keys ++ more)) stated =
      kept (s.excluding more) (stated.filter fun cond => !keys.contains cond.key) := by
  rw [kept, kept, List.filter_filter]
  refine List.filter_congr fun cond _ => ?_
  simp [Scope.excluding, Bool.and_comm]

theorem assemble_excluding_congr (c : Compiler) (op : Combinator) {stated stated' : List Condition}
    (h : kept (s.excluding keys) stated = kept (s.excluding keys') stated')
    (implied : List Condition) :
    c.assemble op (s.excluding keys) stated implied =
      c.assemble op (s.excluding keys') stated' implied :=
  assemble_congr implied rfl h fun _ => rfl

/-- **Keys can be excluded, or their items be deleted**, if these are in order. -/
theorem predicate_excluding_append (c : Compiler) (s : Scope)
    (h : ∀ item ∈ f.items, item.key ∈ keys → item.IsValid) (more : List String) :
    c.predicate f (s.excluding (keys ++ more)) =
      c.predicate (f.without keys) (s.excluding more) := by
  have hitems := Filter.mapM_keptItems h
  rw [predicate_eq_do, predicate_eq_do, Filter.without, hitems]
  cases f.items.mapM Item.condition with
  | error e => rfl
  | ok stated =>
    have hkept := kept_excluding_append s keys more stated
    exact bind_congr fun implied =>
      congrArg Except.ok (c.assemble_excluding_congr f.combinator hkept implied)

/-- **Only the keys of items count** among the excluded ones. -/
theorem predicate_excluding_congr (c : Compiler) (s : Scope)
    (h : ∀ item ∈ f.items, item.key ∈ keys ↔ item.key ∈ keys') :
    c.predicate f (s.excluding keys) = c.predicate f (s.excluding keys') := by
  rw [predicate_eq_do, predicate_eq_do]
  refine bind_congr_of_ok fun stated hstated => bind_congr fun implied => ?_
  have hkeys : ∀ cond ∈ stated, cond.key ∈ keys ↔ cond.key ∈ keys' :=
    (States.forall_mem_key_iff (P := fun key => key ∈ keys ↔ key ∈ keys')
      (mapM_eq_ok_iff.mp hstated)).mp h
  have hkept : kept (s.excluding keys) stated = kept (s.excluding keys') stated :=
    List.filter_congr fun cond hcond => by simp [Scope.excluding, hkeys cond hcond]
  exact congrArg Except.ok (c.assemble_excluding_congr f.combinator hkept implied)

/-- **Excluding keys is deleting items**, in the text and in the errors of implied items, if the
items that are left out are in order. So the order of the excluded keys and their repetitions do
not count, some of the keys can be excluded and the items on the others deleted, and keys that no
item has do not count. What is implied is not left out: it is added to the predicate without rules,
which alone depends on the excluded keys. -/
theorem predicate_excluding (c : Compiler) (f : Filter) (s : Scope) (keys : List String)
    (hvalid : ∀ item ∈ f.items, item.key ∈ keys → item.IsValid) :
    c.predicate f (s.excluding keys) = c.predicate (f.without keys) (s.excluding []) ∧
    (∀ keys', (∀ key, key ∈ keys ↔ key ∈ keys') →
      c.predicate f (s.excluding keys) = c.predicate f (s.excluding keys')) ∧
    (∀ more, c.predicate f (s.excluding (keys ++ more)) =
      c.predicate (f.without keys) (s.excluding more)) ∧
    (∀ more, (∀ item ∈ f.items, item.key ∉ more) →
      c.predicate f (s.excluding (keys ++ more)) = c.predicate f (s.excluding keys)) ∧
    c.predicate f (s.excluding keys) = (do
      let own ← c.withoutRules.predicate (f.without keys) (s.excluding [])
      let added ← c.impliedText s.aggregation
      return own ++ added) := by
  have hdelete : ∀ c : Compiler,
      c.predicate f (s.excluding keys) = c.predicate (f.without keys) (s.excluding []) := by
    intro c
    rw [← predicate_excluding_append c s hvalid, List.append_nil]
  refine ⟨hdelete c, fun keys' h => ?_, predicate_excluding_append c s hvalid, fun more h => ?_, ?_⟩
  · exact predicate_excluding_congr c s fun item _ => h item.key
  · exact predicate_excluding_congr c s fun item hitem => by simp [h item hitem]
  · rw [predicate_eq_append, hdelete]
    rfl

/-- Two of three alternatives are on an excluded key, and so is an implied item. -/
theorem predicate_excluding_shared_key :
    let c : Compiler := ⟨.clickhouse, [⟨[.sum], ⟨"env", none, "exists"⟩⟩]⟩
    let job : Item := ⟨"job", some (.single "it's"), "eq"⟩
    let f : Filter :=
      ⟨.any, [⟨"env", some (.list ["a", "b"]), "NIN"⟩, job, ⟨"env", none, "exists"⟩]⟩
    let s : Scope := ⟨"up", [], .sum⟩
    c.predicate f (s.excluding ["env", "env"]) = c.predicate ⟨.any, [job]⟩ (s.excluding []) ∧
      c.predicate f (s.excluding ["env", "env"]) = c.predicate f (s.excluding ["env"]) ∧
      c.predicate f (s.excluding ["env", "env", "job"]) =
        c.predicate ⟨.any, [job]⟩ (s.excluding ["job"]) ∧
      c.predicate f (s.excluding ["env", "env", "zone"]) =
        c.predicate f (s.excluding ["env", "env"]) := by
  intro c job f s
  have hvalid : ∀ item ∈ f.items, item.key ∈ ["env", "env"] → item.IsValid := by
    simpa [f, job] using ⟨⟨_, rfl⟩, ⟨_, rfl⟩⟩
  have hwithout : f.without ["env", "env"] = ⟨.any, [job]⟩ := by decide
  obtain ⟨hdelete, hset, happend, hother, -⟩ := predicate_excluding c f s ["env", "env"] hvalid
  rw [hwithout] at hdelete happend
  exact ⟨hdelete, hset ["env"] (by simp), happend ["job"], hother ["zone"] (by decide)⟩

end Compiler

end LabelFilter
