import LabelFilter.Filter.Writing
import LabelFilter.Proofs.Filter.Document
import LabelFilter.Proofs.Filter.Request

/-!
# Written filters and rules are read back

A filter that is written is read back as it was, and so is a table of rules, whatever stands in
their strings. For each of them there is a tree: the written text spells it, and it is decoded to
what was written. An item has one row of members for both, but two ways back, because the members of
a rule are kept as values before the item is read out of them.

## Main definitions

* `Operand.tree`, `Item.memberTrees`, `Filter.tree`, `Rule.tree` — what written texts are read to
* `Rule.readMember` — reading one member of a rule

## Main results

* `Item.spells_members`, `Filter.spells_text`, `Rule.spells_text` — written texts spell their trees
* `Item.ofDoc_memberTrees`, `Item.ofMembers_memberValues` — both ways back to an item
* `ofBody_text_and_decodeBody_text` — bodies with a written filter or table
-/

namespace LabelFilter

open List (Forall₂)
open Json (Doc Fault Value Lexeme Spells SpellsMember stringText listText objectText octets
  members_written_of_ok)
open CompileRequest (spells_texts textsDoc)

/-! ### Operands -/

namespace Operand

/-- The tree of an operand. -/
def tree : Operand → Doc
  | .single s => .string (.written s)
  | .list ss => textsDoc ss

/-- The value of an operand. -/
def value : Operand → Value
  | .single s => .string s
  | .list ss => .list (ss.map .string)

theorem spells_text (o : Operand) : Spells (octets o.text) o.tree := by
  cases o with
  | single s => exact Json.spells_stringText s
  | list ss => exact spells_texts ss

theorem value_tree (room : Nat) (o : Operand) : o.tree.value (room + 1) = .ok o.value := by
  cases o with
  | single s => simp only [tree, value, Doc.value, Lexeme.decode_written, Except.map]
  | list ss =>
    have hvalues : (ss.map fun s => Doc.string (.written s)).mapM (Doc.value room) =
        .ok (ss.map .string) := by
      rw [mapM_eq_ok_iff, List.forall₂_map_left_iff, List.forall₂_map_right_iff, List.forall₂_same]
      intro s _
      simp only [Doc.value, Lexeme.decode_written, Except.map]
    rw [tree, textsDoc, Doc.value, hvalues]
    rfl

theorem ofValue_value (o : Operand) : ofValue o.value = .ok o := by
  cases o with
  | single s => rfl
  | list ss =>
    have htexts : textsOfValues? (ss.map .string) = some ss := textsOfValues?_eq_some_iff.mpr rfl
    simp only [value, ofValue, ofValue?, htexts, Option.map_some]

theorem ofDoc_tree (room : Nat) (o : Operand) : ofDoc (room + 1) o.tree = .ok (some o) := by
  have hread : (o.tree.value (room + 1) >>= ofValue) = .ok o := by
    rw [value_tree]
    exact ofValue_value o
  cases o with
  | single s => exact congrArg (Except.map some) hread
  | list ss => exact congrArg (Except.map some) hread

end Operand

/-! ### Items -/

namespace Item

/-- The trees of the members of an item. -/
def memberTrees (item : Item) : List (Lexeme × Doc) :=
  (.written "key", .string (.written item.key)) ::
    ((item.operand.map fun o => (.written "value", o.tree)).toList ++
      [(.written "op", .string (.written item.operator))])

/-- The values of the members of an item. -/
def memberValues (item : Item) : List (String × Value) :=
  ("key", .string item.key) ::
    ((item.operand.map fun o => ("value", o.value)).toList ++ [("op", .string item.operator)])

theorem spells_members (item : Item) : Forall₂ SpellsMember item.members item.memberTrees := by
  obtain ⟨key, operand, operator⟩ := item
  have hkey : SpellsMember ("key", stringText key) (.written "key", .string (.written key)) :=
    ⟨rfl, Json.spells_stringText key⟩
  have hoperator : SpellsMember ("op", stringText operator)
      (.written "op", .string (.written operator)) :=
    ⟨rfl, Json.spells_stringText operator⟩
  cases operand with
  | none => exact .cons hkey (.cons hoperator .nil)
  | some o => exact .cons hkey (.cons ⟨rfl, o.spells_text⟩ (.cons hoperator .nil))

/-- **An item is read** from the trees of its members. -/
theorem ofDoc_memberTrees (room : Nat) (item : Item) :
    Item.ofDoc (room + 1) (.object item.memberTrees none) = .ok item := by
  obtain ⟨key, operand, operator⟩ := item
  have hkey : ({} : Fields).read (room + 1) "key" (.string (.written key)) =
      .ok { key := key } := by
    simp only [Fields.read, Doc.once, Doc.asString, Lexeme.decode_written]
    rfl
  have hoperator : ∀ o : Option (Option Operand),
      ({ key := key, operand := o } : Fields).read (room + 1) "op" (.string (.written operator)) =
        .ok ⟨key, o, operator⟩ := by
    intro o
    simp only [Fields.read, Doc.once, Doc.asString, Lexeme.decode_written]
    rfl
  show (Doc.members (Fields.read (room + 1)) {} _ none >>= Fields.toItem) = _
  rw [memberTrees, members_written_of_ok hkey]
  cases operand with
  | none =>
    show (Doc.members (Fields.read (room + 1)) _ [_] none >>= Fields.toItem) = _
    rw [members_written_of_ok (hoperator none)]
    rfl
  | some o =>
    have hoperand : ({ key := key } : Fields).read (room + 1) "value" o.tree =
        .ok { key := key, operand := some (some o) } := by
      simp only [Fields.read, Doc.once, o.ofDoc_tree]
      rfl
    show (Doc.members (Fields.read (room + 1)) _ [_, _] none >>= Fields.toItem) = _
    rw [members_written_of_ok hoperand, members_written_of_ok (hoperator (some (some o)))]
    rfl

/-- **An item is read** from the values of its members. -/
theorem ofMembers_memberValues (item : Item) : Item.ofMembers item.memberValues = .ok item := by
  obtain ⟨key, operand, operator⟩ := item
  cases operand with
  | none => rfl
  | some o =>
    have hoperand : operandOfValue o.value = .ok (some o) := by
      have hread := congrArg (Except.map some) o.ofValue_value
      cases o with
      | single s => exact hread
      | list ss => exact hread
    have hvalue : ({ key := key } : Fields).readValue "value" o.value =
        .ok { key := key, operand := some (some o) } := by
      simp only [Fields.readValue, onceValue, hoperand]
      rfl
    show (({ key := key } : Fields).readValue "value" o.value >>= fun f =>
      [("op", Value.string operator)].foldlM (fun f m => f.readValue m.1 m.2) f) >>=
        Fields.toItem = _
    rw [hvalue]
    rfl

end Item

/-! ### Filters -/

theorem Combinator.ofDoc_token (c : Combinator) :
    Combinator.ofDoc (.string (.written c.token)) = .ok c := by
  rw [Combinator.ofDoc, Doc.asWord, Lexeme.decode_written]
  cases c <;> rfl

namespace Filter

/-- The tree of a filter. -/
def tree (filter : Filter) : Doc :=
  .object [(.written "op", .string (.written filter.combinator.token)),
    (.written "items", .list (filter.items.map fun i => .object i.memberTrees none) none)] none

theorem spells_text (filter : Filter) : Spells (octets filter.text) filter.tree := by
  have hitems : Spells (octets (listText (filter.items.map Item.text)))
      (.list (filter.items.map fun i => .object i.memberTrees none) none) :=
    Spells.listText_map fun i _ => Spells.objectText i.spells_members
  exact Spells.objectText (.cons ⟨rfl, Json.spells_stringText _⟩ (.cons ⟨rfl, hitems⟩ .nil))

/-- **A filter is read** from its tree. -/
theorem ofDoc_tree (room : Nat) (filter : Filter) :
    Filter.ofDoc (room + 4) filter.tree = .ok filter := by
  obtain ⟨combinator, items⟩ := filter
  have hop : readMember (room + 1) (none, none) "op" (.string (.written combinator.token)) =
      .ok (some combinator, none) := by
    simp only [readMember, Doc.once, combinator.ofDoc_token]
    rfl
  have hitemTrees := Json.asList_map fun i (_ : i ∈ items) => i.ofDoc_memberTrees room
  have hitems : readMember (room + 1) (some combinator, none) "items"
      (.list (items.map fun i => .object i.memberTrees none) none) =
        .ok (some combinator, some items) := by
    simp only [readMember, Doc.once, hitemTrees]
    rfl
  rw [tree, ofDoc_object, members_written_of_ok hop, members_written_of_ok hitems]
  rfl

end Filter

/-! ### Rules -/

namespace Rule

/-- The members of a rule that have been read: its aggregations, and the others the other way
round. -/
abbrev Fields := Option (List Aggregation) × List (String × Value)

/-- Read one member. -/
def readMember (room : Nat) (f : Fields) (name : String) (d : Doc) : Except Fault Fields := do
  if name = "aggregations" then
    return (← Doc.once name f.1 (Doc.asList Aggregation.ofDoc) d, f.2)
  else return (f.1, (name, ← d.value room) :: f.2)

theorem ofDoc_object (room : Nat) (ms : List (Lexeme × Doc)) (stop : Option Json.Break) :
    Rule.ofDoc room (.object ms stop) = do
      let f ← Doc.members (readMember room) (none, []) ms stop
      let aggregations ← Doc.need "aggregations" f.1
      return ⟨aggregations, ← Item.ofMembers f.2.reverse⟩ := rfl

/-- A member that is kept, and what is kept of it. -/
structure Keeps (room : Nat) (m : Lexeme × Doc) (kept : String × Value) : Prop where
  name : m.1 = .written kept.1
  other : kept.1 ≠ "aggregations"
  value : m.2.value room = .ok kept.2

theorem members_readMember_of_keeps {room : Nat} {ms : List (Lexeme × Doc)}
    {kept : List (String × Value)} (h : Forall₂ (Keeps room) ms kept) (f : Fields) :
    Doc.members (readMember room) f ms none = .ok (f.1, kept.reverse ++ f.2) := by
  induction h generalizing f with
  | nil => rfl
  | @cons m member ms kept hm _ ih =>
    obtain ⟨key, d⟩ := m
    obtain ⟨rfl, hother, hvalue⟩ := hm
    have hread : readMember room f member.1 d = .ok (f.1, member :: f.2) := by
      rw [readMember, if_neg hother, hvalue]
      rfl
    rw [members_written_of_ok hread, ih]
    simp

/-- The tree of a rule. -/
def tree (rule : Rule) : Doc :=
  .object ((.written "aggregations",
    .list (rule.aggregations.map fun a => .string (.written a.token)) none) ::
      rule.item.memberTrees) none

theorem spells_text (rule : Rule) : Spells (octets rule.text) rule.tree :=
  Spells.objectText (.cons ⟨rfl, Spells.listText_map fun _ _ => Json.spells_stringText _⟩
    rule.item.spells_members)

theorem keeps_memberTrees (room : Nat) (item : Item) :
    Forall₂ (Keeps (room + 1)) item.memberTrees item.memberValues := by
  obtain ⟨key, operand, operator⟩ := item
  have hkey : Keeps (room + 1) (.written "key", .string (.written key)) ("key", .string key) :=
    ⟨rfl, by simp, (Operand.single key).value_tree room⟩
  have hoperator : Keeps (room + 1) (.written "op", .string (.written operator))
      ("op", .string operator) :=
    ⟨rfl, by simp, (Operand.single operator).value_tree room⟩
  cases operand with
  | none => exact .cons hkey (.cons hoperator .nil)
  | some o => exact .cons hkey (.cons ⟨rfl, by simp, o.value_tree room⟩ (.cons hoperator .nil))

/-- **A rule is read** from its tree. -/
theorem ofDoc_tree (room : Nat) (rule : Rule) : Rule.ofDoc (room + 1) rule.tree = .ok rule := by
  obtain ⟨aggregations, item⟩ := rule
  have haggregationTrees := Json.asList_map fun a (_ : a ∈ aggregations) => a.ofDoc_token
  have haggregations : readMember (room + 1) (none, []) "aggregations"
      (.list (aggregations.map fun a => .string (.written a.token)) none) =
        .ok (some aggregations, []) := by
    simp only [readMember, if_true, Doc.once, haggregationTrees]
    rfl
  rw [tree, ofDoc_object, members_written_of_ok haggregations,
    members_readMember_of_keeps (keeps_memberTrees room item)]
  show (Item.ofMembers (item.memberValues.reverse ++ []).reverse).bind _ = _
  rw [List.append_nil, List.reverse_reverse, Item.ofMembers_memberValues]
  rfl

end Rule

namespace RuleTable

/-- The tree of a table of rules. -/
def tree (rules : RuleTable) : Doc := .list (rules.map Rule.tree) none

theorem spells_text (rules : RuleTable) : Spells (octets (text rules)) (tree rules) :=
  Spells.listText_map fun rule _ => rule.spells_text

/-- **A table of rules is read** from its tree. -/
theorem ofDoc_tree (room : Nat) (rules : RuleTable) :
    RuleTable.ofDoc (room + 3) (tree rules) = .ok rules :=
  Json.asList_map fun rule _ => rule.ofDoc_tree room

end RuleTable

/-! ### Bodies -/

/-- **Reading takes writing back.** A body with a written filter holds that filter, if the body is
not too long and the filter has few enough items, and a body with a written table of rules holds
that table. -/
theorem ofBody_text_and_decodeBody_text :
    (∀ (filter : Filter) (limit : Nat), filter.text.toUTF8.size ≤ 65536 →
      filter.items.length ≤ limit → Filter.ofBody filter.text.toUTF8 limit = .ok filter) ∧
    ∀ rules : RuleTable, (RuleTable.text rules).toUTF8.size ≤ 65536 →
      decodeBody (RuleTable.ofDoc Doc.maxDepth) (RuleTable.text rules).toUTF8 = .ok rules := by
  refine ⟨fun filter limit hsize hcount => ?_, fun rules hsize => ?_⟩
  · have hbody : decodeBody (Filter.ofDoc Doc.maxDepth) filter.text.toUTF8 = .ok filter := by
      rw [decodeBody_toUTF8 _ filter.spells_text hsize, Doc.maxDepth, filter.ofDoc_tree]
      rfl
    rw [Filter.ofBody, hbody]
    show (filter.checkCount limit >>= fun _ => pure filter) = _
    rw [Filter.checkCount, if_neg (Nat.not_lt.mpr hcount)]
    rfl
  · rw [decodeBody_toUTF8 _ (RuleTable.spells_text rules) hsize, Doc.maxDepth, RuleTable.ofDoc_tree]
    rfl

/-- Quotation marks, control characters, an empty list, no value and a word in capital letters. -/
theorem bodies_of_hostile_texts :
    Filter.ofBody (Filter.text ⟨.any, [⟨"\"a\\", some (.list []), "\n"⟩,
        ⟨"é\x00", none, "="⟩]⟩).toUTF8 2 =
      .ok ⟨.any, [⟨"\"a\\", some (.list []), "\n"⟩, ⟨"é\x00", none, "="⟩]⟩ ∧
    decodeBody (RuleTable.ofDoc Doc.maxDepth)
        (RuleTable.text [⟨[.histQuantile50, .p05], ⟨"le", some (.single "\t"), ""⟩⟩]).toUTF8 =
      .ok [⟨[.histQuantile50, .p05], ⟨"le", some (.single "\t"), ""⟩⟩] :=
  ⟨ofBody_text_and_decodeBody_text.1 _ _ (by decide +kernel) (by decide),
    ofBody_text_and_decodeBody_text.2 _ (by decide +kernel)⟩

end LabelFilter
