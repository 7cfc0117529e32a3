import LabelFilter.Command.Usage
import LabelFilter.Proofs.Filter.Body
import LabelFilter.Proofs.Filter.Readability
import LabelFilter.Proofs.Filter.Request
import LabelFilter.Proofs.Json.Exact
import LabelFilter.Proofs.Text.Spelling

/-!
# Closed vocabularies

Operators and aggregations are named by words. Both vocabularies are closed: a text names something
in them exactly if it is a spelling of one of the words, and never two things. The operators are
looked up in their table, letter by letter in any case; an aggregation on a command line is brought
to upper case first and then read as a document would be. Both come to the same notion of spelling.

Whichever of its spellings an operator is written in, a filter is compiled to the same, so that it
may as well be written with the tokens that operators are shown as.

## Main definitions

* `Item.canonical`, `Filter.canonical` — the same with the tokens that operators are shown as

## Main results

* `Operator.ofToken?_eq_some_iff_spells`, `Operator.token_unique` — the tokens of operators
* `Aggregation.ofWord_eq_ok_iff`, `Aggregation.decodeText_eq_ok_iff` — the words of aggregations,
  on a command line and in documents
* `Compiler.predicate_canonical` — the spelling of operators does not count
* `vocabularies_closed` — all of this together
-/

namespace LabelFilter

open Json (Doc Lexeme octets stringText)
open Text (IsWordRest SameLetters Spells spells_iff)

/-! ### Operators -/

namespace Operator

variable {s token token' : String} {op op' : Operator}

theorem isWordRest_of_mem_tokens :
    ∀ entry ∈ tokens, ∀ c ∈ entry.1.toList, IsWordRest c := by
  have hall : (tokens.all fun entry => entry.1.toList.all (IsWordRest ·)) = true := by decide
  simpa using hall

/-- Comparing a token with what trimming leaves of a text is asking whether the text spells it. -/
theorem sameLetters_trim_iff (hmem : (token, op) ∈ tokens) :
    Text.sameLetters token (Text.trim s) = true ↔ Spells s token := by
  rw [spells_iff (isWordRest_of_mem_tokens _ hmem), Text.sameLetters_iff, ← Text.upper_eq_upper_iff,
    eq_comm]

/-- A text names the operator one of whose tokens it spells. -/
theorem ofToken?_eq_some_iff_spells :
    ofToken? s = some op ↔ ∃ token, (token, op) ∈ tokens ∧ Spells s token := by
  rw [ofToken?_eq_some_iff, IsSpelling]
  constructor
  · rintro ⟨⟨token, _⟩, hmem, rfl, hletters⟩
    exact ⟨token, hmem, (sameLetters_trim_iff hmem).mp hletters⟩
  · rintro ⟨token, hmem, hspells⟩
    exact ⟨(token, op), hmem, rfl, (sameLetters_trim_iff hmem).mpr hspells⟩

/-- A text spells one token at most, and a token names one operator. -/
theorem token_unique (hmem : (token, op) ∈ tokens) (hmem' : (token', op') ∈ tokens)
    (h : Spells s token) (h' : Spells s token') : token = token' ∧ op = op' :=
  Prod.mk.inj (eq_of_sameLetters _ hmem _ hmem' ((sameLetters_trim_iff hmem).mpr h)
    ((sameLetters_trim_iff hmem').mpr h'))

theorem ofToken?_token (op : Operator) : ofToken? op.token = some op := by
  cases op <;> decide

end Operator

/-! ### Aggregations -/

namespace Aggregation

variable {s word : String} {a : Aggregation}

theorem isWordRest_token (a : Aggregation) : ∀ c ∈ a.token.toList, IsWordRest c := by
  have hall : a.token.toList.all (IsWordRest ·) = true := by cases a <;> decide
  simpa using hall

/-- The words of aggregations are in upper case. -/
theorem upper_token (a : Aggregation) : Text.upper a.token = a.token := by
  cases a <;> decide

theorem nodup_tokens : (all.map token).Nodup := by
  decide

theorem token_injective : Function.Injective token := fun a b h =>
  List.inj_on_of_nodup_map nodup_tokens a.mem_all b.mem_all h

theorem ofToken?_eq_some_iff : ofToken? word = some a ↔ a.token = word := by
  have hunique : ∀ b ∈ all, ∀ b' ∈ all, (b.token == word) = true → (b'.token == word) = true →
      b = b' := by
    intro b _ b' _ h h'
    exact token_injective ((beq_iff_eq.mp h).trans (beq_iff_eq.mp h').symm)
  rw [ofToken?, find?_eq_some_iff_of_unique hunique, beq_iff_eq, and_iff_right a.mem_all]

theorem ofWord_eq_ok_iff : ofWord s = .ok a ↔ a.token = Text.upper (Text.trim s) := by
  rw [← ofToken?_eq_some_iff, ofWord]
  cases ofToken? (Text.upper (Text.trim s)) <;> simp

/-- A command line names the aggregation whose word it spells. -/
theorem ofWord_eq_ok_iff_spells : ofWord s = .ok a ↔ Spells s a.token := by
  rw [ofWord_eq_ok_iff, spells_iff a.isWordRest_token, ← Text.upper_eq_upper_iff, upper_token,
    eq_comm]

theorem lookup_vocabulary_eq_some_iff : vocabulary.lookup word = some a ↔ a.token = word := by
  constructor
  · intro h
    obtain ⟨before, after, hsplit, -⟩ := List.lookup_eq_some_iff.mp h
    have hmem : (word, a) ∈ vocabulary := by simp [hsplit]
    obtain ⟨b, -, hb⟩ := List.mem_map.mp hmem
    cases hb
    rfl
  · rintro rfl
    exact Json.lookUp_eq_ok_iff.mp (by cases a <;> rfl)

/-- A document that is a string names the aggregation whose word it is. -/
theorem decodeText_eq_ok_iff :
    decodeText Aggregation.ofDoc (octets (stringText word)) = .ok a ↔ a.token = word := by
  rw [decodeText_of_spells (Json.spells_stringText word), ofDoc, Doc.asWord, Lexeme.decode_written,
    ← lookup_vocabulary_eq_some_iff]
  exact Json.lookUp_eq_ok_iff

end Aggregation

/-! ### Filters -/

/-- An item with the token that its operator is shown as, if its token names one. -/
def Item.canonical (item : Item) : Item :=
  match Operator.ofToken? item.operator with
  | some op => { item with operator := op.token }
  | none => item

/-- A filter with the tokens that operators are shown as. -/
def Filter.canonical (f : Filter) : Filter := { f with items := f.items.map Item.canonical }

theorem Item.condition_canonical (item : Item) : item.canonical.condition = item.condition := by
  rw [canonical]
  cases hop : Operator.ofToken? item.operator with
  | none => rfl
  | some op => simp only [condition, hop, op.ofToken?_token]

namespace Compiler

/-- **The spelling of operators does not count**, not even for the errors of items. -/
theorem predicate_canonical (c : Compiler) (f : Filter) (s : Scope) :
    c.predicate f.canonical s = c.predicate f s := by
  have hitems : f.canonical.items.mapM Item.condition = f.items.mapM Item.condition := by
    have hcomp : Item.condition ∘ Item.canonical = Item.condition := by
      funext item
      rw [Function.comp_apply, item.condition_canonical]
    rw [Filter.canonical, List.mapM_map, hcomp]
  rw [predicate_eq_do, predicate_eq_do, hitems]
  rfl

theorem subQuery_canonical (c : Compiler) (source : SeriesTable) (f : Filter) (s : Scope)
    (tags : List String) : c.subQuery source f.canonical s tags = c.subQuery source f s tags := by
  rw [subQuery, subQuery, predicate_canonical]

end Compiler

/-! ### Both vocabularies -/

/-- What is left of a text that names something, without the blanks around it, is made of ASCII
letters, digits and underscores. -/
theorem isWordRest_of_named {s : String}
    (h : (∃ op, Operator.ofToken? s = some op) ∨ ∃ a, Aggregation.ofWord s = .ok a) :
    ∀ c ∈ (Text.trim s).toList, IsWordRest c := by
  have hspells : ∃ word : String, (∀ c ∈ word.toList, IsWordRest c) ∧ Spells s word := by
    obtain ⟨op, hop⟩ | ⟨a, ha⟩ := h
    · obtain ⟨token, hmem, hspells⟩ := Operator.ofToken?_eq_some_iff_spells.mp hop
      exact ⟨token, Operator.isWordRest_of_mem_tokens _ hmem, hspells⟩
    · exact ⟨a.token, a.isWordRest_token, Aggregation.ofWord_eq_ok_iff_spells.mp ha⟩
  obtain ⟨word, hword, hspells⟩ := hspells
  exact ((spells_iff hword).mp hspells).isWordRest hword

/-- **The vocabularies are closed.** A text names an operator exactly if it spells one of its
tokens: with blanks around it and in any case of its ASCII letters. It never spells two tokens. On a
command line a text names an aggregation exactly if it spells its word, which is to say that the
text without the blanks and in upper case is the word of this aggregation in a document. So nothing
with a character beyond ASCII names anything, and nothing with a blank inside. The spelling of its
operators makes no difference to what a filter is compiled to. -/
theorem vocabularies_closed :
    (∀ s op, Operator.ofToken? s = some op ↔
      ∃ token, (token, op) ∈ Operator.tokens ∧ Spells s token) ∧
    (∀ s token token' op op', (token, op) ∈ Operator.tokens → (token', op') ∈ Operator.tokens →
      Spells s token → Spells s token' → token = token' ∧ op = op') ∧
    (∀ s a, Aggregation.ofWord s = .ok a ↔ Spells s a.token) ∧
    (∀ s a, Aggregation.ofWord s = .ok a ↔
      decodeText Aggregation.ofDoc (octets (stringText (Text.upper (Text.trim s)))) = .ok a) ∧
    (∀ s, ((∃ op, Operator.ofToken? s = some op) ∨ ∃ a, Aggregation.ofWord s = .ok a) →
      ∀ c ∈ (Text.trim s).toList, IsWordRest c) ∧
    ∀ (c : Compiler) (f : Filter) (s : Scope), c.predicate f.canonical s = c.predicate f s ∧
      ∀ source tags, c.subQuery source f.canonical s tags = c.subQuery source f s tags := by
  refine ⟨fun s op => Operator.ofToken?_eq_some_iff_spells,
    fun s token token' op op' => Operator.token_unique,
    fun s a => Aggregation.ofWord_eq_ok_iff_spells, fun s a => ?_, fun s => isWordRest_of_named,
    fun c f s => ⟨c.predicate_canonical f s, fun source => c.subQuery_canonical source f s⟩⟩
  rw [Aggregation.ofWord_eq_ok_iff, Aggregation.decodeText_eq_ok_iff]

/-- A token between blanks that are not ASCII, which is no spelling of the shorter token, and a word
with a letter that would be one of its letters in upper case. -/
theorem vocabularies_of_lookalikes :
    Operator.ofToken? "\u2003nOt_In\n" = some .noneOf ∧
      ¬ Spells "\u2003nOt_In\n" "NIN" ∧
      (∀ c ∈ (Text.trim "\u2003nOt_In\n").toList, IsWordRest c) ∧
      ¬ ∃ a, Aggregation.ofWord "\u017fum" = .ok a := by
  obtain ⟨htoken, hunique, -, -, hchars, -⟩ := vocabularies_closed
  have hspells : Spells "\u2003nOt_In\n" "NOT_IN" :=
    ⟨"\u2003", "nOt_In", "\n", by decide, by simp [Text.isBlank, Text.blankRanges],
      by simp [Text.isBlank, Text.blankRanges], Text.upper_eq_upper_iff.mp (by decide)⟩
  have hnamed : Operator.ofToken? "\u2003nOt_In\n" = some .noneOf :=
    (htoken _ _).mpr ⟨"NOT_IN", by decide, hspells⟩
  refine ⟨hnamed, fun h => ?_, hchars _ (.inl ⟨_, hnamed⟩), fun h => ?_⟩
  · have hsame := hunique _ _ _ .noneOf .noneOf (by decide) (by decide) hspells h
    exact absurd hsame.1 (by decide)
  · have hlong : IsWordRest '\u017f' := hchars _ (.inr h) _ (by decide)
    exact absurd hlong (by decide)

end LabelFilter
