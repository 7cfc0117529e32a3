import LabelFilter.Proofs.Filter.Expression

/-!
# Texts of clients are read back

What a client writes comes into SQL as a string literal, by itself or in a list. A literal says
where it ends: whatever text it stands in front of, it is read up to its closing quote and no
further, and it stands for what the client wrote. So lists are read value by value, too, and no
value runs into the next one, nor into the comma or the bracket behind it.

## Main definitions

* `Sql.readLiteral?` — the literal at the beginning of a text
* `Token.text?` — the text that a token stands for

## Main results

* `Dialect.tokens_list` — the tokens of a list, whatever follows it
* `Sql.values_read_back` — literals and lists are read back
-/

namespace LabelFilter

open Sql (Quoting Token literal isBracketPair textTokens tokens tokensOf)

namespace Sql

/-- The text that a string literal stands for. -/
def Token.text? : Token → Option String
  | .text s => some s
  | _ => none

/-- The literal at the beginning of a text: what it stands for, and the text behind it. -/
def readLiteral? (style : Quoting) (text : String) : Option (String × String) :=
  match text.toList with
  | '\'' :: cs => (style.quotation.scan cs).map fun p => (String.ofList p.1, String.ofList p.2)
  | _ => none

theorem readLiteral?_literal (style : Quoting) (s : String) {rest : String}
    (h : rest.toList.head? ≠ some '\'') :
    readLiteral? style (literal style s ++ rest) = some (s, rest) := by
  have hscan := scan_literal style s.toList h
  rw [readLiteral?, String.toList_append, toList_literal, List.cons_append, List.append_assoc,
    List.singleton_append]
  simp [hscan]

/-- The texts of a row of literals. -/
theorem filterMap_text?_textTokens (values : List String) :
    (textTokens values).filterMap Token.text? = values := by
  rw [textTokens]
  induction values with
  | nil => rfl
  | cons v vs ih =>
    cases vs with
    | nil => rfl
    | cons w ws =>
      rw [List.map_cons, List.map_cons, List.intercalate_cons_cons, List.filterMap_append]
      exact congrArg (v :: ·) ih

end Sql

/-- The tokens of a list, whatever follows it. -/
theorem Dialect.tokens_list (d : Dialect) (values : List String) (rest : String) :
    tokens d (d.list values ++ rest).toList =
      (tokens d rest.toList).map (tokensOf (d.listPieces values) ++ ·) := by
  have hlast : ∀ p ∈ (d.listPieces values).getLast?, p.solid = false := by
    cases d <;> simp [listPieces, Sql.Piece.solid, Token.solid, List.getLast?_cons]
  rw [String.toList_append, ← d.layout_listPieces]
  exact Sql.tokens_layout_append (d.wellSpaced_listPieces values) fun p hp hsolid =>
    absurd (hsolid.symm.trans (hlast p hp)) (by simp)

/-- **Literals and lists are read back.** A literal in front of anything but a quote is read to its
end and no further, in both styles, and stands for the text that it was made of. A list is read as
the literals of its values, in their order, with commas between them and in brackets, and nothing
else. -/
theorem Sql.values_read_back :
    (∀ (style : Quoting) (s rest : String), rest.toList.head? ≠ some '\'' →
      readLiteral? style (literal style s ++ rest) = some (s, rest)) ∧
    ∀ (d : Dialect) (values : List String), ∃ m m', isBracketPair m m' = true ∧
      (∀ rest : String, tokens d (d.list values ++ rest).toList =
        (tokens d rest.toList).map (.mark m :: (textTokens values ++ [.mark m']) ++ ·)) ∧
      (tokens d (d.list values).toList).map (List.filterMap Token.text?) = some values := by
  refine ⟨fun style s rest => readLiteral?_literal style s, fun d values => ?_⟩
  obtain ⟨m, m', hm, htokens⟩ := d.tokensOf_listPieces values
  have hlist : ∀ rest : String, tokens d (d.list values ++ rest).toList =
      (tokens d rest.toList).map (.mark m :: (textTokens values ++ [.mark m']) ++ ·) := by
    intro rest
    rw [d.tokens_list, htokens]
  refine ⟨m, m', hm, hlist, ?_⟩
  have hwhole := hlist ""
  rw [String.append_empty] at hwhole
  have hmarks : ∀ m, Token.text? (.mark m) = none := fun _ => rfl
  rw [hwhole]
  simp [hmarks, filterMap_text?_textTokens]

/-- A backslash, a quote and a NUL before digits, and a list of texts that look like its marks. -/
theorem Sql.hostile_values_read_back :
    readLiteral? .backslash (literal .backslash "\\'\x007" ++ "0, 'b'") =
        some ("\\'\x007", "0, 'b'") ∧
      readLiteral? .doubled (literal .doubled "\\''" ++ ", ''") = some ("\\''", ", ''") ∧
      (tokens .clickhouse (Dialect.list .clickhouse ["','", "]\\", ""]).toList).map
        (List.filterMap Token.text?) = some ["','", "]\\", ""] := by
  obtain ⟨hliteral, hlist⟩ := values_read_back
  obtain ⟨-, -, -, -, htexts⟩ := hlist .clickhouse ["','", "]\\", ""]
  exact ⟨hliteral _ _ _ (by decide), hliteral _ _ _ (by decide), htexts⟩

end LabelFilter
