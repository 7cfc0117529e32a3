import LabelFilter.Proofs.Filter.ClientTexts
import LabelFilter.Proofs.Sql.Path
import LabelFilter.Proofs.Text.Spelling

/-!
# Names of clients are read back

The names that a client writes come into SQL in two forms that are not those of values. A grouping
tag, a database and a table are identifiers, bare or between quote characters. The key of a label is
a string literal in the one dialect; in the other one it is the name in a path, and the path is a
string literal, so that it is escaped twice and has to be read twice.

The plain names of the writer are the words that the reader takes for bare names. Letters and digits
beyond ASCII make no words.

## Main definitions

* `Sql.readName?` — the name at the beginning of a text

## Main results

* `Sql.isPlain_iff` — plain names are words
* `Sql.readName?_identifier` — an identifier is read to its end and no further
* `Sql.identifiers_read_back` — identifiers stand for their names
* `Sql.label_paths_read_back` — paths lead to the members that they were made for
-/

namespace LabelFilter.Sql

open Text (IsWord IsWordRest IsWordStart)

/-! ### Words -/

theorem isPlainStart_iff {c : Char} : isPlainStart c = true ↔ IsWordStart c := by
  have halpha : c.isAlpha = (c.isUpper || c.isLower) := rfl
  have hupper : c.isUpper = true ↔ 'A' ≤ c ∧ c ≤ 'Z' := decide_eq_true_iff
  have hlower : c.isLower = (decide ('a' ≤ c) && decide (c ≤ 'z')) := rfl
  simp [isPlainStart, IsWordStart, halpha, hupper, hlower, or_assoc]

theorem isPlainRest_iff {c : Char} : isPlainRest c = true ↔ IsWordRest c := by
  rw [IsWordRest, ← isPlainStart_iff]
  simp [isPlainRest, isPlainStart, Char.isAlphanum, Char.isDigit, Char.le_def, or_right_comm]

theorem isPlain_iff {name : String} : isPlain name = true ↔ IsWord name := by
  rw [isPlain, IsWord]
  cases name.toList with
  | nil => simp [isPlainChars]
  | cons c cs => simp [isPlainChars, isPlainStart_iff, isPlainRest_iff]

/-! ### Identifiers -/

/-- The name at the beginning of a text, and the text behind it: a word, as far as it goes, or a
name between quote characters. -/
def readName? (d : Dialect) (text : String) : Option (String × String) :=
  match text.toList with
  | [] => none
  | c :: cs =>
    if c = d.nameQuote then
      ((nameQuotation d.nameQuote d.quoting).scan cs).map fun p =>
        (String.ofList p.1, String.ofList p.2)
    else if IsWordStart c then
      some (String.ofList (c :: cs.takeWhile (IsWordRest ·)),
        String.ofList (cs.dropWhile (IsWordRest ·)))
    else none

section

variable {d : Dialect} {name rest : String}

theorem readName?_of_isWord (hname : IsWord name)
    (hrest : ∀ c ∈ rest.toList.head?, ¬ IsWordRest c) :
    readName? d (name ++ rest) = some (name, rest) := by
  obtain ⟨c, cs, htext, hc, hcs⟩ := hname
  have hquote : c ≠ d.nameQuote := by
    rintro rfl
    exact absurd hc (by cases d <;> decide)
  have hstop : rest.toList.takeWhile (IsWordRest ·) = [] ∧
      rest.toList.dropWhile (IsWordRest ·) = rest.toList := by
    cases hr : rest.toList with
    | nil => exact ⟨rfl, rfl⟩
    | cons e es => simp [hrest e (by simp [hr])]
  have hword : ∀ e ∈ cs, decide (IsWordRest e) = true := by simpa using hcs
  have htake : (cs ++ rest.toList).takeWhile (IsWordRest ·) = cs := by
    rw [List.takeWhile_append_of_pos hword, hstop.1, List.append_nil]
  have hdrop : (cs ++ rest.toList).dropWhile (IsWordRest ·) = rest.toList := by
    rw [List.dropWhile_append_of_pos hword, hstop.2]
  rw [readName?, String.toList_append, htext, List.cons_append]
  simp [hquote, hc, htake, hdrop, ← htext]

theorem readName?_quotedName (d : Dialect) (name : String)
    (hrest : rest.toList.head? ≠ some d.nameQuote) :
    readName? d (String.ofList (quotedName d.nameQuote d.quoting name.toList) ++ rest) =
      some (name, rest) := by
  have hscan := scan_quotedName (nameQuote_ne_backslash d) d.quoting name.toList hrest
  rw [readName?, String.toList_append, String.toList_ofList, quotedName, List.cons_append,
    List.append_assoc, List.singleton_append]
  simp [hscan]

/-- **An identifier is read** to its end and no further, in front of anything that could not go on
with it. -/
theorem readName?_identifier (d : Dialect) (name : String)
    (hrest : ∀ c ∈ rest.toList.head?, c ≠ d.nameQuote ∧ ¬ IsWordRest c) :
    readName? d (d.identifier name ++ rest) = some (name, rest) := by
  rw [Dialect.identifier, identifier]
  split
  · next h => exact readName?_of_isWord (isPlain_iff.mp h) fun c hc => (hrest c hc).2
  · exact readName?_quotedName d name fun hc => (hrest _ hc).1 rfl

end

/-- Identifiers are told apart by their names. -/
theorem identifier_injective (d : Dialect) : Function.Injective d.identifier := by
  intro name name' h
  have hread : ∀ name, readName? d (d.identifier name) = some (name, "") := by
    intro name
    rw [← String.append_empty (s := d.identifier name)]
    exact readName?_identifier d name (by simp)
  simpa [h, hread] using (hread name).symm

/-- **Identifiers are read back.** An identifier is one token: in front of anything but a quote
character, a letter, a digit or an underscore it is read to its end and no further, and stands for
its name, whatever that is made of. Words are bare, and all other names stand between quote
characters. So different names are never written as the same text. -/
theorem identifiers_read_back (d : Dialect) (name : String) :
    (∀ rest : String, (∀ c ∈ rest.toList.head?, c ≠ d.nameQuote ∧ ¬ IsWordRest c) →
      readName? d (d.identifier name ++ rest) = some (name, rest)) ∧
    (IsWord name → d.identifier name = name) ∧
    (¬ IsWord name → ∃ inside, (d.identifier name).toList =
      d.nameQuote :: (inside ++ [d.nameQuote])) ∧
    ∀ name', d.identifier name = d.identifier name' ↔ name = name' := by
  refine ⟨fun rest => readName?_identifier d name, fun h => ?_, fun h => ?_,
    fun name' => (identifier_injective d).eq_iff⟩
  · exact identifier_of_isPlain (isPlain_iff.mpr h) _ _
  · rw [Dialect.identifier, identifier, if_neg fun hplain => h (isPlain_iff.mp hplain),
      String.toList_ofList]
    exact ⟨_, rfl⟩

/-- A backslash before a quote character, the empty name, and letters and digits beyond ASCII. -/
theorem hostile_names_read_back :
    readName? .clickhouse (Dialect.identifier .clickhouse "a\\\x60\\" ++ ".c") =
        some ("a\\\x60\\", ".c") ∧
      readName? .duckdb (Dialect.identifier .duckdb "" ++ " WHERE") = some ("", " WHERE") ∧
      readName? .duckdb (Dialect.identifier .duckdb "\"\\" ++ "") = some ("\"\\", "") ∧
      Dialect.identifier .clickhouse "_k8s" = "_k8s" ∧
      (∃ inside, (Dialect.identifier .clickhouse "\u00e9\u0663").toList =
        '\x60' :: (inside ++ ['\x60'])) := by
  have hwords : IsWord "_k8s" ∧ ¬ IsWord "\u00e9\u0663" := by
    rw [← isPlain_iff, ← isPlain_iff]
    decide
  obtain ⟨hbackslash, -⟩ := identifiers_read_back .clickhouse "a\\\x60\\"
  obtain ⟨hempty, -⟩ := identifiers_read_back .duckdb ""
  obtain ⟨hquote, -⟩ := identifiers_read_back .duckdb "\"\\"
  obtain ⟨-, hbare, -⟩ := identifiers_read_back .clickhouse "_k8s"
  obtain ⟨-, -, hquoted, -⟩ := identifiers_read_back .clickhouse "\u00e9\u0663"
  refine ⟨hbackslash _ ?_, hempty _ ?_, hquote _ (by simp), hbare hwords.1, hquoted hwords.2⟩
  all_goals
    rintro c ⟨⟩
    decide

/-! ### Paths -/

theorem literal_injective (style : Quoting) : Function.Injective (literal style) := by
  intro s s' h
  have hread : ∀ s, readLiteral? style (literal style s) = some (s, "") := by
    intro s
    rw [← String.append_empty (s := literal style s)]
    exact readLiteral?_literal style s (by decide)
  simpa [h, hread] using (hread s).symm

/-- **Paths lead to the members that they were made for.** Both expressions for a label hold one
argument for its key, with nothing in between. Read as a literal, up to its end and no further, the
argument is a path. Read as a path, that is one step, into the member that has the key as its name:
no other member, none inside another one, and no item of a list. Different keys are never written
as the same argument. -/
theorem label_paths_read_back : ∃ argument : String → String, Function.Injective argument ∧
    ∀ column key : String,
      Dialect.extract .duckdb column key =
        "coalesce(json_extract_string(" ++ column ++ ", " ++ argument key ++ "), '')" ∧
      Dialect.hasLabel .duckdb column key =
        "json_exists(" ++ column ++ ", " ++ argument key ++ ")" ∧
      ∃ path,
        (∀ rest : String, rest.toList.head? ≠ some '\'' →
          readLiteral? .doubled (argument key ++ rest) = some (path, rest)) ∧
        path = "$.\"" ++ replaceChar '"' "\\\"" (replaceChar '\\' "\\\\" key) ++ "\"" ∧
        labelOfPath? path = some key ∧ readPath? path = some [.member key] := by
  refine ⟨fun key => literal .doubled (Dialect.labelPath key),
    (literal_injective .doubled).comp labelPath_injective, fun column key => ⟨rfl, rfl, ?_⟩⟩
  have hlabel := labelOfPath?_labelPath key
  exact ⟨Dialect.labelPath key, fun rest => readLiteral?_literal .doubled _,
    labelPath_eq_replaceChar key, hlabel, readPath?_of_labelOfPath? hlabel⟩

/-- A key that holds both kinds of quotes, backslashes before and behind them, and what would be two
more steps. -/
theorem hostile_label_path_reads_back :
    let key := "a\\\"'\\.b[0]$"
    ∃ argument path,
      Dialect.hasLabel .duckdb labelsColumn key = "json_exists(labels, " ++ argument ++ ")" ∧
      readLiteral? .doubled (argument ++ ")") = some (path, ")") ∧
      readPath? path = some [.member key] := by
  intro key
  obtain ⟨argument, -, hargument⟩ := label_paths_read_back
  obtain ⟨-, hhas, path, hread, -, -, hpath⟩ := hargument labelsColumn key
  exact ⟨argument key, path, hhas, hread ")" (by decide), hpath⟩

end LabelFilter.Sql
