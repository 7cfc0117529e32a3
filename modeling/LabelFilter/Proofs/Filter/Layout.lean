import LabelFilter.Filter.SubQuery
import LabelFilter.Proofs.Sql.Token

/-!
# Predicates as rows of tokens

Every text that the compiler writes is a layout: conditions, predicates and sub-queries are put
together from tokens and blanks, and texts of clients come in only as the contents of literals and
as names. Their tokens are therefore known whatever the clients wrote.

## Main definitions

* `Condition.pieces`, `Compiler.pieces`, `Compiler.selectPieces` — the rows of pieces
* `Combinator.gather` — alternatives as one conjunct

## Main results

* `Condition.toList_sql`, `Compiler.toList_assemble`, `Compiler.toList_select` — the texts are laid
  out from these rows
* `Condition.wellSpaced_pieces`, `Compiler.wellSpaced_pieces`, `Compiler.wellSpaced_selectPieces` —
  the rows stay apart
* `Compiler.tokens_assemble`, `Compiler.tokens_select` — the tokens of the texts
-/

namespace LabelFilter

open Sql (Piece Token Mark layout tokensOf WellSpaced Separates)

/-! ### Pieces -/

namespace Sql.Piece

/-- A bare word. -/
abbrev word (w : String) : Piece := .token (.word w)

/-- A string literal. -/
abbrev text (s : String) : Piece := .token (.text s)

/-- A mark. -/
abbrev mark (m : Mark) : Piece := .token (.mark m)

/-- The name of a column or a table, bare if it is plain. -/
def ofName (s : String) : Piece := .token (if isPlain s then .word s else .name s)

/-- A call of a function with two arguments. -/
def call (f : String) (first second : List Piece) : List Piece :=
  .word f :: .mark .openParen ::
    (first ++ .mark .comma :: .blank :: (second ++ [.mark .closeParen]))

/-- Rows with a word between them. -/
def joined (w : String) (rows : List (List Piece)) : List Piece :=
  [.blank, .word w, .blank].intercalate rows

@[simp] theorem written_ofName (d : Dialect) (s : String) :
    (ofName s).written d = (d.identifier s).toList := by
  rw [ofName, Dialect.identifier, identifier]
  split
  · rfl
  · simp [written, Token.written]

theorem valid_ofName (s : String) : (ofName s).Valid := by
  rw [ofName]
  split
  · next h => exact h
  · trivial

theorem layout_call (d : Dialect) (f : String) (a b : List Piece) :
    layout d (call f a b) =
      f.toList ++ '(' :: (layout d a ++ ',' :: ' ' :: (layout d b ++ [')'])) := by
  simp [call, Mark.chars]

theorem wellSpaced_call {f : String} (hf : isPlain f = true) {a b : List Piece}
    (ha : WellSpaced a) (hb : WellSpaced b) : WellSpaced (call f a b) := by
  have hclose : WellSpaced [.mark .closeParen] := .single trivial
  have hrest := hb.append_of_head hclose (by simp [solid, Token.solid])
  have hcomma : WellSpaced (.mark .comma :: .blank :: (b ++ [.mark .closeParen])) :=
    .cons trivial (fun _ _ => before_of_not_solid rfl) <|
      .cons trivial (fun _ _ => before_of_not_solid rfl) hrest
  refine .cons hf ?_ <|
    .cons trivial (fun _ _ => before_of_not_solid rfl) (ha.append_of_head hcomma ?_)
  · simp [Before, solid, Token.solid]
  · simp [solid, Token.solid]

theorem layout_joined (d : Dialect) (w : String) (rows : List (List Piece)) :
    layout d (joined w rows) = (' ' :: (w.toList ++ [' '])).intercalate (rows.map (layout d)) := by
  simp [joined, layout_intercalate]

theorem separates_word {w : String} (hw : isPlain w = true) :
    Separates [.blank, .word w, .blank] where
  spaced := .cons trivial (fun _ _ => before_of_not_solid rfl)
    (.cons hw (by simp [Before, solid]) (.cons trivial nofun .nil))
  head := by simp [solid]
  last := by simp [solid]
  ne_nil := by simp

theorem tokensOf_joined (w : String) (rows : List (List Piece)) :
    tokensOf (joined w rows) = [Token.word w].intercalate (rows.map tokensOf) := by
  simp [joined, tokensOf_intercalate]

end Sql.Piece

open Sql.Piece (ofName call joined)

/-! ### Conditions -/

namespace Dialect

/-- The text of a label, or the empty text. -/
def extractPieces (d : Dialect) (key : String) : List Piece :=
  match d with
  | .clickhouse => call "JSONExtractString" [.word labelsColumn] [.text key]
  | .duckdb =>
    call "coalesce" (call "json_extract_string" [.word labelsColumn] [.text (labelPath key)])
      [.text ""]

/-- Whether there is a label. -/
def hasLabelPieces (d : Dialect) (key : String) : List Piece :=
  match d with
  | .clickhouse => call "JSONHas" [.word labelsColumn] [.text key]
  | .duckdb => call "json_exists" [.word labelsColumn] [.text (labelPath key)]

/-- A list of literals. -/
def listPieces (d : Dialect) (values : List String) : List Piece :=
  match d with
  | .clickhouse =>
    .mark .openBracket :: ([Piece.mark .comma].intercalate (values.map fun v => [.text v]) ++
      [.mark .closeBracket])
  | .duckdb =>
    .mark .openParen :: ([Piece.mark .comma, .blank].intercalate (values.map fun v => [.text v]) ++
      [.mark .closeParen])

/-- A comparison with a `%` and `_` pattern. -/
def likePieces (d : Dialect) (label : List Piece) (pattern : String) (negated : Bool) :
    List Piece :=
  match d with
  | .clickhouse => call (if negated then "notLike" else "like") label [.text pattern]
  | .duckdb =>
    label ++ .blank :: ((if negated then [.word "NOT", .blank] else []) ++
      [.word "LIKE", .blank, .text pattern])

/-- The name of the function that matches regular expressions. -/
def regexFunction : Dialect → String
  | .clickhouse => "match"
  | .duckdb => "regexp_matches"

/-- A comparison with a regular expression. -/
def regexPieces (d : Dialect) (label : List Piece) (pattern : String) (negated : Bool) :
    List Piece :=
  (if negated then [.word "NOT", .blank] else []) ++ call d.regexFunction label [.text pattern]

end Dialect

/-- A condition as a row of pieces. -/
def Condition.pieces (d : Dialect) (c : Condition) : List Piece :=
  let label := d.extractPieces c.key
  match c.test with
  | .equal v => label ++ [.blank, .mark .equal, .blank, .text v]
  | .notEqual v => label ++ [.blank, .mark .notEqual, .blank, .text v]
  | .oneOf vs => label ++ .blank :: .word "IN" :: .blank :: d.listPieces vs
  | .noneOf vs =>
    label ++ .blank :: .word "NOT" :: .blank :: .word "IN" :: .blank :: d.listPieces vs
  | .like p => d.likePieces label p false
  | .notLike p => d.likePieces label p true
  | .regex p => d.regexPieces label p false
  | .notRegex p => d.regexPieces label p true
  | .present => d.hasLabelPieces c.key
  | .absent => .word "NOT" :: .blank :: d.hasLabelPieces c.key

namespace Dialect

theorem literal_empty (d : Dialect) : d.literal "" = "''" := by
  cases d <;> rfl

@[simp] theorem layout_extractPieces (d : Dialect) (key : String) :
    layout d (d.extractPieces key) = (d.extract labelsColumn key).toList := by
  unfold extractPieces extract
  cases d <;>
    simp [Sql.Piece.layout_call, literal_empty]

@[simp] theorem layout_hasLabelPieces (d : Dialect) (key : String) :
    layout d (d.hasLabelPieces key) = (d.hasLabel labelsColumn key).toList := by
  unfold hasLabelPieces hasLabel
  cases d <;> simp [Sql.Piece.layout_call]

@[simp] theorem layout_listPieces (d : Dialect) (values : List String) :
    layout d (d.listPieces values) = (d.list values).toList := by
  unfold listPieces list
  cases d <;>
    simp [Sql.literals, Sql.layout_intercalate, Mark.chars,
      String.toList_intercalate, Function.comp_def, literal]

theorem layout_likePieces (d : Dialect) {label : List Piece} {expression : String}
    (h : layout d label = expression.toList) (pattern : String) (negated : Bool) :
    layout d (d.likePieces label pattern negated) = (d.like expression pattern negated).toList := by
  unfold likePieces like
  cases d <;> cases negated <;>
    simp [h, Sql.Piece.layout_call]

theorem layout_regexPieces (d : Dialect) {label : List Piece} {expression : String}
    (h : layout d label = expression.toList) (pattern : String) (negated : Bool) :
    layout d (d.regexPieces label pattern negated) =
      (d.regex expression pattern negated).toList := by
  unfold regexPieces regex regexFunction
  cases d <;> cases negated <;>
    simp [h, Sql.Piece.layout_call]

end Dialect

/-- A condition is laid out from its pieces. -/
theorem Condition.toList_sql (d : Dialect) (c : Condition) :
    (c.sql d labelsColumn).toList = layout d (c.pieces d) := by
  obtain ⟨key, test⟩ := c
  have hlabel := d.layout_extractPieces key
  cases test with
  | like p => exact (d.layout_likePieces hlabel p false).symm
  | notLike p => exact (d.layout_likePieces hlabel p true).symm
  | regex p => exact (d.layout_regexPieces hlabel p false).symm
  | notRegex p => exact (d.layout_regexPieces hlabel p true).symm
  | _ => simp [sql, pieces, Mark.chars]

/-! ### Spacing of conditions -/

section

open Sql.Piece (Before solid Valid wellSpaced_call)

variable {d : Dialect} {label : List Piece}

theorem wellSpaced_text (s : String) : WellSpaced [.text s] := .single trivial

theorem wellSpaced_column : WellSpaced [.word labelsColumn] :=
  .single (show Sql.isPlain labelsColumn = true by decide)

theorem separates_comma : Separates [.mark .comma] :=
  ⟨.single trivial, by simp [solid, Token.solid], by simp [solid, Token.solid], by simp⟩

theorem separates_comma_blank : Separates [.mark .comma, .blank] :=
  ⟨⟨by simp [Before, solid], by simp [Valid, Token.Valid]⟩, by simp [solid, Token.solid],
    by simp [solid], by simp⟩

/-- An operator between blanks, and a text. -/
theorem wellSpaced_comparison (m : Mark) (v : String) :
    WellSpaced [.blank, .mark m, .blank, .text v] :=
  ⟨by simp [Before, solid, Token.solid], by simp [Valid, Token.Valid]⟩

namespace Dialect

theorem wellSpaced_extractPieces (d : Dialect) (key : String) :
    WellSpaced (d.extractPieces key) := by
  cases d with
  | clickhouse => exact wellSpaced_call (by decide) wellSpaced_column (wellSpaced_text _)
  | duckdb =>
    exact wellSpaced_call (by decide)
      (wellSpaced_call (by decide) wellSpaced_column (wellSpaced_text _)) (wellSpaced_text _)

theorem wellSpaced_hasLabelPieces (d : Dialect) (key : String) :
    WellSpaced (d.hasLabelPieces key) := by
  cases d <;> exact wellSpaced_call (by decide) wellSpaced_column (wellSpaced_text _)

theorem wellSpaced_listPieces (d : Dialect) (values : List String) :
    WellSpaced (d.listPieces values) := by
  have htexts : ∀ ps ∈ values.map fun v => [Piece.text v], WellSpaced ps := by
    rintro _ hps
    obtain ⟨v, -, rfl⟩ := List.mem_map.mp hps
    exact wellSpaced_text v
  cases d with
  | clickhouse => exact (separates_comma.intercalate htexts).between_marks _ _
  | duckdb => exact (separates_comma_blank.intercalate htexts).between_marks _ _

theorem wellSpaced_likePieces (d : Dialect) (h : WellSpaced label) (pattern : String)
    (negated : Bool) : WellSpaced (d.likePieces label pattern negated) := by
  have htext := wellSpaced_text pattern
  cases d with
  | clickhouse => cases negated <;> exact wellSpaced_call (by decide) h htext
  | duckdb =>
    refine h.append_of_head ?_ (by simp [solid])
    cases negated with
    | false => exact (htext.word_blank (by decide)).blank
    | true => exact ((htext.word_blank (by decide)).word_blank (by decide)).blank

theorem wellSpaced_regexPieces (d : Dialect) (h : WellSpaced label) (pattern : String)
    (negated : Bool) : WellSpaced (d.regexPieces label pattern negated) := by
  have hcall : WellSpaced (call d.regexFunction label [.text pattern]) :=
    wellSpaced_call (by cases d <;> decide) h (wellSpaced_text pattern)
  cases negated with
  | false => exact hcall
  | true => exact hcall.word_blank (by decide)

end Dialect

theorem Condition.wellSpaced_pieces (d : Dialect) (c : Condition) : WellSpaced (c.pieces d) := by
  obtain ⟨key, test⟩ := c
  have hlabel := d.wellSpaced_extractPieces key
  have hhead : ∀ ps, ∀ q ∈ (Piece.blank :: ps).head?, q.solid = false := by simp [solid]
  cases test with
  | equal v | notEqual v => exact hlabel.append_of_head (wellSpaced_comparison _ v) (hhead _)
  | oneOf vs =>
    exact hlabel.append_of_head ((d.wellSpaced_listPieces vs).word_blank (by decide)).blank
      (hhead _)
  | noneOf vs =>
    exact hlabel.append_of_head
      (((d.wellSpaced_listPieces vs).word_blank (by decide)).word_blank (by decide)).blank
      (hhead _)
  | like p | notLike p => exact d.wellSpaced_likePieces hlabel p _
  | regex p | notRegex p => exact d.wellSpaced_regexPieces hlabel p _
  | present => exact d.wellSpaced_hasLabelPieces key
  | absent => exact (d.wellSpaced_hasLabelPieces key).word_blank (by decide)

end

/-! ### Predicates -/

namespace Combinator

/-- Members as conjuncts: alternatives are grouped to one, unless there is only one. -/
def gather {α : Type} (op : Combinator) (group : List α → α) : List α → List α
  | a :: b :: as =>
    match op with
    | .all => a :: b :: as
    | .any => [group (a :: b :: as)]
  | as => as

variable {α β : Type} {op : Combinator}

theorem conjuncts_eq_gather (op : Combinator) (fragments : List String) :
    op.conjuncts fragments =
      op.gather (fun fs => "(" ++ op.joiner.intercalate fs ++ ")") fragments := by
  match op, fragments with
  | .all, [] | .any, [] | .all, [_] | .any, [_] => rfl
  | .all, _ :: _ :: _ | .any, _ :: _ :: _ => rfl

theorem map_gather {f : α → β} {group : List α → α} {group' : List β → β}
    (h : op = .any → ∀ as, f (group as) = group' (as.map f)) (as : List α) :
    (op.gather group as).map f = op.gather group' (as.map f) := by
  match op, as with
  | .all, [] | .any, [] | .all, [_] | .any, [_] => rfl
  | .all, _ :: _ :: _ => rfl
  | .any, a :: b :: as => simp [gather, h]

theorem forall_mem_gather {P : α → Prop} {group : List α → α} {as : List α}
    (hgroup : op = .any → P (group as)) (has : ∀ a ∈ as, P a) :
    ∀ a ∈ op.gather group as, P a := by
  match op, as with
  | .all, [] | .any, [] | .all, [_] | .any, [_] => exact has
  | .all, _ :: _ :: _ => exact has
  | .any, a :: b :: as => simpa [gather] using hgroup rfl

theorem rel_gather {R : α → β → Prop} {group : List α → α} {group' : List β → β}
    (hgroup : ∀ a b as bs, R a b → List.Forall₂ R as bs → R (group (a :: as)) (group' (b :: bs)))
    {as : List α} {bs : List β} (h : List.Forall₂ R as bs) :
    List.Forall₂ R (op.gather group as) (op.gather group' bs) := by
  cases h with
  | nil => exact .nil
  | cons h₁ htail =>
    cases htail with
    | nil => exact .cons h₁ .nil
    | cons h₂ htail =>
      cases op with
      | all => exact .cons h₁ (.cons h₂ htail)
      | any => exact .cons (hgroup _ _ _ _ h₁ (.cons h₂ htail)) .nil

end Combinator

namespace Compiler

/-- Alternatives in parentheses. -/
def groupPieces (rows : List (List Piece)) : List Piece :=
  .mark .openParen :: (joined "OR" rows ++ [.mark .closeParen])

/-- The condition that the metric has a name. -/
def metricPieces (metric : String) : List Piece :=
  [.word metricColumn, .blank, .mark .equal, .blank, .text metric]

/-- The conditions on keys that are not excluded. -/
def kept (scope : Scope) (stated : List Condition) : List Condition :=
  stated.filter fun cond => !scope.excluded.contains cond.key

/-- A predicate as a row of pieces. -/
def pieces (c : Compiler) (op : Combinator) (scope : Scope) (stated implied : List Condition) :
    List Piece :=
  joined "AND" (metricPieces scope.metric ::
    op.gather groupPieces ((kept scope stated).map (Condition.pieces c.dialect)) ++
      implied.map (Condition.pieces c.dialect))

/-- A predicate is laid out from its pieces. -/
theorem toList_assemble (c : Compiler) (op : Combinator) (scope : Scope)
    (stated implied : List Condition) :
    (c.assemble op scope stated implied).toList =
      layout c.dialect (c.pieces op scope stated implied) := by
  have hsql : ∀ cs : List Condition, (cs.map (Condition.sql c.dialect labelsColumn)).map
      String.toList = (cs.map (Condition.pieces c.dialect)).map (layout c.dialect) := fun cs => by
    simp [Function.comp_def, Condition.toList_sql]
  have hrows : ∀ rows : List (List Piece), (op.gather groupPieces rows).map (layout c.dialect) =
      op.gather (fun fs => '(' :: (" OR ".toList.intercalate fs ++ [')']))
        (rows.map (layout c.dialect)) :=
    Combinator.map_gather fun _ rows => by
      simp [groupPieces, Sql.Piece.layout_joined, Mark.chars]
  have htexts : ∀ fs : List String,
      (op.gather (fun fs => "(" ++ op.joiner.intercalate fs ++ ")") fs).map String.toList =
        op.gather (fun fs => '(' :: (" OR ".toList.intercalate fs ++ [')']))
          (fs.map String.toList) :=
    Combinator.map_gather fun hop fs => by
      simp [hop, Combinator.joiner, String.toList_intercalate]
  have hmetric : (metricColumn ++ " = " ++ c.dialect.literal scope.metric).toList =
      layout c.dialect (metricPieces scope.metric) := by
    simp [metricPieces, Mark.chars]
  rw [assemble, pieces, Sql.Piece.layout_joined, String.toList_intercalate,
    Combinator.conjuncts_eq_gather]
  simp only [List.map_append, List.map_cons, hsql, hmetric, hrows, htexts]
  rfl

theorem wellSpaced_pieces (c : Compiler) (op : Combinator) (scope : Scope)
    (stated implied : List Condition) : WellSpaced (c.pieces op scope stated implied) := by
  have hconditions : ∀ cs : List Condition, ∀ ps ∈ cs.map (Condition.pieces c.dialect),
      WellSpaced ps := by
    intro cs ps hps
    obtain ⟨cond, -, rfl⟩ := List.mem_map.mp hps
    exact cond.wellSpaced_pieces c.dialect
  have hmetric : WellSpaced (metricPieces scope.metric) :=
    .cons (show Sql.isPlain metricColumn = true by decide)
      (by simp [Sql.Piece.Before, Sql.Piece.solid]) (wellSpaced_comparison _ _)
  refine (Sql.Piece.separates_word (by decide)).intercalate ?_
  rintro ps hps
  obtain rfl | hps := List.mem_cons.mp hps
  · exact hmetric
  · obtain hps | hps := List.mem_append.mp hps
    · refine Combinator.forall_mem_gather (P := WellSpaced) (fun _ => ?_) (hconditions _) ps hps
      exact ((Sql.Piece.separates_word (by decide)).intercalate (hconditions _)).between_marks _ _
    · exact hconditions _ ps hps

/-- The tokens of a predicate. -/
theorem tokens_assemble (c : Compiler) (op : Combinator) (scope : Scope)
    (stated implied : List Condition) :
    Sql.tokens c.dialect (c.assemble op scope stated implied).toList =
      some (tokensOf (c.pieces op scope stated implied)) := by
  rw [toList_assemble, Sql.tokens_layout (c.wellSpaced_pieces op scope stated implied)]

/-! ### Sub-queries -/

/-- The column of a tag, under the name of the tag. -/
def tagPieces (d : Dialect) (tag : String) : List Piece :=
  d.extractPieces tag ++ [.blank, .word "as", .blank, ofName tag]

/-- The columns of a sub-query. -/
def columnRows (c : Compiler) (a : Aggregation) (tags : List String) : List (List Piece) :=
  (if a.passesThrough then [[.word labelsColumn]] else tags.map (tagPieces c.dialect)) ++
    [[.word fingerprintColumn]]

/-- A sub-query as a row of pieces. -/
def selectPieces (c : Compiler) (source : SeriesTable) (a : Aggregation) (tags : List String)
    (predicate : List Piece) : List Piece :=
  .word "SELECT" :: .blank :: ([.mark .comma, .blank].intercalate (c.columnRows a tags) ++
    .blank :: .word "FROM" :: .blank :: ofName source.database :: .mark .dot ::
      ofName source.table :: .blank :: .word "WHERE" :: .blank :: predicate)

theorem map_toList_columns (c : Compiler) (a : Aggregation) (tags : List String) :
    (c.columns a tags).map String.toList = (c.columnRows a tags).map (layout c.dialect) := by
  rw [columns, columnRows]
  split <;>
    simp [tagPieces, Function.comp_def]

/-- A sub-query is laid out from its pieces. -/
theorem toList_select (c : Compiler) (source : SeriesTable) {predicate : String} (a : Aggregation)
    (tags : List String) {ps : List Piece} (h : predicate.toList = layout c.dialect ps) :
    (c.select source predicate a tags).toList =
      layout c.dialect (c.selectPieces source a tags ps) := by
  simp [select, selectPieces, String.toList_intercalate, map_toList_columns, h,
    Sql.layout_intercalate, Mark.chars]

theorem wellSpaced_columnRows (c : Compiler) (a : Aggregation) (tags : List String) :
    ∀ ps ∈ c.columnRows a tags, WellSpaced ps := by
  have htag : ∀ tag, WellSpaced (tagPieces c.dialect tag) := fun tag =>
    (c.dialect.wellSpaced_extractPieces tag).append_of_head
      (WellSpaced.word_blank (by decide) (.single (Sql.Piece.valid_ofName tag))).blank
      (by simp [Sql.Piece.solid])
  rw [columnRows]
  rw [List.forall_mem_append, List.forall_mem_singleton]
  refine ⟨?_, .single (show Sql.isPlain fingerprintColumn = true by decide)⟩
  split
  · rw [List.forall_mem_singleton]
    exact wellSpaced_column
  · rw [List.forall_mem_map]
    exact fun tag _ => htag tag

theorem wellSpaced_selectPieces (c : Compiler) (source : SeriesTable) (a : Aggregation)
    (tags : List String) {ps : List Piece} (h : WellSpaced ps) :
    WellSpaced (c.selectPieces source a tags ps) := by
  have htable : WellSpaced (.mark .dot :: ofName source.table :: .blank :: .word "WHERE" ::
      .blank :: ps) :=
    .cons trivial (fun _ _ => Sql.Piece.before_of_not_solid rfl) (.cons (Sql.Piece.valid_ofName _)
      (by simp [Sql.Piece.Before, Sql.Piece.solid]) (h.word_blank (by decide)).blank)
  have hfrom : WellSpaced (.blank :: .word "FROM" :: .blank :: ofName source.database ::
      .mark .dot :: ofName source.table :: .blank :: .word "WHERE" :: .blank :: ps) :=
    (WellSpaced.word_blank (by decide) (.cons (Sql.Piece.valid_ofName _)
      (by simp [Sql.Piece.Before, Sql.Piece.solid, Token.solid]) htable)).blank
  have hcolumns := separates_comma_blank.intercalate (c.wellSpaced_columnRows a tags)
  exact (hcolumns.append_of_head hfrom (by simp [Sql.Piece.solid])).word_blank (by decide)

/-- The tokens of a sub-query. -/
theorem tokens_select (c : Compiler) (source : SeriesTable) (op : Combinator) (scope : Scope)
    (tags : List String) (stated implied : List Condition) :
    Sql.tokens c.dialect (c.select source (c.assemble op scope stated implied) scope.aggregation
        tags).toList =
      some (tokensOf (c.selectPieces source scope.aggregation tags
        (c.pieces op scope stated implied))) := by
  have hspaced := c.wellSpaced_selectPieces source scope.aggregation tags
    (c.wellSpaced_pieces op scope stated implied)
  rw [toList_select c source _ _ (c.toList_assemble op scope stated implied),
    Sql.tokens_layout hspaced]

end Compiler

end LabelFilter
