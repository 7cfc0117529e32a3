import LabelFilter.Proofs.Filter.Expression
import LabelFilter.Proofs.Sql.SubQuery

/-!
# Sub-queries are read in one way

The sub-query around a predicate is read back: to the columns, the database and the table that it
was written for, and to the predicate as it stands. Nothing is asked of the predicate, which need
not even be made of tokens. Each tag is written twice, as the key that is extracted and as the name
of the column, and both are read back to it.

## Main definitions

* `Dialect.labelOf?` — the label that an expression extracts
* `Compiler.selectColumns`, `Compiler.selection` — what a sub-query is read as
* `Aggregation.effectiveTags` — the tags that make a difference

## Main results

* `Compiler.readsAs_selection` — a sub-query is read as what it was written for
* `Compiler.select_reads_uniquely` — and as nothing else
-/

namespace LabelFilter

open List (Forall₂)
open Sql (Column Derives Expr Piece ReadsAs ReadsColumn ReadsColumns ReadsHead SubQuery Token
  WellSpaced layout tokensOf)
open Sql.Piece (ofName)

/-! ### Labels -/

/-- The label that an expression extracts from the column of labels. -/
def Dialect.labelOf? : Dialect → Expr → Option String
  | .clickhouse, .call f (.column column) (.text key) =>
    if f = "JSONExtractString" ∧ column = labelsColumn then some key else none
  | .duckdb, .call f (.call g (.column column) (.text path)) (.text default) =>
    if f = "coalesce" ∧ g = "json_extract_string" ∧ column = labelsColumn ∧ default = "" then
      Sql.labelOfPath? path
    else none
  | _, _ => none

theorem Dialect.labelOf?_labelExpr (d : Dialect) (key : String) :
    d.labelOf? (d.labelExpr key) = some key := by
  cases d <;> simp [labelOf?, labelExpr]

/-! ### Names -/

theorem name?_ofName (s : String) : ∃ t : Token, ofName s = .token t ∧ t.name? = some s := by
  rw [ofName]
  split <;> exact ⟨_, rfl, rfl⟩

namespace Compiler

variable (c : Compiler) (source : SeriesTable) (a : Aggregation) (tags : List String)

/-! ### The head of a sub-query -/

/-- What stands before the condition, as a row of pieces. -/
def headPieces : List Piece :=
  .word "SELECT" :: .blank :: ([.mark .comma, .blank].intercalate (c.columnRows a tags) ++
    [.blank, .word "FROM", .blank, ofName source.database, .mark .dot, ofName source.table])

theorem selectPieces_eq (ps : List Piece) : c.selectPieces source a tags ps =
    c.headPieces source a tags ++ .blank :: .word "WHERE" :: .blank :: ps := by
  simp [selectPieces, headPieces]

theorem wellSpaced_headPieces : WellSpaced (c.headPieces source a tags) := by
  have h := c.wellSpaced_selectPieces source a tags .nil
  rw [selectPieces_eq] at h
  exact ⟨(List.isChain_append.mp h.chain).1, (List.forall_mem_append.mp h.valid).1⟩

theorem toList_select_eq (predicate : String) : (c.select source predicate a tags).toList =
    layout c.dialect (c.headPieces source a tags) ++ (" WHERE ".toList ++ predicate.toList) := by
  simp [select, headPieces, String.toList_intercalate, map_toList_columns, Sql.layout_intercalate,
    Sql.Mark.chars]

/-! ### Columns -/

/-- The columns of a sub-query. -/
def selectColumns : List Column :=
  (if a.passesThrough then [⟨.column labelsColumn, none⟩]
    else tags.map fun tag => ⟨c.dialect.labelExpr tag, some tag⟩) ++
    [⟨.column fingerprintColumn, none⟩]

theorem readsColumn_tag (d : Dialect) (tag : String) :
    ReadsColumn (tokensOf (tagPieces d tag)) ⟨d.labelExpr tag, some tag⟩ := by
  obtain ⟨t, ht, hname⟩ := name?_ofName tag
  have h := ReadsColumn.named (derives_disjunction (d.derives_labelExpr tag)) hname
  simpa [tagPieces, ht] using h

theorem readsColumn_word {w : String} (hw : w ∉ Sql.keywords) :
    ReadsColumn (tokensOf [.word w]) ⟨.column w, none⟩ :=
  .bare (derives_disjunction (.column hw))

/-- Each row of pieces is read as its column. -/
theorem readsColumn_rows : Forall₂ (fun row column => ReadsColumn (tokensOf row) column)
    (c.columnRows a tags) (c.selectColumns a tags) := by
  refine List.rel_append ?_ (.cons (readsColumn_word (by decide)) .nil)
  split
  · exact .cons (readsColumn_word (by decide)) .nil
  · rw [List.forall₂_map_left_iff, List.forall₂_map_right_iff, List.forall₂_same]
    exact fun tag _ => readsColumn_tag c.dialect tag

theorem readsHead : ReadsHead (tokensOf (c.headPieces source a tags)) (c.selectColumns a tags)
    source.database source.table := by
  have hcolumns : ReadsColumns ([Token.mark .comma].intercalate
      ((c.columnRows a tags).map tokensOf)) (c.selectColumns a tags) :=
    .of_forall₂ (List.forall₂_map_left_iff.mpr (c.readsColumn_rows a tags)) (by simp [columnRows])
  obtain ⟨t, ht, hdatabase⟩ := name?_ofName source.database
  obtain ⟨u, hu, htable⟩ := name?_ofName source.table
  have h := ReadsHead.select hcolumns hdatabase htable
  simpa [headPieces, ht, hu, Sql.tokensOf_intercalate] using h

/-! ### Sub-queries -/

/-- What a sub-query is read as. -/
def selection (predicate : String) : SubQuery :=
  ⟨c.selectColumns a tags, source.database, source.table, predicate⟩

/-- **A sub-query is read** as what it was written for. -/
theorem readsAs_selection (predicate : String) :
    ReadsAs c.dialect (c.select source predicate a tags)
      (c.selection source a tags predicate) :=
  ⟨_, _, c.toList_select_eq source a tags predicate,
    Sql.tokens_layout (c.wellSpaced_headPieces source a tags), c.readsHead source a tags⟩

end Compiler

/-- The tags that make a difference to a sub-query: none if series are passed through. -/
def Aggregation.effectiveTags (a : Aggregation) (tags : List String) : Option (List String) :=
  if a.passesThrough then none else some tags

namespace Compiler

variable (c : Compiler)

/-- The columns are decided by the tags that make a difference, and decide them. -/
theorem selectColumns_eq_iff {a a' : Aggregation} {tags tags' : List String} :
    c.selectColumns a tags = c.selectColumns a' tags' ↔
      a.effectiveTags tags = a'.effectiveTags tags' := by
  have hinjective : Function.Injective fun tag : String =>
      (⟨c.dialect.labelExpr tag, some tag⟩ : Column) := by
    intro tag tag' h
    simpa using congrArg Column.name h
  have hbare : ∀ tags : List String, [(⟨.column labelsColumn, none⟩ : Column)] ≠
      tags.map fun tag => ⟨c.dialect.labelExpr tag, some tag⟩ := by
    intro tags
    cases tags <;> simp
  rw [selectColumns, selectColumns, List.append_left_inj, Aggregation.effectiveTags,
    Aggregation.effectiveTags]
  split <;> split
  · simp
  · exact ⟨fun h => absurd h (hbare _), nofun⟩
  · exact ⟨fun h => absurd h.symm (hbare _), nofun⟩
  · rw [(List.map_injective_iff.mpr hinjective).eq_iff, Option.some.injEq]

theorem columns_congr {a a' : Aggregation} {tags tags' : List String}
    (h : a.effectiveTags tags = a'.effectiveTags tags') :
    c.columns a tags = c.columns a' tags' := by
  rw [Aggregation.effectiveTags, Aggregation.effectiveTags] at h
  rw [columns, columns]
  split at h <;> split at h
  · simp [*]
  · cases h
  · cases h
  · cases h
    simp [*]

/-- **A sub-query is read in one way.** It is read as what it was written for and as nothing else:
the predicate as it stands, the names of the database and the table, and the columns, where the key
that a column extracts and the name of the column are both the tag. So two sub-queries of one
compiler are the same text if and only if they have the same table, predicate and tags, where tags
make no difference if series are passed through. -/
theorem select_reads_uniquely (source : SeriesTable) (predicate : String) (a : Aggregation)
    (tags : List String) :
    (∃ q, (∀ q', ReadsAs c.dialect (c.select source predicate a tags) q' ↔ q' = q) ∧
      q.condition = predicate ∧ q.database = source.database ∧ q.table = source.table ∧
      (a.passesThrough = true → q.columns =
        [⟨.column labelsColumn, none⟩, ⟨.column fingerprintColumn, none⟩]) ∧
      (a.passesThrough = false → ∃ columns,
        q.columns = columns ++ [⟨.column fingerprintColumn, none⟩] ∧
        Forall₂ (fun column tag => c.dialect.labelOf? column.expression = some tag ∧
          column.name = some tag) columns tags)) ∧
    ∀ source' predicate' a' tags',
      c.select source predicate a tags = c.select source' predicate' a' tags' ↔
        source.database = source'.database ∧ source.table = source'.table ∧
          predicate = predicate' ∧ a.effectiveTags tags = a'.effectiveTags tags' := by
  have hread := c.readsAs_selection source a tags predicate
  have hunique : ∀ q', ReadsAs c.dialect (c.select source predicate a tags) q' ↔
      q' = c.selection source a tags predicate :=
    fun q' => ⟨fun h => h.unique hread, fun h => h ▸ hread⟩
  refine ⟨⟨c.selection source a tags predicate, hunique, rfl, rfl, rfl, fun ha => ?_, fun ha => ?_⟩,
    fun source' predicate' a' tags' => ⟨fun h => ?_, ?_⟩⟩
  · simp [selection, selectColumns, ha]
  · refine ⟨tags.map fun tag => ⟨c.dialect.labelExpr tag, some tag⟩, ?_, ?_⟩
    · simp [selection, selectColumns, ha]
    · rw [List.forall₂_map_left_iff, List.forall₂_same]
      exact fun tag _ => ⟨c.dialect.labelOf?_labelExpr tag, rfl⟩
  · have hsame := (hunique _).mp (h ▸ c.readsAs_selection source' a' tags' predicate')
    rw [selection, selection, SubQuery.mk.injEq, selectColumns_eq_iff] at hsame
    obtain ⟨htags, hdatabase, htable, hpredicate⟩ := hsame
    exact ⟨hdatabase.symm, htable.symm, hpredicate.symm, htags.symm⟩
  · rintro ⟨hdatabase, htable, rfl, htags⟩
    rw [select, select, c.columns_congr htags, hdatabase, htable]

/-- A dot in a name is none between names. -/
theorem select_ne_of_dotted_names :
    (⟨.clickhouse, []⟩ : Compiler).select ⟨"a.b", "c"⟩ "" .sum [] ≠
      (⟨.clickhouse, []⟩ : Compiler).select ⟨"a", "b.c"⟩ "" .sum [] := by
  intro h
  have hsame := ((select_reads_uniquely ⟨.clickhouse, []⟩ ⟨"a.b", "c"⟩ "" .sum []).2
    ⟨"a", "b.c"⟩ "" .sum []).mp h
  exact absurd hsame.1 (by decide)

end Compiler

end LabelFilter
