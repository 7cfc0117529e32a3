import Mathlib.Data.List.Nodup
import LabelFilter.Command.Program
import LabelFilter.Proofs.Filter.Stated
import LabelFilter.Proofs.Filter.SubQuery
import LabelFilter.Proofs.Sql.Names

/-!
# Columns for grouping tags

Each grouping tag is the name of a column of the sub-query, as it is and whatever the client chose.
The sub-query reads three columns of the table by their names, and the one that tells series apart
comes out behind those of the tags. A tag that the backend takes for one of these three names
clashes with it: the sub-query is written all the same, but the name can be taken in two ways. So it
is with two tags that are one name to the backend, as tags are on DuckDB that differ in the case of
ASCII letters only. Other tags never clash.

## Main definitions

* `seriesColumns` — the columns of the table that sub-queries read
* `Compiler.ReadsLabels` — expressions that read no other column than the labels
* `Settings.GivesOut` — the sub-queries that the service and the command give out

## Main results

* `Compiler.map_output?_selection`, `Compiler.map_aliases_selection`, `Compiler.reads_subset` — the
  names that come out of a sub-query, that are given in it, and that are read
* `Compiler.unambiguous_selection_iff` — the tags that do not clash
* `Settings.group_columns_unambiguous_iff` — the same of all sub-queries that are given out
-/

namespace LabelFilter

open Sql (Column Expr ReadsAs SubQuery)

/-- The columns of the table that sub-queries read. -/
def seriesColumns : List String := [labelsColumn, metricColumn, fingerprintColumn]

/-! ### What conditions read -/

theorem Dialect.columnNames_labelExpr (d : Dialect) (key : String) :
    (d.labelExpr key).columnNames = [labelsColumn] := by
  cases d <;> rfl

theorem Dialect.columnNames_hasLabelExpr (d : Dialect) (key : String) :
    (d.hasLabelExpr key).columnNames = [labelsColumn] := by
  cases d <;> rfl

/-- A condition reads the labels and nothing else. -/
theorem Condition.columnNames_expr (d : Dialect) (c : Condition) :
    (c.expr d).columnNames = [labelsColumn] := by
  obtain ⟨key, test⟩ := c
  have hlabel := d.columnNames_labelExpr key
  have hlike : ∀ p negated, (d.likeExpr (d.labelExpr key) p negated).columnNames =
      [labelsColumn] := by
    intro p negated
    cases d <;> exact hlabel
  have hregex : ∀ p negated, (d.regexExpr (d.labelExpr key) p negated).columnNames =
      [labelsColumn] := by
    intro p negated
    cases negated <;> simp [Dialect.regexExpr, Expr.columnNames, hlabel]
  cases test with
  | equal | notEqual | oneOf | noneOf => simp [expr, Expr.columnNames, hlabel]
  | like | notLike => exact hlike _ _
  | regex p => exact hregex p false
  | notRegex p => exact hregex p true
  | present | absent => simp [expr, Expr.columnNames, d.columnNames_hasLabelExpr]

namespace Compiler

/-- An expression reads no other column than the labels. -/
def ReadsLabels (e : Expr) : Prop := ∀ name ∈ e.columnNames, name = labelsColumn

theorem readsLabels_groupExpr {es : List Expr} (h : ∀ e ∈ es, ReadsLabels e) :
    ReadsLabels (groupExpr es) := by
  cases es with
  | nil => nofun
  | cons e es =>
    intro name hname
    obtain ⟨f, hf, hname⟩ := (Expr.mem_columnNames_chain fun _ _ => rfl).mp hname
    exact h f hf name hname

variable (c : Compiler) (source : SeriesTable) (predicate : String) {a : Aggregation}
  (tags : List String) (op : Combinator) (scope : Scope) (stated implied : List Condition)

/-- A predicate reads the name of the metric and the labels. -/
theorem columnNames_expr_subset :
    ∀ name ∈ (c.expr op scope stated implied).columnNames,
      name = metricColumn ∨ name = labelsColumn := by
  intro name hname
  obtain ⟨f, hf, hname⟩ := (Expr.mem_columnNames_chain fun _ _ => rfl).mp hname
  have hconditions : ∀ cs : List Condition, ∀ e ∈ cs.map (Condition.expr c.dialect),
      ReadsLabels e := by
    simp [ReadsLabels, Condition.columnNames_expr]
  have hgathered := Combinator.forall_mem_gather (fun _ : op = .any =>
    readsLabels_groupExpr (hconditions (kept scope stated))) (hconditions _)
  rcases List.mem_cons.mp hf with rfl | hf
  · exact .inl (by simpa [metricExpr, Expr.columnNames] using hname)
  · rcases List.mem_append.mp hf with hf | hf
    · exact .inr (hgathered f hf name hname)
    · exact .inr (hconditions _ f hf name hname)

theorem metricColumn_mem_columnNames_expr :
    metricColumn ∈ (c.expr op scope stated implied).columnNames :=
  (Expr.mem_columnNames_chain fun _ _ => rfl).mpr
    ⟨metricExpr scope.metric, List.mem_cons_self, by simp [metricExpr, Expr.columnNames]⟩

/-! ### Names in a sub-query -/

/-- The tags come out in their order, and the fingerprint behind them. -/
theorem map_output?_selection (ha : a.passesThrough = false) :
    (c.selection source a tags predicate).columns.map Column.output? =
      (tags ++ [fingerprintColumn]).map some := by
  simp [selection, selectColumns, ha, Column.output?, Function.comp_def]

/-- The tags are given as names. -/
theorem map_aliases_selection (ha : a.passesThrough = false) :
    (c.selection source a tags predicate).aliases.map Prod.fst = tags := by
  simp [SubQuery.aliases, selection, selectColumns, ha, List.filterMap_map, Function.comp_def]

theorem mem_reads_selection_iff (ha : a.passesThrough = false) {condition : Expr} {name : String} :
    name ∈ (c.selection source a tags predicate).reads condition ↔
      (tags ≠ [] ∧ name = labelsColumn) ∨ name = fingerprintColumn ∨
        name ∈ condition.columnNames := by
  have htags : (∃ tag ∈ tags, name = labelsColumn) ↔ tags ≠ [] ∧ name = labelsColumn := by
    constructor
    · exact fun ⟨tag, htag, hname⟩ => ⟨List.ne_nil_of_mem htag, hname⟩
    · rintro ⟨hne, hname⟩
      obtain ⟨tag, htag⟩ := List.exists_mem_of_ne_nil tags hne
      exact ⟨tag, htag, hname⟩
  rw [← htags]
  simp [SubQuery.reads, selection, selectColumns, ha, Expr.columnNames,
    Dialect.columnNames_labelExpr]

/-- No other columns of the table are read. -/
theorem reads_subset (ha : a.passesThrough = false) :
    ∀ name ∈ (c.selection source a tags predicate).reads (c.expr op scope stated implied),
      name ∈ seriesColumns := by
  intro name hname
  rcases (c.mem_reads_selection_iff source predicate tags ha).mp hname with
    ⟨-, rfl⟩ | rfl | hname
  · decide
  · decide
  · rcases c.columnNames_expr_subset op scope stated implied name hname with rfl | rfl <;> decide

/-- The columns of the table that are read are all of them, if there is a tag. -/
theorem seriesColumns_subset_reads (ha : a.passesThrough = false) (htags : tags ≠ []) :
    ∀ name ∈ seriesColumns,
      name ∈ (c.selection source a tags predicate).reads (c.expr op scope stated implied) := by
  intro name hname
  rw [c.mem_reads_selection_iff source predicate tags ha]
  simp only [seriesColumns, List.mem_cons, List.not_mem_nil, or_false] at hname
  rcases hname with rfl | rfl | rfl
  · exact .inl ⟨htags, rfl⟩
  · exact .inr (.inr (c.metricColumn_mem_columnNames_expr op scope stated implied))
  · exact .inr (.inl rfl)

/-- **The tags that do not clash**: no two of them are one name, and none is the name of a column of
the table that is read. -/
theorem unambiguous_selection_iff (d : Dialect) (ha : a.passesThrough = false) :
    (c.selection source a tags predicate).Unambiguous d (c.expr op scope stated implied) ↔
      tags.Pairwise (fun tag tag' => ¬d.SameName tag tag') ∧
        ∀ tag ∈ tags, ∀ name ∈ seriesColumns, ¬d.SameName tag name := by
  have houtputs : (((c.selection source a tags predicate).columns.map Column.output?).Pairwise
      fun o o' => ¬Option.Rel d.SameName o o') ↔
        tags.Pairwise (fun tag tag' => ¬d.SameName tag tag') ∧
          ∀ tag ∈ tags, ¬d.SameName tag fingerprintColumn := by
    rw [c.map_output?_selection source predicate tags ha, List.pairwise_map, List.pairwise_append]
    simp
  rw [SubQuery.unambiguous_iff, houtputs, c.map_aliases_selection source predicate tags ha]
  constructor
  · rintro ⟨⟨hdistinct, -⟩, hapart⟩
    refine ⟨hdistinct, fun tag htag name hname => hapart tag htag name ?_⟩
    exact c.seriesColumns_subset_reads source predicate tags op scope stated implied ha
      (List.ne_nil_of_mem htag) name hname
  · rintro ⟨hdistinct, hfree⟩
    refine ⟨⟨hdistinct, fun tag htag => hfree tag htag _ (by decide)⟩, ?_⟩
    exact fun tag htag read hread => hfree tag htag read
      (c.reads_subset source predicate tags op scope stated implied ha read hread)

end Compiler

/-! ### Sub-queries that are given out -/

namespace Settings

/-- The sub-queries that are given out with some settings: by the service, in answer to a request,
and by the command, if one is wanted or grouping tags are stated. -/
inductive GivesOut (s : Settings) : Aggregation → List String → String → Prop
  | service {r : CompileRequest} {compiled : Http.Compiled}
      (h : (Http.Service.ofSettings s).compileRequest r = .ok compiled) :
      GivesOut s r.aggregation r.tags compiled.query
  | command {c : CompileCommand} {body : ByteArray} {text : String}
      (h : s.compileBody c body = .ok text) (hquery : c.query = true ∨ c.tags ≠ []) :
      GivesOut s c.aggregation c.tags text

variable {s : Settings} {a : Aggregation} {tags : List String} {text : String}

/-- What is given out is a sub-query around the predicate of a filter. -/
theorem GivesOut.exists_predicate (h : s.GivesOut a tags text) :
    ∃ f scope predicate, s.compiler.predicate f scope = .ok predicate ∧
      s.compiler.select s.source predicate a tags = text := by
  cases h with
  | @service r compiled h =>
    rw [Http.Service.compileRequest] at h
    obtain ⟨-, -, h⟩ := bind_eq_ok_iff.mp h
    split at h
    · cases h
    · obtain ⟨predicate, hpredicate, h⟩ := bind_eq_ok_iff.mp h
      cases h
      exact ⟨_, _, predicate, mapError_eq_ok_iff.mp hpredicate, rfl⟩
  | @command c body text h hquery =>
    rw [compileBody] at h
    obtain ⟨f, -, h⟩ := bind_eq_ok_iff.mp h
    dsimp only at h
    rw [if_pos hquery, mapError_eq_ok_iff, Compiler.subQuery_eq_ok_iff] at h
    obtain ⟨predicate, hpredicate, htext⟩ := h
    exact ⟨f, _, predicate, hpredicate, htext⟩

/-- What the service gives out is read as the sub-query around its predicate. -/
theorem readsAs_of_compileRequest {r : CompileRequest} {compiled : Http.Compiled}
    (h : (Http.Service.ofSettings s).compileRequest r = .ok compiled) :
    ReadsAs s.dialect compiled.query
      (s.compiler.selection s.source r.aggregation r.tags compiled.predicate) := by
  rw [Http.Service.compileRequest] at h
  obtain ⟨-, -, h⟩ := bind_eq_ok_iff.mp h
  split at h
  · cases h
  · obtain ⟨predicate, -, h⟩ := bind_eq_ok_iff.mp h
    cases h
    exact s.compiler.readsAs_selection s.source r.aggregation r.tags predicate

/-- **Columns for grouping tags do not clash** exactly if no two tags are the same name to the
backend and none is the name of a column that is read. Whatever is given out is read in one way, and
its condition as well; the tags and the fingerprint come out of it in this order, and no columns of
the table are read but the labels, the name of the metric and the fingerprint. With such tags, and
with no others, the columns that come out have different names, no name is given that is read, and
the condition is about the columns of the table. -/
theorem group_columns_unambiguous_iff (h : s.GivesOut a tags text) (ha : a.passesThrough = false) :
    ∃ q condition, (∀ q', ReadsAs s.dialect text q' ↔ q' = q) ∧
      Sql.read s.dialect q.condition = some condition ∧
      q.columns.map Column.output? = (tags ++ [fingerprintColumn]).map some ∧
      q.aliases.map Prod.fst = tags ∧
      (∀ name ∈ q.reads condition, name ∈ seriesColumns) ∧
      (q.Unambiguous s.dialect condition ↔
        tags.Pairwise (fun tag tag' => ¬s.dialect.SameName tag tag') ∧
          ∀ tag ∈ tags, ∀ name ∈ seriesColumns, ¬s.dialect.SameName tag name) := by
  obtain ⟨f, scope, predicate, hpredicate, rfl⟩ := h.exists_predicate
  obtain ⟨stated, implied, hyields, rfl⟩ := Compiler.predicate_eq_ok_iff.mp hpredicate
  have hread := s.compiler.readsAs_selection s.source a tags
    (s.compiler.assemble f.combinator scope stated implied)
  refine ⟨_, s.compiler.expr f.combinator scope stated implied,
    fun q' => ⟨fun h => h.unique hread, fun h => h ▸ hread⟩,
    s.compiler.read_assemble _ scope hyields.stated.isStated hyields.implied.isStated,
    s.compiler.map_output?_selection s.source _ tags ha,
    s.compiler.map_aliases_selection s.source _ tags ha,
    s.compiler.reads_subset s.source _ tags _ scope stated implied ha,
    s.compiler.unambiguous_selection_iff s.source _ tags _ scope stated implied s.dialect ha⟩

/-- A tag with a dot in it is a name like any other, and so is one that only ends like a column. -/
theorem group_columns_unambiguous_of_tags :
    let s : Settings := ⟨"127.0.0.1", 5390, .duckdb, ⟨"db", "series"⟩, 1, []⟩
    let text := "SELECT coalesce(json_extract_string(labels, '$.\"Host\"'), '') as Host, " ++
      "coalesce(json_extract_string(labels, '$.\"k8s.labels\"'), '') as \"k8s.labels\", " ++
      "fingerprint FROM db.series WHERE metric_name = 'cpu'"
    s.GivesOut .sum ["Host", "k8s.labels"] text ∧ Aggregation.sum.passesThrough = false ∧
      ∃ q condition, ReadsAs s.dialect text q ∧ Sql.read s.dialect q.condition = some condition ∧
        q.Unambiguous s.dialect condition := by
  intro s text
  have hgiven : s.GivesOut .sum ["Host", "k8s.labels"] text :=
    @GivesOut.service s ⟨"cpu", ⟨.all, []⟩, .sum, [], ["Host", "k8s.labels"]⟩
      ⟨"metric_name = 'cpu'", text⟩ (by decide +kernel)
  obtain ⟨q, condition, hunique, hread, -, -, -, hiff⟩ :=
    group_columns_unambiguous_iff hgiven rfl
  exact ⟨hgiven, rfl, q, condition, (hunique q).mpr rfl, hread, hiff.mpr (by decide)⟩

/-- No tag is refused. A tag may be the name of the fingerprint, and then two columns come out under
one name; or that of the metric, and then the condition can be about a label instead; or that of the
labels, which are read under this name. On DuckDB another case of its letters makes no other name
of a tag, so tags that differ can clash with each other, and with a column that is written
otherwise. -/
theorem group_columns_clash :
    let s : Settings := ⟨"127.0.0.1", 5390, .clickhouse, ⟨"db", "series"⟩, 1, []⟩
    let text := fun tag => "SELECT JSONExtractString(labels, '" ++ tag ++ "') as " ++ tag ++
      ", fingerprint FROM db.series WHERE metric_name = 'cpu'"
    let q := fun tag => s.compiler.selection s.source .sum [tag] "metric_name = 'cpu'"
    let s' : Settings := ⟨"127.0.0.1", 5390, .duckdb, ⟨"db", "series"⟩, 1, []⟩
    let column := fun tag =>
      "coalesce(json_extract_string(labels, '$.\"" ++ tag ++ "\"'), '') as " ++ tag ++ ", "
    let text' := fun columns => "SELECT " ++ columns ++
      "fingerprint FROM db.series WHERE metric_name = 'cpu'"
    let q' := fun tags => s'.compiler.selection s'.source .sum tags "metric_name = 'cpu'"
    let condition := Compiler.metricExpr "cpu"
    Sql.read s.dialect "metric_name = 'cpu'" = some condition ∧
    (s.GivesOut .sum ["fingerprint"] (text "fingerprint") ∧
      ReadsAs s.dialect (text "fingerprint") (q "fingerprint") ∧
      (q "fingerprint").columns.map Column.output? = [some "fingerprint", some "fingerprint"]) ∧
    (s.GivesOut .sum ["metric_name"] (text "metric_name") ∧
      ReadsAs s.dialect (text "metric_name") (q "metric_name") ∧
      condition.under s.dialect (q "metric_name").aliases =
        .compare .equal false (.call "JSONExtractString" (.column "labels") (.text "metric_name"))
          (.text "cpu")) ∧
    (s.GivesOut .sum ["labels"] (text "labels") ∧
      ReadsAs s.dialect (text "labels") (q "labels") ∧
      "labels" ∈ (q "labels").aliases.map Prod.fst ∧ "labels" ∈ (q "labels").reads condition) ∧
    (s'.GivesOut .sum ["host", "Host"] (text' (column "host" ++ column "Host")) ∧
      ReadsAs s'.dialect (text' (column "host" ++ column "Host")) (q' ["host", "Host"]) ∧
      (q' ["host", "Host"]).columns.map Column.output? =
        [some "host", some "Host", some "fingerprint"] ∧ s'.dialect.SameName "host" "Host") ∧
    (s'.GivesOut .sum ["FINGERPRINT"] (text' (column "FINGERPRINT")) ∧
      ReadsAs s'.dialect (text' (column "FINGERPRINT")) (q' ["FINGERPRINT"]) ∧
      (q' ["FINGERPRINT"]).columns.map Column.output? = [some "FINGERPRINT", some "fingerprint"] ∧
      s'.dialect.SameName "FINGERPRINT" "fingerprint") := by
  intro s text q s' column text' q' condition
  have hgiven : ∀ tag ∈ seriesColumns, (Http.Service.ofSettings s).compileRequest
      ⟨"cpu", ⟨.all, []⟩, .sum, [], [tag]⟩ = .ok ⟨"metric_name = 'cpu'", text tag⟩ := by
    decide +kernel
  have hhost : (Http.Service.ofSettings s').compileRequest
      ⟨"cpu", ⟨.all, []⟩, .sum, [], ["host", "Host"]⟩ =
        .ok ⟨"metric_name = 'cpu'", text' (column "host" ++ column "Host")⟩ := by
    decide +kernel
  have hupper : (Http.Service.ofSettings s').compileRequest
      ⟨"cpu", ⟨.all, []⟩, .sum, [], ["FINGERPRINT"]⟩ =
        .ok ⟨"metric_name = 'cpu'", text' (column "FINGERPRINT")⟩ := by
    decide +kernel
  have hfingerprint := hgiven "fingerprint" (by decide)
  have hmetric := hgiven "metric_name" (by decide)
  have hlabels := hgiven "labels" (by decide)
  exact ⟨by decide +kernel,
    ⟨.service hfingerprint, (readsAs_of_compileRequest hfingerprint :), by decide +kernel⟩,
    ⟨.service hmetric, (readsAs_of_compileRequest hmetric :), by decide +kernel⟩,
    ⟨.service hlabels, (readsAs_of_compileRequest hlabels :), by decide +kernel, by decide +kernel⟩,
    ⟨.service hhost, (readsAs_of_compileRequest hhost :), by decide +kernel, by decide +kernel⟩,
    ⟨.service hupper, (readsAs_of_compileRequest hupper :), by decide +kernel, by decide +kernel⟩⟩

end Settings

end LabelFilter
