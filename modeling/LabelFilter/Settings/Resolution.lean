import LabelFilter.Filter.Body
import LabelFilter.Filter.Compiler
import LabelFilter.Filter.SubQuery
import LabelFilter.Settings.Layer

/-!
# Settings

What a program runs with: a value for every setting. The layers on top of each other are filled
up with defaults, and only what comes out of that is checked, so a layer may hold what an upper
layer puts right.

## Main definitions

* `Settings` — a value for every setting
* `Layer.settings` — the settings of a layer, unless they are refused
* `Settings.compiler` — the compiler that the settings describe

## Main results

* `Layer.settings_eq_ok_iff` — when settings are accepted
-/

namespace LabelFilter

/-- What a program runs with. -/
structure Settings where
  host : String
  port : UInt16
  dialect : Dialect
  source : SeriesTable
  itemLimit : Nat
  rules : RuleTable
  deriving DecidableEq, Repr

/-- Why settings are refused. -/
inductive SettingsError where
  | zeroItemLimit
  | rule (e : ItemError)
  deriving DecidableEq, Repr

/-- The wording of an error. -/
def SettingsError.message : SettingsError → String
  | .zeroItemLimit => "query.max_filter_items must be greater than zero"
  | .rule e => "Invalid query.implicit_predicates: " ++ e.message

namespace Settings

/-- The address that a server listens to where nothing else is set. -/
def defaultHost : String := "127.0.0.1"

/-- The port that a server listens to where nothing else is set. -/
def defaultPort : UInt16 := 5390

/-- The table of series where nothing else is set. -/
def defaultSource : SeriesTable := ⟨"signoz_metrics", "distributed_time_series_v2"⟩

/-- The compiler that the settings describe. -/
def compiler (s : Settings) : Compiler := ⟨s.dialect, s.rules⟩

end Settings

namespace Layer

open Settings (defaultHost defaultPort defaultSource)

/-- The settings of a layer, filled up with defaults and unchecked. -/
def filled (l : Layer) : Settings where
  host := l.host.getD defaultHost
  port := l.port.getD defaultPort
  dialect := l.dialect.getD .clickhouse
  source := ⟨l.database.getD defaultSource.database, l.table.getD defaultSource.table⟩
  itemLimit := l.itemLimit.getD defaultItemLimit
  rules := l.rules.getD []

/-- The settings of a layer. At least one item must be allowed, and every rule must have an item
that states a condition. -/
def settings (l : Layer) : Except SettingsError Settings :=
  if l.filled.itemLimit = 0 then .error .zeroItemLimit
  else (l.filled.rules.check.mapError .rule).map fun _ => l.filled

theorem settings_eq_ok_iff {l : Layer} {s : Settings} :
    l.settings = .ok s ↔ l.filled = s ∧ s.itemLimit ≠ 0 ∧ s.rules.check = .ok () := by
  unfold settings
  by_cases h : l.filled.itemLimit = 0
  · rw [if_pos h]
    exact ⟨nofun, fun ⟨hs, h', _⟩ => absurd (hs ▸ h) h'⟩
  · rw [if_neg h]
    cases hc : l.filled.rules.check with
    | error e => exact ⟨nofun, fun ⟨hs, _, h'⟩ => by simp [← hs, hc] at h'⟩
    | ok u =>
      refine ⟨fun e => ?_, fun h' => congrArg _ h'.1⟩
      obtain rfl : l.filled = s := Except.ok.inj e
      exact ⟨rfl, h, hc⟩

end Layer

end LabelFilter
