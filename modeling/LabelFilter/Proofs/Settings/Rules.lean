import LabelFilter.Proofs.Filter.Faults
import LabelFilter.Settings.Resolution

/-!
# Rules that have been accepted

Settings are accepted only if every rule in them states a condition, for whichever aggregations it
is meant. So no filter is ever refused because of the settings: a compiler with the accepted rules
fails where a compiler without rules fails, and tells the same error.

## Main results

* `Layer.settings_eq_ok_iff_isValid`, `Layer.settings_eq_error_iff` — when settings are accepted,
  and why they are refused
* `Settings.predicate_eq_error_iff_firstFault` — why a filter is refused under accepted settings
* `Layer.rules_never_fail` — rules that have been accepted never make a filter fail
-/

namespace LabelFilter

namespace Layer

variable {l : Layer}

theorem settings_eq_ok_iff_isValid {s : Settings} : l.settings = .ok s ↔
    l.filled = s ∧ s.itemLimit ≠ 0 ∧ ∀ rule ∈ s.rules, rule.item.IsValid := by
  rw [settings_eq_ok_iff, RuleTable.check_eq_ok_iff]

/-- The number of items is checked before the rules. -/
theorem settings_eq_error_iff {refusal : SettingsError} : l.settings = .error refusal ↔
    l.filled.itemLimit = 0 ∧ refusal = .zeroItemLimit ∨
      l.filled.itemLimit ≠ 0 ∧ ∃ e, FirstFault (l.filled.rules.map Rule.item) e ∧
        refusal = .rule e := by
  simp only [← RuleTable.check_eq_error_iff]
  unfold settings
  split
  · next hlimit => simp [hlimit, eq_comm]
  · next hlimit =>
    cases l.filled.rules.check <;> simp [hlimit, Except.map, Except.mapError, eq_comm]

end Layer

/-- Under accepted settings a filter is refused because of its own items only. -/
theorem Settings.predicate_eq_error_iff_firstFault {l : Layer} {s : Settings}
    (hs : l.settings = .ok s) {f : Filter} {scope : Scope} {e : ItemError} :
    s.compiler.predicate f scope = .error e ↔ FirstFault f.items e := by
  obtain ⟨-, -, hrules⟩ := Layer.settings_eq_ok_iff_isValid.mp hs
  exact Compiler.predicate_eq_error_iff_of_implied
    (RuleTable.isValid_implied hrules scope.aggregation)

/-- **Rules that have been accepted never make a filter fail**, whatever the aggregation; and rules
are only refused because of an item among them, the first one of which decides the error. -/
theorem Layer.rules_never_fail (options files : Layer) :
    (∀ s, (options.onTop files).settings = .ok s → ∀ f scope e,
      s.compiler.predicate f scope = .error e ↔
        ({ dialect := s.dialect, rules := [] } : Compiler).predicate f scope = .error e) ∧
    ((options.onTop files).filled.itemLimit ≠ 0 →
      ∀ refusal, (options.onTop files).settings = .error refusal ↔
        ∃ e, FirstFault ((options.onTop files).filled.rules.map Rule.item) e ∧
          refusal = .rule e) := by
  refine ⟨fun s hs f scope e => ?_, fun hlimit refusal => ?_⟩
  · have hempty : ({ dialect := s.dialect, rules := [] } : Compiler).predicate f scope = .error e ↔
        FirstFault f.items e := Compiler.predicate_eq_error_iff_of_implied nofun
    rw [Settings.predicate_eq_error_iff_firstFault hs, hempty]
  · simp [settings_eq_error_iff, hlimit]

/-- A rule for one aggregation only, once in order and once not. -/
theorem Layer.accepted_and_refused_rule :
    let file (op : String) : Layer := { rules := some [⟨[.sum], ⟨"le", none, op⟩⟩] }
    let filter : Filter := ⟨.any, [⟨"env", none, "exists"⟩, ⟨"pod", none, "PO"⟩]⟩
    (∃ s, (Layer.empty.onTop (file "exists")).settings = .ok s ∧
      s.compiler.predicate filter ⟨"cpu", ["pod"], .sum⟩ = .error (.unknownOperator "PO")) ∧
    (Layer.empty.onTop (file "eq")).settings =
      .error (.rule (.wrongOperand "le" .equal .scalar .absent)) := by
  intro file filter
  refine ⟨⟨_, rfl, ?_⟩, ?_⟩
  · rw [(rules_never_fail .empty (file "exists")).1 _ rfl]
    rfl
  · rw [(rules_never_fail .empty (file "eq")).2 (by decide)]
    exact ⟨_, ⟨[], _, [], rfl, nofun, rfl⟩, rfl⟩

end LabelFilter
