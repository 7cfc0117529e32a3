import LabelFilter.Proofs.Filter.Body
import LabelFilter.Proofs.Json.Written
import LabelFilter.Proofs.Settings.Rules
import LabelFilter.Proofs.Settings.Section
import LabelFilter.Settings.Loading

/-!
# Settings from layers

The settings that a command runs with come from its options, the overlay, the profile and the
defaults. Each setting is decided on its own, by the first of these that sets it, and only what
comes out of that is checked: what a lower layer sets does not matter where an upper one sets the
same.

## Main definitions

* `Settings.ofLayers` — the settings in effect
* `Surroundings.OverlayAt`, `Surroundings.Holds` — which file is the overlay, and what a file states

## Main results

* `Surroundings.holds_iff_read` — a file holds a layer if it is read to that layer
* `Settings.load_layered` — loading settings from files that can be read
-/

namespace LabelFilter

open Json (Doc Document IsWhole Spells octets objectText listText stringText)

/-! ### Layers -/

/-- The settings in effect: each is that of the first layer that sets it, and the default if none
does. Rules stand in files only. -/
def Settings.ofLayers (options : Layer) (files : List Layer) : Settings where
  host := ((options :: files).findSome? Layer.host).getD defaultHost
  port := ((options :: files).findSome? Layer.port).getD defaultPort
  dialect := ((options :: files).findSome? Layer.dialect).getD .clickhouse
  source :=
    ⟨((options :: files).findSome? Layer.database).getD defaultSource.database,
      ((options :: files).findSome? Layer.table).getD defaultSource.table⟩
  itemLimit := ((options :: files).findSome? Layer.itemLimit).getD defaultItemLimit
  rules := (files.findSome? Layer.rules).getD []

namespace Surroundings

variable {s : Surroundings}

/-- Which file is the overlay: the one that an option names, if it is there, and only without such
an option the one in the working directory, if there is one. -/
inductive OverlayAt (s : Surroundings) : Option String → Option String → Prop where
  | named {p : String} (h : s.leads (s.expand p) = true) : OverlayAt s (some p) (some (s.expand p))
  | inDirectory (h : s.leads settingsName = true) : OverlayAt s none (some settingsName)
  | nowhere (h : s.leads settingsName = false) : OverlayAt s none none

/-- What a file states that can be read and decoded. A file that is not there states nothing. -/
inductive Holds (s : Surroundings) : Option String → Layer → Prop where
  | absent : Holds s none .empty
  | present {path : String} {content : ByteArray} {doc : SettingsDocument} {l : Layer}
      (hread : s.readText path = .ok content)
      (hdecode : decodeText (SettingsDocument.ofDoc Doc.maxDepth) content.toList = .ok doc)
      (hstated : l.StatedBy (Document.ofOctets content.toList).root) : Holds s (some path) l

theorem OverlayAt.overlay_eq {named path : Option String} (h : s.OverlayAt named path) :
    s.overlay named = .ok path := by
  cases h with
  | named h => simp [overlay, h]
  | inDirectory h => simp [overlay, h]
  | nowhere h => simp [overlay, h]

/-- **A file holds a layer if it is read to that layer**, so every file that can be read and decoded
holds one. -/
theorem holds_iff_read {path : String} {l : Layer} :
    s.Holds (some path) l ↔ ∃ doc, SettingsDocument.read s path = .ok doc ∧ doc.layer = l := by
  constructor
  · rintro (_ | @⟨_, _, doc, _, hread, hdecode, hstated⟩)
    have hroot := (decodeText_eq_ok_iff.mp hdecode).1
    refine ⟨doc, ?_, (SettingsDocument.statedBy_layer hroot).unique hstated⟩
    rw [SettingsDocument.read, hread]
    exact congrArg (Except.mapError _) hdecode
  · rintro ⟨doc, hread, rfl⟩
    obtain ⟨content, hcontent, hdoc⟩ := bind_eq_ok_iff.mp hread
    have hdecode := mapError_eq_ok_iff.mp hdoc
    exact .present (mapError_eq_ok_iff.mp hcontent) hdecode
      (SettingsDocument.statedBy_layer (decodeText_eq_ok_iff.mp hdecode).1)

/-- What a file holds whose text spells a tree. -/
theorem holds_of_spells {path text : String} {d : Doc} {l : Layer}
    (hfile : s.read path = .ok text.toUTF8) (htext : Spells (octets text) d)
    (hl : (SettingsDocument.ofDoc Doc.maxDepth d).map SettingsDocument.layer = .ok l) :
    s.Holds (some path) l := by
  have hread : s.readText path = .ok text.toUTF8 := by
    rw [readText, hfile]
    exact if_pos (ByteArray.validateUTF8_eq_true_iff.mpr text.isValidUTF8)
  have hdecode : decodeText (SettingsDocument.ofDoc Doc.maxDepth) text.toUTF8.toList =
      SettingsDocument.ofDoc Doc.maxDepth d := by
    rw [Json.toList_toUTF8, decodeText_of_spells htext]
  cases hdoc : SettingsDocument.ofDoc Doc.maxDepth d with
  | error fault =>
    rw [hdoc] at hl
    cases hl
  | ok doc =>
    rw [hdoc] at hl hdecode
    cases hl
    refine holds_iff_read.mpr ⟨doc, ?_, rfl⟩
    rw [SettingsDocument.read, hread]
    exact congrArg (Except.mapError _) hdecode

end Surroundings

namespace SettingsDocument

open Surroundings (holds_iff_read)

variable {s : Surroundings}

theorem readAll_cons {path : String} {doc : SettingsDocument} (h : read s path = .ok doc)
    (paths : List String) :
    (readAll s (path :: paths)).2 = (readAll s paths).2.map (doc.layer :: ·) := by
  rw [readAll, h]

/-- Files that hold layers are read one after the other, and the later ones lie on top. -/
theorem readAll_of_holds {below above : Option String} {lower upper : Layer}
    (hlower : s.Holds below lower) (hupper : s.Holds above upper) :
    ∃ layers, (readAll s (below.toList ++ above.toList)).2 = .ok layers ∧
      layers.foldl (fun lower upper => upper.onTop lower) Layer.empty = upper.onTop lower := by
  cases below with
  | none =>
    cases hlower
    cases above with
    | none =>
      cases hupper
      exact ⟨[], rfl, rfl⟩
    | some path =>
      obtain ⟨doc, hread, rfl⟩ := holds_iff_read.mp hupper
      exact ⟨[doc.layer], readAll_cons hread [], rfl⟩
  | some path =>
    obtain ⟨doc, hread, rfl⟩ := holds_iff_read.mp hlower
    cases above with
    | none =>
      cases hupper
      refine ⟨[doc.layer], readAll_cons hread [], ?_⟩
      rw [Layer.empty_onTop]
      exact Layer.onTop_empty _
    | some path' =>
      obtain ⟨doc', hread', rfl⟩ := holds_iff_read.mp hupper
      refine ⟨[doc.layer, doc'.layer], ?_, ?_⟩
      · exact (readAll_cons hread _).trans (congrArg _ (readAll_cons hread' []))
      · show doc'.layer.onTop (doc.layer.onTop Layer.empty) = _
        rw [Layer.onTop_empty]

end SettingsDocument

/-! ### Settings in effect -/

theorem findSome?_cons_eq_or {α β : Type} (f : α → Option β) (a : α) (as : List α) :
    (a :: as).findSome? f = (f a).or (as.findSome? f) := by
  rw [List.findSome?_cons]
  cases f a <;> rfl

/-- Layers on top of each other, filled up with the defaults, are the settings in effect. -/
theorem Layer.filled_onTop (options upper lower : Layer) (hoptions : options.rules = none) :
    (options.onTop (upper.onTop lower)).filled = Settings.ofLayers options [upper, lower] := by
  simp [Settings.ofLayers, Layer.filled, Layer.onTop, findSome?_cons_eq_or, hoptions]

namespace Settings

/-- Without the file that an option names, no settings are loaded. -/
theorem load_of_absent {s : Surroundings} {named : String}
    (h : s.leads (s.expand named) = false) (options : Layer) :
    (load s options (some named)).2 = .error (.absent (s.expand named)) := by
  simp [load, Surroundings.overlay, h]

/-- Files that can be read leave the check of the settings in effect. -/
theorem load_of_holds {s : Surroundings} {named path : Option String} {profile overlay : Layer}
    (hpath : s.OverlayAt named path) (hprofile : s.Holds s.profile profile)
    (hoverlay : s.Holds path overlay) (options : Layer) :
    (load s options named).2 =
      (options.onTop (overlay.onTop profile)).settings.mapError .refused := by
  obtain ⟨layers, hread, hlayers⟩ := SettingsDocument.readAll_of_holds hprofile hoverlay
  rw [load, hpath.overlay_eq]
  dsimp only
  rw [hread, ← hlayers]
  rfl

/-- **Settings are layered field by field.** If the file that an option names is not there, that is
the error. Otherwise the options, what the overlay states and what the profile states decide each
setting in this order, and the settings in effect are refused if they allow no item or have a rule
without a condition, and for no other reason. -/
theorem load_layered (s : Surroundings) (options : Layer) (named : Option String)
    (hoptions : options.rules = none) :
    (∀ p, named = some p → s.leads (s.expand p) = false →
      (load s options named).2 = .error (.absent (s.expand p))) ∧
    ∀ path profile overlay, s.OverlayAt named path → s.Holds s.profile profile →
      s.Holds path overlay →
      let effective := ofLayers options [overlay, profile]
      (∀ settings, (load s options named).2 = .ok settings ↔
        effective = settings ∧ effective.itemLimit ≠ 0 ∧
          ∀ rule ∈ effective.rules, rule.item.IsValid) ∧
      ∀ e, (load s options named).2 = .error e ↔
        effective.itemLimit = 0 ∧ e = .refused .zeroItemLimit ∨
          effective.itemLimit ≠ 0 ∧ ∃ fault,
            FirstFault (effective.rules.map Rule.item) fault ∧ e = .refused (.rule fault) := by
  refine ⟨?_, ?_⟩
  · rintro p rfl h
    exact load_of_absent h options
  · intro path profile overlay hpath hprofile hoverlay effective
    have hfilled : (options.onTop (overlay.onTop profile)).filled = effective :=
      Layer.filled_onTop options overlay profile hoptions
    rw [load_of_holds hpath hprofile hoverlay]
    refine ⟨fun settings => ?_, fun e => ?_⟩
    · rw [mapError_eq_ok_iff, Layer.settings_eq_ok_iff_isValid, hfilled]
      refine and_congr_right fun heq => ?_
      rw [heq]
    · simp only [mapError_eq_error_iff, Layer.settings_eq_error_iff, hfilled]
      constructor
      · rintro ⟨_, ⟨hlimit, rfl⟩ | ⟨hlimit, fault, hfault, rfl⟩, rfl⟩
        · exact .inl ⟨hlimit, rfl⟩
        · exact .inr ⟨hlimit, fault, hfault, rfl⟩
      · rintro (⟨hlimit, rfl⟩ | ⟨hlimit, fault, hfault, rfl⟩)
        · exact ⟨_, .inl ⟨hlimit, rfl⟩, rfl⟩
        · exact ⟨_, .inr ⟨hlimit, fault, hfault, rfl⟩, rfl⟩

/-- A profile that allows no item and has rules that are not in order, below an overlay that sets
both otherwise. Nothing above the profile sets the port and the dialect, nothing at all the
database. -/
theorem load_over_refused_rules :
    let rule := objectText [("key", stringText "le"), ("op", stringText "eq"),
      ("aggregations", listText [stringText "SUM"])]
    let profile := objectText [
      ("server", objectText [("host", stringText "::"), ("port", "8080")]),
      ("query", objectText [("dialect", stringText "duckdb"), ("table", stringText "lower"),
        ("max_filter_items", "0"), ("implicit_predicates", listText [rule])])]
    let overlay := objectText [("query", objectText [("table", stringText "upper"),
      ("max_filter_items", "20"), ("implicit_predicates", listText [])])]
    let s : Surroundings := ⟨⟨[(["home", ".labelsql", "labelsql.json"], .file profile.toUTF8),
      (["work", "labelsql.json"], .file overlay.toUTF8)]⟩, some "/home", "/work"⟩
    let options : Layer := { host := some "localhost" }
    (load s options (some "other.json")).2 = .error (.absent "/work/other.json") ∧
      (load s options none).2 =
        .ok ⟨"localhost", 8080, .duckdb, ⟨"signoz_metrics", "upper"⟩, 20, []⟩ := by
  intro rule profile overlay s options
  have hport : IsWhole (octets "8080") [8, 0, 8, 0] :=
    .digits ⟨by decide, by decide +kernel⟩ (by decide)
  have hlimit : IsWhole (octets "20") [2, 0] :=
    .digits ⟨by decide, by decide +kernel⟩ (by decide)
  let lower : Layer :=
    { host := some "::", port := some 8080, dialect := some .duckdb, table := some "lower",
      itemLimit := some 0, rules := some [⟨[.sum], ⟨"le", none, "eq"⟩⟩] }
  let upper : Layer := { table := some "upper", itemLimit := some 20, rules := some [] }
  have hprofile : s.Holds s.profile lower := by
    have hrule : Spells (octets rule) (.object [(.written "key", .string (.written "le")),
        (.written "op", .string (.written "eq")),
        (.written "aggregations", .list [.string (.written "SUM")] none)] none) :=
      .objectText <| .cons ⟨rfl, Json.spells_stringText "le"⟩ <|
        .cons ⟨rfl, Json.spells_stringText "eq"⟩ <|
        .cons ⟨rfl, .listText (.cons (Json.spells_stringText "SUM") .nil)⟩ .nil
    have hserver : Spells (octets (objectText [("host", stringText "::"), ("port", "8080")]))
        (.object [(.written "host", .string (.written "::")),
          (.written "port", .number ⟨false, [8, 0, 8, 0], [], none⟩)] none) :=
      .objectText <| .cons ⟨rfl, Json.spells_stringText "::"⟩ <|
        .cons ⟨rfl, hport.isNumber.spells⟩ .nil
    have hspells : Spells (octets profile) (.object
        [(.written "server", _),
          (.written "query", .object [(.written "dialect", .string (.written "duckdb")),
            (.written "table", .string (.written "lower")),
            (.written "max_filter_items", .number ⟨false, [0], [], none⟩),
            (.written "implicit_predicates", .list [_] none)] none)] none) :=
      .objectText <| .cons ⟨rfl, hserver⟩ <|
        .cons ⟨rfl, .objectText <| .cons ⟨rfl, Json.spells_stringText "duckdb"⟩ <|
          .cons ⟨rfl, Json.spells_stringText "lower"⟩ <|
          .cons ⟨rfl, IsWhole.zero.isNumber.spells⟩ <|
          .cons ⟨rfl, .listText (.cons hrule .nil)⟩ .nil⟩ .nil
    have hpath : s.profile = some "/home/.labelsql/labelsql.json" := by decide +kernel
    rw [hpath]
    exact Surroundings.holds_of_spells (by decide +kernel) hspells (by decide +kernel)
  have hoverlay : s.Holds (some "labelsql.json") upper := by
    have hspells : Spells (octets overlay) (.object [(.written "query", .object
        [(.written "table", .string (.written "upper")),
          (.written "max_filter_items", .number ⟨false, [2, 0], [], none⟩),
          (.written "implicit_predicates", .list [] none)] none)] none) :=
      .objectText <| .cons ⟨rfl, .objectText <| .cons ⟨rfl, Json.spells_stringText "upper"⟩ <|
        .cons ⟨rfl, hlimit.isNumber.spells⟩ <| .cons ⟨rfl, .listText .nil⟩ .nil⟩ .nil
    exact Surroundings.holds_of_spells (by decide +kernel) hspells (by decide +kernel)
  have hoverlayAt : s.OverlayAt none (some "labelsql.json") := .inDirectory (by decide +kernel)
  have hexpand : s.expand "other.json" = "/work/other.json" := by decide +kernel
  refine ⟨hexpand ▸ (load_layered s options _ rfl).1 _ rfl (by decide +kernel), ?_⟩
  have hload := (load_layered s options none rfl).2 _ _ _ hoverlayAt hprofile hoverlay
  exact (hload.1 _).mpr ⟨rfl, by decide, nofun⟩

end Settings

end LabelFilter
