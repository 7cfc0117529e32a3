import LabelFilter.Proofs.Filter.RuleDocument
import LabelFilter.Settings.Reading

/-!
# What a settings file states

A settings file states a setting if it has the section of the setting, the section has the field of
the setting, and neither is `null`. A section is an object, or a list of all its fields in their
order. Whatever else stands in the file has no say in it: each setting is read from its own place.

What is stated is what the value in that place denotes: a text, a number, a word for a dialect or a
list of rules. The decoders of the settings have no part in saying so; they are exact for it.

## Main definitions

* `SettingsSection` — the sections and their fields
* `Doc.setting?` — the value of a setting in a settings file
* `Term.IsPort`, `Term.IsDialect`, `Term.IsItemLimit`, `Term.IsRuleTable` — values of settings
* `Doc.Stated` — what the value in a place of a file states
* `Layer.StatedBy` — settings that are those of a file

## Main results

* `Layer.describedBy_portOfDoc`, `Layer.describedBy_dialectOfDoc`, `Layer.describedBy_limitOfDoc`,
  `RuleTable.describedBy_ofDoc` — the values that the decoders of settings accept
* `SettingsDocument.statedBy_layer` — the settings that are read from a file are those that it
  states
* `Layer.StatedBy.unique` — a file states one layer of settings
-/

namespace LabelFilter

open Json (Doc Decoder Term Once Slot Lexeme Break)

/-- The sections of a settings file. -/
inductive SettingsSection where
  | server
  | query
  deriving DecidableEq, Repr

namespace SettingsSection

/-- The name of a section. -/
def name : SettingsSection → String
  | .server => "server"
  | .query => "query"

/-- The fields of a section, in the order in which a list states them. -/
def fields : SettingsSection → List String
  | .server => ["host", "port"]
  | .query => ["dialect", "database", "table", "max_filter_items", "implicit_predicates"]

end SettingsSection

namespace Json.Doc

/-- Whether a value is `null`. -/
def isNull : Doc → Bool
  | .word .null => true
  | _ => false

/-- The value of a member of an object. A value that is `null` counts as left out. -/
def member? (name : String) (ms : List (Lexeme × Doc)) : Option Doc :=
  (named name ms).head?.filter fun d => !d.isNull

/-- The value of a field in a section. -/
def field? (sec : SettingsSection) (name : String) : Doc → Option Doc
  | .object ms _ => member? name ms
  | .list items _ => items[sec.fields.idxOf name]?.filter fun d => !d.isNull
  | _ => none

/-- The value of a setting in a settings file. -/
def setting? (sec : SettingsSection) (name : String) : Doc → Option Doc
  | .object ms _ => (member? sec.name ms).bind (field? sec name)
  | _ => none

end Json.Doc

/-! ### Values of settings -/

namespace Json.Term

/-- A port: a number of 16 bits. -/
def IsPort (t : Term) (port : UInt16) : Prop := t.IsNaturalBelow UInt16.size port.toNat

/-- A dialect, by its word. -/
def IsDialect : Term → Dialect → Prop :=
  IsWordOf [("clickhouse", .clickhouse), ("duckdb", .duckdb)]

/-- A number of items: one of 64 bits. -/
def IsItemLimit : Term → Nat → Prop := IsNaturalBelow UInt64.size

/-- A list of rules. The file, the section, the list and a rule count as four. -/
def IsRuleTable : Term → RuleTable → Prop := IsListOf (IsRule (Doc.maxDepth - 4))

end Json.Term

namespace Layer

theorem describedBy_portOfDoc : Decoder.DescribedBy portOfDoc Term.IsPort := by
  intro d port
  have hnatural := Json.describedBy_asNatural (by decide : UInt16.size ≤ _) "u16" d
  have hmap : portOfDoc d = .ok port ↔
      ∃ k, Doc.asNatural UInt16.size "u16" d = .ok k ∧ UInt16.ofNat k = port := by
    rw [portOfDoc]
    cases Doc.asNatural UInt16.size "u16" d <;> simp [Except.map]
  rw [hmap]
  constructor
  · rintro ⟨k, hk, rfl⟩
    obtain ⟨t, ht, hP⟩ := (hnatural k).mp hk
    refine ⟨t, ht, ?_⟩
    rwa [Term.IsPort, UInt16.toNat_ofNat_of_lt' hP.lt]
  · rintro ⟨t, ht, hP⟩
    exact ⟨port.toNat, (hnatural _).mpr ⟨t, ht, hP⟩, UInt16.ofNat_toNat⟩

theorem describedBy_dialectOfDoc : Decoder.DescribedBy dialectOfDoc Term.IsDialect :=
  Json.describedBy_asWord _

theorem describedBy_limitOfDoc : Decoder.DescribedBy limitOfDoc Term.IsItemLimit :=
  Json.describedBy_asNatural (Nat.le_refl _) "usize"

end Layer

theorem RuleTable.describedBy_ofDoc :
    Decoder.DescribedBy (RuleTable.ofDoc (Doc.maxDepth - 2)) Term.IsRuleTable :=
  (Rule.exact_ofDoc 122).asList.describedBy (Rule.thorough_ofDoc 123).asList

/-! ### Settings of a file -/

/-- What the value in a place of a file states: what it denotes. Where there is no value, nothing is
stated. -/
def Json.Doc.Stated {α : Type} (P : Term → α → Prop) : Option Doc → Option α → Prop :=
  Option.Rel fun d a => ∃ t, d.Denotes t ∧ P t a

/-- The settings of a file. -/
structure Layer.StatedBy (l : Layer) (d : Doc) : Prop where
  host : Doc.Stated Term.IsTextOf (d.setting? .server "host") l.host
  port : Doc.Stated Term.IsPort (d.setting? .server "port") l.port
  dialect : Doc.Stated Term.IsDialect (d.setting? .query "dialect") l.dialect
  database : Doc.Stated Term.IsTextOf (d.setting? .query "database") l.database
  table : Doc.Stated Term.IsTextOf (d.setting? .query "table") l.table
  itemLimit : Doc.Stated Term.IsItemLimit (d.setting? .query "max_filter_items") l.itemLimit
  rules : Doc.Stated Term.IsRuleTable (d.setting? .query "implicit_predicates") l.rules

namespace Json.Doc

variable {α : Type} {decode : Decoder α} {P : Term → α → Prop} {place : Option Doc}
  {v v' : Option α}

/-- What is stated is what a decoder makes of the value that is described by the relation. -/
theorem stated_iff (h : decode.DescribedBy P) :
    Stated P place v ↔ place.map decode = v.map .ok := by
  rw [Stated]
  cases place <;> cases v <;> simp [h _ _]

theorem Stated.unique (h : decode.DescribedBy P) (hv : Stated P place v)
    (hv' : Stated P place v') : v = v' := by
  rw [stated_iff h] at hv hv'
  exact Option.map_injective (fun _ _ => Except.ok.inj) (hv.symm.trans hv')

end Json.Doc

/-- A file states one layer of settings. -/
theorem Layer.StatedBy.unique {l l' : Layer} {d : Doc} (h : l.StatedBy d) (h' : l'.StatedBy d) :
    l = l' := by
  cases l
  cases l'
  congr
  · exact h.host.unique Json.describedBy_asString h'.host
  · exact h.port.unique describedBy_portOfDoc h'.port
  · exact h.dialect.unique describedBy_dialectOfDoc h'.dialect
  · exact h.database.unique Json.describedBy_asString h'.database
  · exact h.table.unique Json.describedBy_asString h'.table
  · exact h.itemLimit.unique describedBy_limitOfDoc h'.itemLimit
  · exact h.rules.unique RuleTable.describedBy_ofDoc h'.rules

/-! ### Values that may be `null` -/

section

variable {α : Type} {decode : Decoder α}

theorem Json.Doc.asOptional_eq_ok {d : Doc} {v : Option α} (h : d.asOptional decode = .ok v) :
    (Option.some d |>.filter fun d => !d.isNull).map decode = v.map .ok := by
  unfold Doc.asOptional at h
  split at h
  · cases h
    rfl
  · cases h
  · next hnull _ =>
    have hd : d.isNull = false := by
      cases d with
      | word w => cases w <;> first | rfl | exact absurd rfl hnull
      | _ => rfl
    cases ha : decode d with
    | error e =>
      rw [ha] at h
      cases h
    | ok a =>
      rw [ha] at h
      cases h
      simp [hd, ha]

/-- A member that may be `null`, and must not be repeated. -/
theorem Json.Once.map_member? {name : String} {ms : List (Lexeme × Doc)} {v : Option (Option α)}
    (h : Once (Decoder.Reads (Doc.asOptional decode)) (Doc.named name ms) v) :
    (Doc.member? name ms).map decode = v.join.map .ok := by
  rw [Doc.member?]
  generalize Doc.named name ms = ds at h
  cases h with
  | absent => rfl
  | stated h => exact Doc.asOptional_eq_ok h

variable {P : Term → α → Prop}

theorem Json.Doc.stated_of_asOptional (hP : decode.DescribedBy P) {d : Doc} {v : Option α}
    (h : d.asOptional decode = .ok v) :
    Stated P (Option.some d |>.filter fun d => !d.isNull) v :=
  (stated_iff hP).mpr (asOptional_eq_ok h)

theorem Json.Once.stated_member? (hP : decode.DescribedBy P) {name : String}
    {ms : List (Lexeme × Doc)} {v : Option (Option α)}
    (h : Once (Decoder.Reads (Doc.asOptional decode)) (Doc.named name ms) v) :
    Doc.Stated P (Doc.member? name ms) v.join :=
  (Doc.stated_iff hP).mpr h.map_member?

theorem Layer.nextField_eq_ok {n : Nat} {type : String} {items rest : List Doc}
    {stop : Option Break} {v : Option α}
    (h : nextField n type decode items stop = .ok (v, rest)) :
    ∃ d, items = d :: rest ∧ d.asOptional decode = .ok v := by
  obtain ⟨next, hnext, h⟩ := bind_eq_ok_iff.mp h
  cases items with
  | nil =>
    obtain ⟨-, -, hnext⟩ := bind_eq_ok_iff.mp hnext
    cases hnext
    cases h
  | cons d ds =>
    cases hnext
    obtain ⟨v', hv, h⟩ := bind_eq_ok_iff.mp h
    cases h
    exact ⟨d, rfl, hv⟩

end

/-! ### Sections -/

namespace Layer

/-- The settings of a server section. The section may be left out. -/
structure IsServer (l : Layer) (d : Option Doc) : Prop where
  host : Doc.Stated Term.IsTextOf (d.bind (Doc.field? .server "host")) l.host
  port : Doc.Stated Term.IsPort (d.bind (Doc.field? .server "port")) l.port
  no_query : l = { host := l.host, port := l.port }

/-- The settings of a query section. The section may be left out. -/
structure IsQuery (l : Layer) (d : Option Doc) : Prop where
  dialect : Doc.Stated Term.IsDialect (d.bind (Doc.field? .query "dialect")) l.dialect
  database : Doc.Stated Term.IsTextOf (d.bind (Doc.field? .query "database")) l.database
  table : Doc.Stated Term.IsTextOf (d.bind (Doc.field? .query "table")) l.table
  itemLimit : Doc.Stated Term.IsItemLimit (d.bind (Doc.field? .query "max_filter_items"))
    l.itemLimit
  rules : Doc.Stated Term.IsRuleTable (d.bind (Doc.field? .query "implicit_predicates")) l.rules
  no_host : l.host = none
  no_port : l.port = none

/-- A section that is left out sets nothing. -/
theorem getD_of_section {P : Layer → Option Doc → Prop} {decode : Decoder Layer}
    (hnone : P empty none) (hsome : ∀ {d l}, decode d = .ok l → P l (some d)) {d : Option Doc}
    {l : Option Layer} (h : d.map decode = l.map .ok) : P (l.getD empty) d := by
  cases d with
  | none =>
    cases l with
    | none => exact hnone
    | some l => cases h
  | some d =>
    cases l with
    | none => cases h
    | some l => exact hsome (Option.some.inj h)

namespace ServerMembers

/-- The field for the host. -/
def hostSlot : Slot ServerMembers (Option String) := ⟨"host", host, Doc.asOptional Doc.asString⟩

/-- The field for the port. -/
def portSlot : Slot ServerMembers (Option UInt16) := ⟨"port", port, Doc.asOptional portOfDoc⟩

/-- A step leaves all fields alone but the one that has the name of the member. -/
theorem read_frame {m m' : ServerMembers} {name : String} {d : Doc}
    (h : read m name d = .ok m') :
    (name ≠ "host" → m'.host = m.host) ∧ (name ≠ "port" → m'.port = m.port) := by
  unfold read at h
  split at h
  all_goals
    obtain ⟨_, -, h⟩ := bind_eq_ok_iff.mp h
    cases h
    simp

theorem filledBy_host : hostSlot.FilledBy read where
  own h := Slot.own_of_once h fun _ => rfl
  other hname h := (read_frame h).1 hname

theorem filledBy_port : portSlot.FilledBy read where
  own h := Slot.own_of_once h fun _ => rfl
  other hname h := (read_frame h).2 hname

end ServerMembers

/-- The server section of a settings file. -/
theorem isServer_of_ofServerDoc {d : Doc} {l : Layer} (h : ofServerDoc d = .ok l) :
    l.IsServer (some d) := by
  unfold ofServerDoc at h
  cases d with
  | list items stop =>
    obtain ⟨⟨host, items₁⟩, h₀, h⟩ := bind_eq_ok_iff.mp h
    obtain ⟨⟨port, items₂⟩, h₁, h⟩ := bind_eq_ok_iff.mp h
    obtain ⟨-, -, h⟩ := bind_eq_ok_iff.mp h
    cases h
    obtain ⟨d₀, rfl, hhost⟩ := nextField_eq_ok h₀
    obtain ⟨d₁, rfl, hport⟩ := nextField_eq_ok h₁
    exact ⟨Doc.stated_of_asOptional Json.describedBy_asString hhost,
      Doc.stated_of_asOptional describedBy_portOfDoc hport, rfl⟩
  | object ms stop =>
    obtain ⟨m, hm, h⟩ := bind_eq_ok_iff.mp h
    cases h
    exact ⟨(ServerMembers.filledBy_host.members rfl hm).stated_member? Json.describedBy_asString,
      (ServerMembers.filledBy_port.members rfl hm).stated_member? describedBy_portOfDoc, rfl⟩
  | _ => exact absurd h Doc.unexpected_ne_ok

namespace QueryMembers

variable {room : Nat}

/-- The field for the dialect. -/
def dialectSlot : Slot QueryMembers (Option Dialect) :=
  ⟨"dialect", dialect, Doc.asOptional dialectOfDoc⟩

/-- The field for the database. -/
def databaseSlot : Slot QueryMembers (Option String) :=
  ⟨"database", database, Doc.asOptional Doc.asString⟩

/-- The field for the table of series. -/
def tableSlot : Slot QueryMembers (Option String) :=
  ⟨"table", table, Doc.asOptional Doc.asString⟩

/-- The field for the number of items. -/
def itemLimitSlot : Slot QueryMembers (Option Nat) :=
  ⟨"max_filter_items", itemLimit, Doc.asOptional limitOfDoc⟩

/-- The field for the rules. -/
def rulesSlot (room : Nat) : Slot QueryMembers (Option RuleTable) :=
  ⟨"implicit_predicates", rules, Doc.asOptional (RuleTable.ofDoc room)⟩

/-- A step leaves all fields alone but the one that has the name of the member. -/
theorem read_frame {m m' : QueryMembers} {name : String} {d : Doc}
    (h : read room m name d = .ok m') :
    (name ≠ "dialect" → m'.dialect = m.dialect) ∧
      (name ≠ "database" → m'.database = m.database) ∧ (name ≠ "table" → m'.table = m.table) ∧
      (name ≠ "max_filter_items" → m'.itemLimit = m.itemLimit) ∧
      (name ≠ "implicit_predicates" → m'.rules = m.rules) := by
  unfold read at h
  split at h
  all_goals
    obtain ⟨_, -, h⟩ := bind_eq_ok_iff.mp h
    cases h
    simp

theorem filledBy_dialect : dialectSlot.FilledBy (read room) where
  own h := Slot.own_of_once h fun _ => rfl
  other hname h := (read_frame h).1 hname

theorem filledBy_database : databaseSlot.FilledBy (read room) where
  own h := Slot.own_of_once h fun _ => rfl
  other hname h := (read_frame h).2.1 hname

theorem filledBy_table : tableSlot.FilledBy (read room) where
  own h := Slot.own_of_once h fun _ => rfl
  other hname h := (read_frame h).2.2.1 hname

theorem filledBy_itemLimit : itemLimitSlot.FilledBy (read room) where
  own h := Slot.own_of_once h fun _ => rfl
  other hname h := (read_frame h).2.2.2.1 hname

theorem filledBy_rules : (rulesSlot room).FilledBy (read room) where
  own h := Slot.own_of_once h fun _ => rfl
  other hname h := (read_frame h).2.2.2.2 hname

end QueryMembers

/-- The query section of a settings file. -/
theorem isQuery_of_ofQueryDoc {d : Doc} {l : Layer} (h : ofQueryDoc (Doc.maxDepth - 1) d = .ok l) :
    l.IsQuery (some d) := by
  unfold ofQueryDoc at h
  cases d with
  | list items stop =>
    obtain ⟨⟨dialect, items₁⟩, h₀, h⟩ := bind_eq_ok_iff.mp h
    obtain ⟨⟨database, items₂⟩, h₁, h⟩ := bind_eq_ok_iff.mp h
    obtain ⟨⟨table, items₃⟩, h₂, h⟩ := bind_eq_ok_iff.mp h
    obtain ⟨⟨itemLimit, items₄⟩, h₃, h⟩ := bind_eq_ok_iff.mp h
    obtain ⟨⟨rules, items₅⟩, h₄, h⟩ := bind_eq_ok_iff.mp h
    obtain ⟨-, -, h⟩ := bind_eq_ok_iff.mp h
    cases h
    obtain ⟨d₀, rfl, hdialect⟩ := nextField_eq_ok h₀
    obtain ⟨d₁, rfl, hdatabase⟩ := nextField_eq_ok h₁
    obtain ⟨d₂, rfl, htable⟩ := nextField_eq_ok h₂
    obtain ⟨d₃, rfl, hitemLimit⟩ := nextField_eq_ok h₃
    obtain ⟨d₄, rfl, hrules⟩ := nextField_eq_ok h₄
    exact ⟨Doc.stated_of_asOptional describedBy_dialectOfDoc hdialect,
      Doc.stated_of_asOptional Json.describedBy_asString hdatabase,
      Doc.stated_of_asOptional Json.describedBy_asString htable,
      Doc.stated_of_asOptional describedBy_limitOfDoc hitemLimit,
      Doc.stated_of_asOptional RuleTable.describedBy_ofDoc hrules, rfl, rfl⟩
  | object ms stop =>
    obtain ⟨m, hm, h⟩ := bind_eq_ok_iff.mp h
    cases h
    exact
      ⟨(QueryMembers.filledBy_dialect.members rfl hm).stated_member? describedBy_dialectOfDoc,
      (QueryMembers.filledBy_database.members rfl hm).stated_member? Json.describedBy_asString,
      (QueryMembers.filledBy_table.members rfl hm).stated_member? Json.describedBy_asString,
      (QueryMembers.filledBy_itemLimit.members rfl hm).stated_member? describedBy_limitOfDoc,
      (QueryMembers.filledBy_rules.members rfl hm).stated_member? RuleTable.describedBy_ofDoc,
      rfl, rfl⟩
  | _ => exact absurd h Doc.unexpected_ne_ok

/-- The two sections together set what either of them sets. -/
theorem IsServer.onTop {ls lq : Layer} {ms : List (Lexeme × Doc)} {stop : Option Break}
    (hs : ls.IsServer (Doc.member? "server" ms))
    (hq : lq.IsQuery (Doc.member? "query" ms)) :
    (ls.onTop lq).StatedBy (.object ms stop) where
  host := by
    simp only [Layer.onTop, hq.no_host, Option.or_none]
    exact hs.host
  port := by
    simp only [Layer.onTop, hq.no_port, Option.or_none]
    exact hs.port
  dialect := by
    rw [hs.no_query]
    exact hq.dialect
  database := by
    rw [hs.no_query]
    exact hq.database
  table := by
    rw [hs.no_query]
    exact hq.table
  itemLimit := by
    rw [hs.no_query]
    exact hq.itemLimit
  rules := by
    rw [hs.no_query]
    exact hq.rules

end Layer

/-! ### Settings files -/

namespace SettingsDocument

namespace Members

variable {room : Nat}

/-- The server section. -/
def serverSlot : Slot Members (Option Layer) := ⟨"server", server, Doc.asOptional Layer.ofServerDoc⟩

/-- The query section. -/
def querySlot (room : Nat) : Slot Members (Option Layer) :=
  ⟨"query", query, Doc.asOptional (Layer.ofQueryDoc room)⟩

/-- A step leaves all fields alone but the one that has the name of the member. -/
theorem read_frame {m m' : Members} {name : String} {d : Doc}
    (h : read room m name d = .ok m') :
    (name ≠ "server" → m'.server = m.server) ∧ (name ≠ "query" → m'.query = m.query) := by
  unfold read at h
  split at h
  all_goals
    obtain ⟨_, -, h⟩ := bind_eq_ok_iff.mp h
    cases h
    simp

theorem filledBy_server : serverSlot.FilledBy (read room) where
  own h := Slot.own_of_once h fun _ => rfl
  other hname h := (read_frame h).1 hname

theorem filledBy_query : (querySlot room).FilledBy (read room) where
  own h := Slot.own_of_once h fun _ => rfl
  other hname h := (read_frame h).2 hname

end Members

/-- **The settings that are read from a file are those that it states.** -/
theorem statedBy_layer {d : Doc} {doc : SettingsDocument} (h : ofDoc Doc.maxDepth d = .ok doc) :
    doc.layer.StatedBy d := by
  unfold ofDoc at h
  cases d with
  | object ms stop =>
    obtain ⟨m, hm, h⟩ := bind_eq_ok_iff.mp h
    cases h
    have hserver : (m.server.join.getD .empty).IsServer (Doc.member? "server" ms) :=
      Layer.getD_of_section ⟨.none, .none, rfl⟩ Layer.isServer_of_ofServerDoc
        (Members.filledBy_server.members rfl hm).map_member?
    have hquery : (m.query.join.getD .empty).IsQuery (Doc.member? "query" ms) :=
      Layer.getD_of_section ⟨.none, .none, .none, .none, .none, rfl, rfl⟩
        Layer.isQuery_of_ofQueryDoc (Members.filledBy_query.members rfl hm).map_member?
    exact hserver.onTop hquery
  | _ => exact absurd h Doc.unexpected_ne_ok

end SettingsDocument

end LabelFilter
