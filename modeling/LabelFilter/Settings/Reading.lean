import LabelFilter.Filter.Reading
import LabelFilter.Settings.Layer

/-!
# Settings in documents

A settings file is an object with the optional members `server` and `query`. Either is an object
or a complete list of its fields, and any field may be `null`, which sets nothing. Members with
other names are kept for a warning at the top and passed over below it.

## Main definitions

* `Layer.ofServerDoc`, `Layer.ofQueryDoc` — the two sections
* `SettingsDocument` — a settings file with the names of the members that it should not have
* `SettingsDocument.ofDoc` — reading one
-/

namespace LabelFilter

open Json (Doc Fault Decoder)

namespace Layer

/-- The next field of a list in which no field may be left out. -/
def nextField {α : Type} (length : Nat) (type : String) (decode : Decoder α) :
    List Doc → Option Json.Break → Except Fault (Option α × List Doc) :=
  Doc.nextOr (.error (.wrongLength length type)) (Doc.asOptional decode)

/-! ### The server -/

/-- A port. -/
def portOfDoc (d : Doc) : Except Fault UInt16 :=
  (Doc.asNatural UInt16.size "u16" d).map UInt16.ofNat

/-- The members of a server section that have been read. -/
structure ServerMembers where
  host : Option (Option String) := none
  port : Option (Option UInt16) := none

namespace ServerMembers

/-- Read one member. -/
def read (m : ServerMembers) (name : String) (d : Doc) : Except Fault ServerMembers :=
  match name with
  | "host" => do return { m with host := ← Doc.once name m.host (Doc.asOptional Doc.asString) d }
  | "port" => do return { m with port := ← Doc.once name m.port (Doc.asOptional portOfDoc) d }
  | _ => do
    d.skip
    return m

/-- The settings that the members make. -/
def toLayer (m : ServerMembers) : Layer := { host := m.host.join, port := m.port.join }

end ServerMembers

/-- The settings of a server section. -/
def ofServerDoc : Decoder Layer :=
  Doc.asRecord "ServerFileConfig"
    (fun fields stop => do
      let type := "struct ServerFileConfig with 2 elements"
      let (host, fields) ← nextField 0 type Doc.asString fields stop
      let (port, fields) ← nextField 1 type portOfDoc fields stop
      Doc.endItems fields stop
      return { host, port })
    (fun ms stop => do return (← Doc.members ServerMembers.read {} ms stop).toLayer)

/-! ### Queries -/

/-- A dialect. -/
def dialectOfDoc : Decoder Dialect :=
  Doc.asWord (Dialect.all.map fun d => (d.name, d))

/-- A number of items. -/
def limitOfDoc : Decoder Nat := Doc.asNatural UInt64.size "usize"

/-- The members of a query section that have been read. -/
structure QueryMembers where
  dialect : Option (Option Dialect) := none
  database : Option (Option String) := none
  table : Option (Option String) := none
  itemLimit : Option (Option Nat) := none
  rules : Option (Option RuleTable) := none

namespace QueryMembers

/-- Read one member. -/
def read (room : Nat) (m : QueryMembers) (name : String) (d : Doc) : Except Fault QueryMembers :=
  match name with
  | "dialect" => do
    return { m with dialect := ← Doc.once name m.dialect (Doc.asOptional dialectOfDoc) d }
  | "database" => do
    return { m with database := ← Doc.once name m.database (Doc.asOptional Doc.asString) d }
  | "table" => do
    return { m with table := ← Doc.once name m.table (Doc.asOptional Doc.asString) d }
  | "max_filter_items" => do
    return { m with itemLimit := ← Doc.once name m.itemLimit (Doc.asOptional limitOfDoc) d }
  | "implicit_predicates" => do
    return { m with
      rules := ← Doc.once name m.rules (Doc.asOptional (RuleTable.ofDoc room)) d }
  | _ => do
    d.skip
    return m

/-- The settings that the members make. -/
def toLayer (m : QueryMembers) : Layer where
  dialect := m.dialect.join
  database := m.database.join
  table := m.table.join
  itemLimit := m.itemLimit.join
  rules := m.rules.join

end QueryMembers

/-- The settings of a query section. The section itself counts as one list or object. -/
def ofQueryDoc (room : Nat) : Decoder Layer :=
  Doc.asRecord "QueryFileConfig"
    (fun fields stop => do
      let type := "struct QueryFileConfig with 5 elements"
      let (dialect, fields) ← nextField 0 type dialectOfDoc fields stop
      let (database, fields) ← nextField 1 type Doc.asString fields stop
      let (table, fields) ← nextField 2 type Doc.asString fields stop
      let (itemLimit, fields) ← nextField 3 type limitOfDoc fields stop
      let (rules, fields) ← nextField 4 type (RuleTable.ofDoc (room - 1)) fields stop
      Doc.endItems fields stop
      return { dialect, database, table, itemLimit, rules })
    (fun ms stop => do return (← Doc.members (QueryMembers.read (room - 1)) {} ms stop).toLayer)

end Layer

/-! ### Settings files -/

/-- What a settings file says. -/
structure SettingsDocument where
  layer : Layer
  /-- The members that mean nothing, each once and in the order of the document. -/
  unknown : List String
  deriving DecidableEq, Repr

namespace SettingsDocument

/-- The members of a settings file that have been read, unknown names last first. -/
structure Members where
  server : Option (Option Layer) := none
  query : Option (Option Layer) := none
  unknown : List String := []

/-- Read one member. -/
def Members.read (room : Nat) (m : Members) (name : String) (d : Doc) : Except Fault Members :=
  match name with
  | "server" => do
    return { m with server := ← Doc.once name m.server (Doc.asOptional Layer.ofServerDoc) d }
  | "query" => do
    return { m with
      query := ← Doc.once name m.query (Doc.asOptional (Layer.ofQueryDoc room)) d }
  | _ => do
    let _ ← d.value room
    return { m with unknown := name :: m.unknown }

/-- What the members say. A section that is left out sets nothing. -/
def Members.toDocument (m : Members) : SettingsDocument where
  layer := (m.server.join.getD .empty).onTop (m.query.join.getD .empty)
  unknown := m.unknown.reverse.eraseDups

/-- A settings file in which at most `room` lists and objects stand inside each other. -/
def ofDoc (room : Nat) : Decoder SettingsDocument
  | .object ms stop => do return (← Doc.members (Members.read (room - 1)) {} ms stop).toDocument
  | d => d.unexpected "struct FileConfig"

end SettingsDocument

end LabelFilter
