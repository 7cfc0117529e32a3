/-!
# Origins

A browser names the origin of a page in every request that the page makes elsewhere. The server
lets pages read its answers that come from the host and the port that it listens to, with or
without the port. A server on this machine, by whichever of the two common names, is known under
both, and so is one that listens on all interfaces.

## Main definitions

* `Origin.hosts` — the names under which a host is known
* `Origin.allowed` — the origins of a server's own pages
* `Origin.isAllowed` — whether an origin is among some others
* `Origin.isHeaderValue`, `Origin.headerValues` — the origins that can stand in a header
-/

namespace LabelFilter.Origin

/-- The spellings of the address that means all interfaces. -/
def allInterfaces : List String := ["0.0.0.0", "::", "[::]"]

/-- The common names of this machine. -/
def localNames : List String := ["localhost", "127.0.0.1"]

/-- The names under which a host is known. -/
def hosts (host : String) : List String :=
  if allInterfaces.contains host || localNames.contains host then localNames else [host]

/-- The origins of a server's own pages, apart from those of the addresses that the interfaces of
its machine have. -/
def allowed (host : String) (port : UInt16) : List String :=
  (hosts host).flatMap fun h =>
    ["http://" ++ h ++ ":" ++ toString port.toNat, "http://" ++ h]

/-- Whether an origin is among those that are allowed. -/
def isAllowed (origins : List String) (origin : String) : Bool := origins.any fun o => o == origin

/-- Whether a text can stand in a header: visible ASCII characters, spaces and tabs. -/
def isHeaderValue (s : String) : Bool :=
  s.toList.all fun c => c = '\t' || (0x20 ≤ c.toNat && c.toNat < 0x7f)

/-- The origins that a request can name. The others are passed over. -/
def headerValues (origins : List String) : List String := origins.filter isHeaderValue

theorem isAllowed_iff {origins : List String} {origin : String} :
    isAllowed origins origin = true ↔ origin ∈ origins := by
  simp [isAllowed]

theorem mem_headerValues_iff {origins : List String} {origin : String} :
    origin ∈ headerValues origins ↔ origin ∈ origins ∧ isHeaderValue origin = true :=
  List.mem_filter

theorem mem_allowed_iff {host : String} {port : UInt16} {origin : String} :
    origin ∈ allowed host port ↔
      ∃ h ∈ hosts host, origin = "http://" ++ h ++ ":" ++ toString port.toNat ∨
        origin = "http://" ++ h := by
  simp [allowed]

end LabelFilter.Origin
