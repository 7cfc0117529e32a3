import LabelFilter.Command.Program
import LabelFilter.Proofs.Http.Address
import LabelFilter.Proofs.Http.Origins

/-!
# The origin of the server's own pages

A server whose host is the canonical text of an address starts there. A page that is served from
that address has an origin of its own: the address stands in it as its text if it is of version 4,
and in brackets if it is of version 6, since its colons could not be told from the one before the
port otherwise.

The server puts its host into the origins that it allows as it stands, without brackets. So its own
pages may read what it answers if its address is of version 4, and may not if it is of version 6:
then no origin with a bracket behind its scheme is allowed. Hosts that mean all interfaces stand
apart, for what is allowed then are the names of this machine.

## Main definitions

* `Address.origin` — the origin of the pages that are served from an address
* `Address.IsUnspecified` — the addresses that mean all interfaces
* `Address.IsV4` — the addresses of version 4

## Main results

* `Address.text_mem_allInterfaces_iff` — the spellings that mean all interfaces
* `Origin.not_mem_allowed_of_bracket` — no host without brackets allows an origin with them
* `Settings.own_origin_granted_iff` — whether the server's own pages may read what it answers
-/

namespace LabelFilter

namespace Address

/-- The origin of the pages that are served from an address. -/
def origin (a : Address) (port : UInt16) : String := "http://" ++ a.textWithPort port

/-- The addresses that mean all interfaces. -/
def IsUnspecified : Address → Prop
  | .v4 a b c d => a = 0 ∧ b = 0 ∧ c = 0 ∧ d = 0
  | .v6 units _ => ∀ u ∈ units, u = 0

/-- The addresses of version 4. -/
def IsV4 : Address → Prop
  | .v4 .. => True
  | .v6 .. => False

/-- **The spellings that mean all interfaces.** One of them is in brackets, and no canonical text
is. -/
theorem text_mem_allInterfaces_iff {a : Address} :
    a.text ∈ Origin.allInterfaces ↔ a.IsUnspecified := by
  constructor
  · intro h
    simp only [Origin.allInterfaces, List.mem_cons, List.not_mem_nil, or_false] at h
    have hread := ofText?_text a
    rcases h with h | h | h
    · rw [h, show ofText? "0.0.0.0" = some (.v4 0 0 0 0) by decide +kernel] at hread
      cases hread
      exact ⟨rfl, rfl, rfl, rfl⟩
    · rw [h, show ofText? "::" = some (.v6 (List.replicate 8 0) rfl) by decide +kernel] at hread
      cases hread
      exact fun u hu => List.eq_of_mem_replicate hu
    · rw [h, show ofText? "[::]" = none by decide +kernel] at hread
      cases hread
  · intro h
    cases a with
    | v4 a b c d =>
      obtain ⟨rfl, rfl, rfl, rfl⟩ := h
      decide +kernel
    | v6 us eight =>
      obtain rfl : us = List.replicate 8 0 := List.eq_replicate_iff.mpr ⟨eight, h⟩
      have hmem : text (.v6 (List.replicate 8 0) rfl) ∈ Origin.allInterfaces := by decide +kernel
      exact hmem

end Address

namespace Origin

theorem isHeaderValue_append {s t : String} :
    isHeaderValue (s ++ t) = (isHeaderValue s && isHeaderValue t) := by
  simp [isHeaderValue]

theorem isHeaderValue_repr (n : Nat) : isHeaderValue n.repr = true := by
  have hdigit : ∀ d < 10, isHeaderValue (String.singleton d.digitChar) = true := by decide +kernel
  refine List.all_eq_true.mpr fun c hc => ?_
  obtain ⟨d, hd, rfl⟩ := @Address.mem_toDigits 10 (by decide) c n (by simpa using hc)
  simpa [isHeaderValue] using hdigit d hd

theorem knownAs_self (host : String) : KnownAs host host := by
  unfold KnownAs
  split
  · assumption
  · rfl

theorem not_mem_hosts {c : Char} {host name : String} (hc : c ∉ host.toList)
    (hlocal : ∀ n ∈ localNames, c ∉ n.toList) (hname : name ∈ hosts host) : c ∉ name.toList := by
  unfold hosts at hname
  split at hname
  · exact hlocal name hname
  · rwa [List.mem_singleton.mp hname]

/-- **No host without brackets** allows an origin with a bracket behind the scheme. -/
theorem not_mem_allowed_of_bracket {host : String} (hhost : '[' ∉ host.toList) (port : UInt16)
    (rest : String) : "http://[" ++ rest ∉ allowed host port := by
  intro h
  obtain ⟨name, hname, heq⟩ := mem_allowed_iff.mp h
  have hbracket : '[' ∉ name.toList := not_mem_hosts hhost (by decide) hname
  -- The bracket would be the first character of the name, or of what follows an empty name.
  have hbehind : ∀ tail, '[' :: rest.toList = name.toList ++ tail → tail = '[' :: rest.toList := by
    intro tail hsplit
    obtain ⟨-, htail⟩ | ⟨cs, hcs, -⟩ := List.cons_eq_append_iff.mp hsplit
    · exact htail
    · exact absurd (hcs ▸ List.mem_cons_self) hbracket
  rcases heq with heq | heq
  · have htail := hbehind (':' :: (toString port.toNat).toList)
      (by simpa using congrArg String.toList heq)
    exact absurd (List.cons.inj htail).1 (by decide)
  · exact absurd (hbehind [] (by simpa using congrArg String.toList heq)) (by simp)

end Origin

/-! ### The server's own pages -/

namespace Address

variable {a : Address}

theorem isAllowed_origin_iff (hall : ¬ a.IsUnspecified) (port : UInt16) :
    Origin.isAllowed (Origin.allowed a.text port) (a.origin port) = true ↔ a.IsV4 := by
  rw [Origin.isAllowed_iff]
  cases a with
  | v4 a b c d =>
    have hhost : text (.v4 a b c d) ∈ Origin.hosts (text (.v4 a b c d)) :=
      (Origin.mem_hosts_iff (mt text_mem_allInterfaces_iff.mp hall)).mpr (Origin.knownAs_self _)
    have horigin : origin (.v4 a b c d) port =
        "http://" ++ text (.v4 a b c d) ++ ":" ++ toString port.toNat := by
      simp only [origin, textWithPort, String.append_assoc]
    exact iff_of_true (Origin.mem_allowed_iff.mpr ⟨_, hhost, .inl horigin⟩) trivial
  | v6 us eight =>
    have horigin : origin (.v6 us eight) port =
        "http://[" ++ (text (.v6 us eight) ++ "]:" ++ toString port.toNat) := by
      simp [origin, textWithPort, ← String.append_assoc]
    rw [horigin]
    exact iff_of_false (Origin.not_mem_allowed_of_bracket (not_mem_text_v6 eight) _ _) id

theorem isHeaderValue_origin (hv4 : a.IsV4) (port : UInt16) :
    Origin.isHeaderValue (a.origin port) = true := by
  cases a with
  | v6 us eight => exact hv4.elim
  | v4 a b c d =>
    have hmarks : ∀ mark ∈ ["http://", ".", ":"], Origin.isHeaderValue mark = true := by decide
    simp [origin, textWithPort, text, dotted, String.intercalate_cons_cons,
      Origin.isHeaderValue_append, Origin.isHeaderValue_repr, hmarks]

end Address

variable {s : Settings} {a : Address}

/-- **Whether the server's own pages may read what it answers.** With an address for its host that
does not mean all interfaces the server starts there. The origin of its own pages is allowed, and
granted to requests that name it, if the address is of version 4 and not otherwise: with an address
of version 6 no origin with a bracket behind its scheme is allowed at all. -/
theorem Settings.own_origin_granted_iff (hhost : s.host = a.text) (hall : ¬ a.IsUnspecified) :
    s.start = .serving (.ofSettings s) a s.port ∧
    (Origin.isAllowed (Origin.allowed s.host s.port) (a.origin s.port) = true ↔ a.IsV4) ∧
    (∀ r : Http.Request, r.header? "origin" = some (a.origin s.port) →
      (((Http.Service.ofSettings s).respond r).Grants (a.origin s.port) ↔ a.IsV4)) ∧
    (¬ a.IsV4 → ∀ rest, Origin.isAllowed (Origin.allowed s.host s.port) ("http://[" ++ rest) =
      false) := by
  have hallowed := Address.isAllowed_origin_iff hall s.port
  rw [← hhost] at hallowed
  refine ⟨?_, hallowed, fun r hr => ?_, fun hv6 rest => ?_⟩
  · simp only [start, hhost, Address.ofText?_text]
  · rw [Http.Service.grants_respond_iff, Origin.mem_headerValues_iff, ← Origin.isAllowed_iff]
    constructor
    · rintro ⟨-, hmem, -⟩
      exact hallowed.mp hmem
    · exact fun hv4 => ⟨hr, hallowed.mpr hv4, Address.isHeaderValue_origin hv4 s.port⟩
  · cases a with
    | v4 a b c d => exact absurd trivial hv6
    | v6 us eight =>
      rw [← Bool.not_eq_true, Origin.isAllowed_iff]
      exact Origin.not_mem_allowed_of_bracket (hhost ▸ Address.not_mem_text_v6 eight) _ _

theorem Settings.own_origin_granted_of_octets :
    let s : Settings := ⟨"192.0.2.7", 8080, .duckdb, ⟨"db", "series"⟩, 1, []⟩
    let a : Address := .v4 192 0 2 7
    s.host = a.text ∧ ¬ a.IsUnspecified ∧ a.origin s.port = "http://192.0.2.7:8080" ∧
      Origin.isAllowed (Origin.allowed s.host s.port) (a.origin s.port) = true := by
  have hhost : "192.0.2.7" = (Address.v4 192 0 2 7).text := by decide +kernel
  have hall : ¬ (Address.v4 192 0 2 7).IsUnspecified := fun h => absurd h.1 (by decide)
  have howned := @own_origin_granted_iff ⟨"192.0.2.7", 8080, .duckdb, ⟨"db", "series"⟩, 1, []⟩
    (.v4 192 0 2 7) hhost hall
  exact ⟨hhost, hall, by decide +kernel, howned.2.1.mpr trivial⟩

/-- The pages of a server at the loopback address of version 6 may not read what it answers. -/
theorem Settings.own_origin_refused_of_units :
    let s : Settings := ⟨"::1", 5390, .duckdb, ⟨"db", "series"⟩, 1, []⟩
    let a : Address := .v6 [0, 0, 0, 0, 0, 0, 0, 1] rfl
    s.host = a.text ∧ ¬ a.IsUnspecified ∧ s.start = .serving (.ofSettings s) a s.port ∧
      a.origin s.port = "http://[::1]:5390" ∧
      Origin.isAllowed (Origin.allowed s.host s.port) "http://[::1]:5390" = false := by
  have hread : Address.ofText? "::1" = some (.v6 [0, 0, 0, 0, 0, 0, 0, 1] rfl) := by
    decide +kernel
  refine ⟨by decide +kernel, fun h => absurd (h 1 (by decide)) (by decide), ?_,
    by decide +kernel, by decide +kernel⟩
  simp only [Settings.start, hread]

end LabelFilter
