import LabelFilter.Proofs.Sql.Quotation

/-!
# Paths into documents

A path leads from the root of a JSON document to one place in it, step by step: to a member of an
object by its name, or to an item of a list by its index. A name stands behind a dot. Between double
quotes it may be any text, and a backslash takes the next character there; without quotes it ends
before the first character that is no letter, digit or underscore. An index stands in brackets.

So a name that is not kept apart from what surrounds it would lead elsewhere: a dot in it makes two
steps of one, and brackets make a step into a list. The reader of `labelOfPath?` knows of one quoted
name only; the reader here knows all steps, and it is the one to ask where a path leads.

## Main definitions

* `Sql.PathStep`, `Sql.PathStep.next` — steps, and reading the first one
* `Sql.readPath?` — the steps of a path
* `Sql.replaceChar` — a text with another text in place of one character

## Main results

* `readPath?_of_labelOfPath?` — the path of one quoted name is one step
* `labelPath_eq_replaceChar` — keys are escaped in two passes, the backslashes first
-/

namespace LabelFilter.Sql

/-- One step into a document. -/
inductive PathStep where
  | member (name : String)
  | element (index : Nat)
  deriving DecidableEq, Repr

namespace PathStep

/-- The step at the beginning of a text, and the text behind it. -/
def next : List Char → Option (PathStep × List Char)
  | '.' :: '"' :: cs => (pathQuotation.scan cs).map fun p => (.member (String.ofList p.1), p.2)
  | '.' :: cs =>
    match cs.takeWhile isPlainRest with
    | [] => none
    | c :: name => some (.member (String.ofList (c :: name)), cs.dropWhile isPlainRest)
  | '[' :: cs =>
    match cs.takeWhile Char.isDigit, cs.dropWhile Char.isDigit with
    | d :: ds, ']' :: rest => some (.element (Nat.ofDigitChars 10 (d :: ds) 0), rest)
    | _, _ => none
  | _ => none

theorem length_next {cs rest : List Char} {step : PathStep} (h : next cs = some (step, rest)) :
    rest.length < cs.length := by
  rw [next.eq_def] at h
  split at h
  · next cs =>
    obtain ⟨⟨name, rest'⟩, hscan, hp⟩ := Option.map_eq_some_iff.mp h
    cases hp
    exact Nat.lt_succ_of_lt (Nat.lt_succ_of_lt (Quotation.length_scan hscan))
  · next cs _ =>
    split at h
    · cases h
    · cases h
      exact Nat.lt_succ_of_le (List.dropWhile_suffix _).length_le
  · next cs =>
    split at h
    · next hrest =>
      cases h
      have hle := (List.dropWhile_suffix Char.isDigit (l := cs)).length_le
      rw [hrest] at hle
      exact Nat.lt_succ_of_lt hle
    · cases h
  · cases h

theorem next_quoted {cs name rest : List Char} (h : pathQuotation.scan cs = some (name, rest)) :
    next ('.' :: '"' :: cs) = some (.member (String.ofList name), rest) := by
  rw [next, h]
  rfl

end PathStep

/-- The steps that a text is made of. -/
def steps? : List Char → Option (List PathStep)
  | [] => some []
  | c :: cs =>
    match _h : PathStep.next (c :: cs) with
    | some (step, rest) => (steps? rest).map (step :: ·)
    | none => none
termination_by cs => cs.length
decreasing_by exact PathStep.length_next _h

/-- The steps of a path, which begins at the root. -/
def readPath? (path : String) : Option (List PathStep) :=
  match path.toList with
  | '$' :: cs => steps? cs
  | _ => none

theorem steps?_of_next {cs rest : List Char} {step : PathStep}
    (h : PathStep.next cs = some (step, rest)) : steps? cs = (steps? rest).map (step :: ·) := by
  cases cs with
  | nil => simp [PathStep.next] at h
  | cons c cs =>
    rw [steps?]
    split
    · next h' =>
      cases h.symm.trans h'
      rfl
    · next h' => cases h.symm.trans h'

/-- **The path of one quoted name is one step**, into the member of this name. -/
theorem readPath?_of_labelOfPath? {path key : String} (h : labelOfPath? path = some key) :
    readPath? path = some [.member key] := by
  rw [labelOfPath?] at h
  split at h
  · next cs hpath =>
    split at h
    · next name hscan =>
      cases h
      have hsteps : steps? ('.' :: '"' :: cs) = some [.member (String.ofList name)] := by
        rw [steps?_of_next (PathStep.next_quoted hscan), steps?]
        rfl
      rw [readPath?, hpath]
      exact hsteps
    · cases h
  · cases h

/-- Without quotes, what may stand in a key is read as further steps. -/
example : readPath? "$.\"a.b[12]\"" = some [.member "a.b[12]"] ∧
    readPath? "$.a.b[12]" = some [.member "a", .member "b", .element 12] :=
  ⟨by cbv, by cbv⟩

/-! ### Escaping in passes -/

/-- A text with `word` in place of every `c`. -/
def replaceChar (c : Char) (word : String) (s : String) : String :=
  String.ofList (s.toList.flatMap fun e => if e = c then word.toList else [e])

/-- **Keys are escaped in two passes**, of which the one for backslashes must be the first: the
other one makes new backslashes. -/
theorem labelPath_eq_replaceChar (key : String) : Dialect.labelPath key =
    "$.\"" ++ replaceChar '"' "\\\"" (replaceChar '\\' "\\\\" key) ++ "\"" := by
  have hpasses : ∀ c : Char, Dialect.pathChar c =
      (if c = '\\' then ['\\', '\\'] else [c]).flatMap fun e =>
        if e = '"' then ['\\', '"'] else [e] := by
    intro c
    rw [Dialect.pathChar]
    split_ifs with hc hb hb
    · subst hb
      decide
    · obtain rfl := hc.resolve_left hb
      decide
    · exact absurd (.inl hb) hc
    · simpa using fun hq => hc (.inr hq)
  rw [← String.toList_inj]
  simp [Dialect.labelPath, replaceChar, List.flatMap_assoc, ← hpasses]

end LabelFilter.Sql
