import Mathlib.Tactic.SplitIfs
import LabelFilter.Sql.Dialect

/-!
# Reading quotations

A text between quote characters is read back one character at a time. Which characters are special
inside is a matter of the place: a string literal, an identifier and the name in a path each have
their own `Quotation`, and one reader serves them all.

Writing is never undone here by looking at the writer. `Quotation.Spells` says which pieces of text
a reader takes for one character, and a writer whose pieces are all of this kind is read back
whatever follows its closing quote.

## Main definitions

* `Sql.Quotation`, `Quotation.scan` — what is special inside quotes, and reading up to the end
* `Quotation.Spells` — the spellings of one character
* `Quoting.quotation`, `Dialect.nameQuotation`, `pathQuotation` — the quotations of the dialects
* `Sql.labelOfPath?` — the one member that a path selects

## Main results

* `Quotation.scan_flatMap` — what is spelled character by character is read back
* `scan_literal`, `scan_quotedName` — literals and quoted names are read back
* `labelOfPath?_labelPath` — the path to a member selects this member
-/

namespace LabelFilter

namespace Sql

/-- What is special inside a pair of quote characters. -/
structure Quotation where
  /-- The character that ends the quotation. -/
  quote : Char
  /-- Whether two quote characters stand for one. -/
  doubling : Bool
  /-- What a backslash makes of the next character, where it is special. -/
  escape : Option (Char → Char)

namespace Quotation

variable {q : Quotation}

/-- A character in front of what has been read. -/
def prepend (c : Char) : List Char × List Char → List Char × List Char
  | (cs, rest) => (c :: cs, rest)

/-- The text up to the closing quote, and what follows the quote. -/
def scan (q : Quotation) : List Char → Option (List Char × List Char)
  | [] => none
  | [c] => if c = q.quote then some ([], []) else none
  | c :: c' :: cs =>
    if c = q.quote then
      if q.doubling ∧ c' = q.quote then (q.scan cs).map (prepend q.quote) else some ([], c' :: cs)
    else
      match q.escape with
      | none => (q.scan (c' :: cs)).map (prepend c)
      | some f =>
        if c = '\\' then (q.scan cs).map (prepend (f c')) else (q.scan (c' :: cs)).map (prepend c)

/-- Whether a text cannot go on with a quotation that has just been closed. -/
def Ended (q : Quotation) (rest : List Char) : Prop := q.doubling = true → rest.head? ≠ some q.quote

theorem scan_quote {rest : List Char} (h : q.Ended rest) :
    q.scan (q.quote :: rest) = some ([], rest) := by
  cases rest with
  | nil => simp [scan]
  | cons c cs =>
    have : ¬ (q.doubling = true ∧ c = q.quote) := fun ⟨hd, hc⟩ => h hd (by simp [hc])
    simp [scan, this]

/-- The spellings of a character between the quotes. -/
inductive Spells (q : Quotation) (c : Char) : List Char → Prop
  | plain (hq : c ≠ q.quote) (he : c = '\\' → q.escape = none) : Spells q c [c]
  | doubled (hd : q.doubling = true) (hc : c = q.quote) : Spells q c [c, c]
  | escaped {f : Char → Char} {e : Char} (he : q.escape = some f) (hf : f e = c)
      (hq : '\\' ≠ q.quote) : Spells q c ['\\', e]

/-- Reading a spelling gives its character. The text behind it must not be empty, because a
character that is the last one cannot be inside quotes. -/
theorem scan_append_of_spells {c : Char} {w : List Char} (h : q.Spells c w) {rest : List Char}
    (hrest : rest ≠ []) : q.scan (w ++ rest) = (q.scan rest).map (prepend c) := by
  obtain ⟨d, ds, rfl⟩ := List.exists_cons_of_ne_nil hrest
  cases h with
  | plain hq he =>
    rw [List.singleton_append, scan, if_neg hq]
    split
    · rfl
    · next f hf =>
      have hc : c ≠ '\\' := fun hc => by simp [he hc] at hf
      rw [if_neg hc]
  | doubled hd hc => simp [scan, hd, hc]
  | escaped he hf hq => simp [scan, he, hf, hq]

/-- **Reading back.** A text that is spelled character by character is read back, and nothing of
what follows the closing quote is lost. -/
theorem scan_flatMap {spell : Char → List Char} (h : ∀ c, q.Spells c (spell c)) (cs : List Char)
    {rest : List Char} (hrest : q.Ended rest) :
    q.scan (cs.flatMap spell ++ q.quote :: rest) = some (cs, rest) := by
  induction cs with
  | nil => exact scan_quote hrest
  | cons c cs ih =>
    rw [List.flatMap_cons, List.append_assoc, scan_append_of_spells (h c) (by simp), ih]
    rfl

theorem exists_of_map_prepend {c : Char} {o : Option (List Char × List Char)} {s rest : List Char}
    (h : o.map (prepend c) = some (s, rest)) : ∃ s', o = some (s', rest) := by
  obtain ⟨⟨s', rest'⟩, ho, hp⟩ := Option.map_eq_some_iff.mp h
  cases hp
  exact ⟨s', ho⟩

/-- Reading uses up the closing quote at least. -/
theorem length_scan {cs s rest : List Char} (h : q.scan cs = some (s, rest)) :
    rest.length < cs.length := by
  fun_induction scan q cs generalizing s with
  | case1 => cases h
  | case2 => cases h; simp
  | case3 => cases h
  | case4 c' cs _ ih | case7 c' cs f _ _ ih =>
    obtain ⟨s', hs⟩ := exists_of_map_prepend h
    exact Nat.lt_succ_of_lt (Nat.lt_succ_of_lt (ih hs))
  | case5 => cases h; simp
  | case6 c c' cs _ _ ih | case8 c c' cs _ f _ _ ih =>
    obtain ⟨s', hs⟩ := exists_of_map_prepend h
    exact Nat.lt_succ_of_lt (ih hs)

end Quotation

/-! ### Literals -/

/-- What is special inside a string literal. A backslash that takes the next character makes NUL
of a zero. -/
def Quoting.quotation (style : Quoting) : Quotation where
  quote := '\''
  doubling := true
  escape :=
    match style with
    | .doubled => none
    | .backslash => some fun c => if c = '0' then '\x00' else c

theorem spells_escapeChar (style : Quoting) (c : Char) :
    style.quotation.Spells c (escapeChar style c) := by
  cases style with
  | doubled =>
    by_cases hc : c = '\''
    · subst hc
      exact .doubled rfl rfl
    · rw [escapeChar, if_neg hc]
      exact .plain hc fun _ => rfl
  | backslash =>
    simp only [escapeChar]
    split_ifs with hb hq h0
    · subst hb
      exact .escaped rfl (by decide) (by decide)
    · subst hq
      exact .escaped rfl (by decide) (by decide)
    · subst h0
      exact .escaped rfl (by decide) (by decide)
    · exact .plain hq fun h => absurd h hb

/-- A literal is read back from behind its opening quote. -/
theorem scan_literal (style : Quoting) (cs : List Char) {rest : List Char}
    (h : rest.head? ≠ some '\'') :
    style.quotation.scan (escapeChars style cs ++ '\'' :: rest) = some (cs, rest) :=
  Quotation.scan_flatMap (q := style.quotation) (spells_escapeChar style) cs fun _ => h

/-! ### Quoted names -/

/-- What is special inside a quoted name. -/
def nameQuotation (quote : Char) (style : Quoting) : Quotation where
  quote := quote
  doubling := true
  escape :=
    match style with
    | .doubled => none
    | .backslash => some id

theorem spells_identifierChar {quote : Char} (hquote : '\\' ≠ quote) (style : Quoting) (c : Char) :
    (nameQuotation quote style).Spells c (identifierChar quote style c) := by
  rw [identifierChar]
  split
  · next h =>
    obtain rfl | ⟨rfl, rfl⟩ := h
    · exact .doubled rfl rfl
    · exact .escaped rfl rfl hquote
  · next h =>
    obtain ⟨hc, hb⟩ := not_or.mp h
    refine .plain hc fun hbackslash => ?_
    cases style with
    | doubled => rfl
    | backslash => exact absurd ⟨hbackslash, rfl⟩ hb

/-- A quoted name is read back from behind its opening quote. -/
theorem scan_quotedName {quote : Char} (hquote : '\\' ≠ quote) (style : Quoting) (cs : List Char)
    {rest : List Char} (h : rest.head? ≠ some quote) :
    (nameQuotation quote style).scan
      (cs.flatMap (identifierChar quote style) ++ quote :: rest) = some (cs, rest) :=
  Quotation.scan_flatMap (q := nameQuotation quote style) (spells_identifierChar hquote style) cs
    fun _ => h

/-! ### Paths -/

/-- What is special inside the name in a path. -/
def pathQuotation : Quotation := ⟨'"', false, some id⟩

/-- The member that a path selects, if the path is one quoted name under the root. -/
def labelOfPath? (path : String) : Option String :=
  match path.toList with
  | '$' :: '.' :: '"' :: cs =>
    match pathQuotation.scan cs with
    | some (key, []) => some (String.ofList key)
    | _ => none
  | _ => none

theorem spells_pathChar (c : Char) : pathQuotation.Spells c (Dialect.pathChar c) := by
  rw [Dialect.pathChar]
  split
  · exact .escaped rfl rfl (by decide)
  · next h =>
    obtain ⟨hb, hq⟩ := not_or.mp h
    exact .plain hq fun h => absurd h hb

/-- The path to a member selects this member and nothing else. -/
@[simp] theorem labelOfPath?_labelPath (key : String) :
    labelOfPath? (Dialect.labelPath key) = some key := by
  have hend : pathQuotation.Ended [] := nofun
  have hscan := Quotation.scan_flatMap spells_pathChar key.toList hend
  simp only [labelOfPath?, Dialect.labelPath, String.toList_ofList]
  rw [show pathQuotation.quote = '"' from rfl] at hscan
  simp [hscan]

theorem labelPath_injective : Function.Injective Dialect.labelPath := fun k l h =>
  Option.some.inj (by rw [← labelOfPath?_labelPath k, h, labelOfPath?_labelPath])

end Sql

end LabelFilter
