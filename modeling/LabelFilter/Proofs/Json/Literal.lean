import LabelFilter.Proofs.Json.Composite
import LabelFilter.Proofs.Json.StringText

/-!
# The grammar of literals

The grammar of numbers and strings in JSON text, in rules of their own, and the literals that texts
of this grammar are read as. A character in a string may stand for itself in UTF-8, be escaped with
a letter, or be written by its UTF-16 units, one or a pair of them.

## Main definitions

* `Json.IsNumber` — numbers; `Json.IsWhole`, `Json.IsFraction`, `Json.IsExponent` — their parts
* `Json.IsChar`, `Json.IsString` — characters in strings, and strings

## Main results

* `IsNumber.spells` — a number is read to its parts
* `IsString.exists_lexeme` — a string is read as a literal whose text is the string
* `isString_stringText` — a written string is a string
-/

namespace LabelFilter.Json

variable {bs rest : List Octet}

/-! ### Numbers -/

/-- One digit or more. -/
structure IsDigits (bs : List Octet) : Prop where
  ne_nil : bs ≠ []
  forall_isDigit : ∀ b ∈ bs, isDigit b = true

/-- The digits before the point: zero, or digits that do not begin with zero. -/
inductive IsWhole : List Octet → List Nat → Prop where
  | zero : IsWhole [ascii '0'] [0]
  | digits {bs : List Octet} (h : IsDigits bs) (hzero : bs.head? ≠ some (ascii '0')) :
      IsWhole bs (bs.map digitValue)

/-- The point and the digits after it. Both may be left out together. -/
inductive IsFraction : List Octet → List Nat → Prop where
  | none : IsFraction [] []
  | point {bs : List Octet} (h : IsDigits bs) : IsFraction (ascii '.' :: bs) (bs.map digitValue)

/-- The exponent, which may be left out, and so may its sign. -/
inductive IsExponent : List Octet → Option (Bool × List Nat) → Prop where
  | none : IsExponent [] none
  | unsigned {e : Octet} {bs : List Octet} (he : e = ascii 'e' ∨ e = ascii 'E')
      (h : IsDigits bs) : IsExponent (e :: bs) (some (false, bs.map digitValue))
  | plus {e : Octet} {bs : List Octet} (he : e = ascii 'e' ∨ e = ascii 'E') (h : IsDigits bs) :
      IsExponent (e :: ascii '+' :: bs) (some (false, bs.map digitValue))
  | minus {e : Octet} {bs : List Octet} (he : e = ascii 'e' ∨ e = ascii 'E') (h : IsDigits bs) :
      IsExponent (e :: ascii '-' :: bs) (some (true, bs.map digitValue))

/-- A number. -/
inductive IsNumber : List Octet → Number → Prop where
  | positive {ws fs es : List Octet} {whole fraction : List Nat}
      {exponent : Option (Bool × List Nat)} (hwhole : IsWhole ws whole)
      (hfraction : IsFraction fs fraction) (hexponent : IsExponent es exponent) :
      IsNumber (ws ++ (fs ++ es)) ⟨false, whole, fraction, exponent⟩
  | negative {ws fs es : List Octet} {whole fraction : List Nat}
      {exponent : Option (Bool × List Nat)} (hwhole : IsWhole ws whole)
      (hfraction : IsFraction fs fraction) (hexponent : IsExponent es exponent) :
      IsNumber (ascii '-' :: (ws ++ (fs ++ es))) ⟨true, whole, fraction, exponent⟩

/-- Whether no digit goes on where a text begins. -/
def EndsDigits (bs : List Octet) : Prop := ∀ b ∈ bs.head?, isDigit b = false

theorem IsDigits.exists_cons (h : IsDigits bs) :
    ∃ b bs', bs = b :: bs' ∧ isDigit b = true ∧ ∀ b ∈ bs', isDigit b = true := by
  obtain ⟨b, bs', rfl⟩ := List.exists_cons_of_ne_nil h.ne_nil
  exact ⟨b, bs', rfl, List.forall_mem_cons.mp h.forall_isDigit⟩

theorem ne_ascii_of_isDigit {b : Octet} (hb : isDigit b = true) {c : Char}
    (hc : isDigit (ascii c) = false) : b ≠ ascii c := by
  rintro rfl
  rw [hb] at hc
  cases hc

/-- A digit is none of the characters in a row without digits. -/
theorem forall_ne_ascii_of_isDigit {b : Octet} (hb : isDigit b = true) {cs : List Char}
    (hcs : cs.all (fun c => !isDigit (ascii c)) = true) : ∀ c ∈ cs, b ≠ ascii c := by
  intro c hc
  have hnot : (!isDigit (ascii c)) = true := List.all_eq_true.mp hcs c hc
  exact ne_ascii_of_isDigit hb (by simpa using hnot)

namespace Number

theorem digits1_of_isDigits (h : IsDigits bs) (hrest : EndsDigits rest) :
    digits1 (bs ++ rest) = .ok (bs.map digitValue, rest) := by
  obtain ⟨b, bs, rfl, hb, hbs⟩ := h.exists_cons
  have hnone : rest.takeWhile isDigit = [] ∧ rest.dropWhile isDigit = rest := by
    cases rest with
    | nil => exact ⟨rfl, rfl⟩
    | cons c rest => simp [hrest c rfl]
  rw [List.cons_append, digits1, if_pos hb, List.takeWhile_append_of_pos hbs,
    List.dropWhile_append_of_pos hbs, hnone.1, hnone.2, List.append_nil]
  rfl

theorem scanWhole_of_isWhole {ds : List Nat} (h : IsWhole bs ds) (hrest : EndsDigits rest) :
    scanWhole (bs ++ rest) = .ok (ds, rest) := by
  cases h with
  | zero =>
    cases rest with
    | nil => rfl
    | cons c rest => simp [scanWhole, hrest c rfl]
  | digits h hzero =>
    rw [← digits1_of_isDigits h hrest]
    obtain ⟨b, bs, rfl, -⟩ := h.exists_cons
    exact if_neg fun hb => hzero (congrArg some hb)

theorem scanFraction_of_isFraction {ds : List Nat} (h : IsFraction bs ds)
    (hrest : EndsDigits rest) (hpoint : rest.head? ≠ some (ascii '.')) :
    scanFraction (bs ++ rest) = .ok (ds, rest) := by
  cases h with
  | none =>
    cases rest with
    | nil => rfl
    | cons b rest =>
      rw [List.nil_append, scanFraction, if_neg fun hb => hpoint (congrArg some hb)]
  | point h =>
    rw [List.cons_append, scanFraction, if_pos rfl]
    exact digits1_of_isDigits h hrest

/-- An exponent is read behind its letter and its sign. -/
theorem scanExponent_of_sign {e : Octet} (he : e = ascii 'e' ∨ e = ascii 'E')
    {negative : Bool} {digits : List Octet} (hsign : scanSign bs = (negative, digits))
    (h : IsDigits digits) :
    scanExponent (e :: bs) = .ok (some (negative, digits.map digitValue), []) := by
  have hletter : (e = ascii 'e' || e = ascii 'E') = true := by simpa using he
  have hdigits : digits1 (digits ++ []) = .ok (digits.map digitValue, []) :=
    digits1_of_isDigits h nofun
  rw [List.append_nil] at hdigits
  rw [scanExponent, if_pos hletter, hsign]
  dsimp only
  rw [hdigits]
  rfl

theorem scanExponent_of_isExponent {e : Option (Bool × List Nat)} (h : IsExponent bs e) :
    scanExponent bs = .ok (e, []) := by
  cases h with
  | none => rfl
  | @unsigned _ bs he h =>
    have hsign : scanSign bs = (false, bs) := by
      obtain ⟨b, bs, rfl, hb, -⟩ := h.exists_cons
      have hminus : b ≠ ascii '-' := ne_ascii_of_isDigit hb (by decide)
      have hplus : b ≠ ascii '+' := ne_ascii_of_isDigit hb (by decide)
      rw [scanSign, if_neg hminus, if_neg hplus]
    exact scanExponent_of_sign he hsign h
  | plus he h => exact scanExponent_of_sign he rfl h
  | minus he h => exact scanExponent_of_sign he rfl h

/-- The parts of a number behind its sign are read one after the other. -/
theorem scanUnsigned_of_parts {ws fs es : List Octet} {whole fraction : List Nat}
    {exponent : Option (Bool × List Nat)} (hwhole : IsWhole ws whole)
    (hfraction : IsFraction fs fraction) (hexponent : IsExponent es exponent) (negative : Bool) :
    scanUnsigned negative (ws ++ (fs ++ es)) = .ok (⟨negative, whole, fraction, exponent⟩, []) := by
  have hletter : ∀ {e : Octet} (es : List Octet), e = ascii 'e' ∨ e = ascii 'E' →
      EndsDigits (e :: es) ∧ (e :: es).head? ≠ some (ascii '.') := by
    rintro e es (rfl | rfl) <;> exact ⟨by rintro b ⟨⟩; decide, Option.some_inj.not.mpr (by decide)⟩
  have hes : EndsDigits es ∧ es.head? ≠ some (ascii '.') := by
    cases hexponent with
    | none => exact ⟨nofun, nofun⟩
    | unsigned he _ => exact hletter _ he
    | plus he _ => exact hletter _ he
    | minus he _ => exact hletter _ he
  have hfs : EndsDigits (fs ++ es) := by
    cases hfraction with
    | none => exact hes.1
    | point _ =>
      rintro b ⟨⟩
      decide
  rw [scanUnsigned, scanWhole_of_isWhole hwhole hfs]
  show (scanFraction (fs ++ es) >>= _) = _
  rw [scanFraction_of_isFraction hfraction hes.1 hes.2]
  show (scanExponent es >>= _) = _
  rw [scanExponent_of_isExponent hexponent]
  rfl

end Number

/-- Digits alone are a number. -/
theorem IsWhole.isNumber {ds : List Nat} (h : IsWhole bs ds) :
    IsNumber bs ⟨false, ds, [], none⟩ := by
  have hnumber : IsNumber (bs ++ ([] ++ [])) ⟨false, ds, [], none⟩ := .positive h .none .none
  rwa [List.append_nil, List.append_nil] at hnumber

/-- A number begins with a digit, unless it begins with a minus. -/
theorem IsWhole.exists_cons {ds : List Nat} (h : IsWhole bs ds) :
    ∃ b bs', bs = b :: bs' ∧ isDigit b = true := by
  cases h with
  | zero => exact ⟨_, _, rfl, by decide⟩
  | digits h _ =>
    obtain ⟨b, bs, rfl, hb, -⟩ := h.exists_cons
    exact ⟨b, bs, rfl, hb⟩

theorem Token.next_of_isDigit {b : Octet} (hb : isDigit b = true) (bs : List Octet) :
    Token.next b bs = Token.numeral (b :: bs) := by
  have hne : ∀ c ∈ ['[', ']', '\x7b', '\x7d', ',', ':', '"', 'n', 't', 'f'], b ≠ ascii c :=
    forall_ne_ascii_of_isDigit hb (by decide)
  simp [Token.next, hb, hne]

theorem isSpace_of_isDigit {b : Octet} (hb : isDigit b = true) : isSpace b = false := by
  have hne : ∀ c ∈ [' ', '\t', '\n', '\r'], b ≠ ascii c :=
    forall_ne_ascii_of_isDigit hb (by decide)
  simp [isSpace, hne]

/-- **A number is read to its parts.** -/
theorem IsNumber.spells {n : Number} (h : IsNumber bs n) : Spells bs (.number n) where
  whole := .number n
  document := by
    have htokens : tokens bs = [.number n] := by
      cases h with
      | @positive ws fs es _ _ _ hwhole hfraction hexponent =>
        have hscan := Number.scanUnsigned_of_parts hwhole hfraction hexponent false
        obtain ⟨b, bs, rfl, hb⟩ := hwhole.exists_cons
        rw [List.cons_append] at hscan ⊢
        have hsign : b ≠ ascii '-' := ne_ascii_of_isDigit hb (by decide)
        have hnext := Token.next_of_isDigit hb (bs ++ (fs ++ es))
        rw [Token.numeral, Number.scan_cons, if_neg hsign, hscan] at hnext
        rw [tokens_cons (isSpace_of_isDigit hb) hnext, tokens_nil]
      | @negative ws fs es _ _ _ hwhole hfraction hexponent =>
        have hscan := Number.scanUnsigned_of_parts hwhole hfraction hexponent true
        have hnext : Token.next (ascii '-') (ws ++ (fs ++ es)) =
            Token.numeral (ascii '-' :: (ws ++ (fs ++ es))) := rfl
        rw [Token.numeral, Number.scan_cons, if_pos rfl, hscan] at hnext
        rw [tokens_cons (by decide) hnext, tokens_nil]
    rw [Document.ofOctets, htokens]
    rfl

/-! ### Strings -/

/-- The letters of escapes, and the characters that they stand for. -/
def escapes : List (Char × Char) :=
  [('"', '"'), ('\\', '\\'), ('/', '/'), ('b', '\x08'), ('f', '\x0c'), ('n', '\n'), ('r', '\r'),
    ('t', '\t')]

/-- A character in a string. -/
inductive IsChar : List Octet → Char → Prop where
  | plain {c : Char} (hquote : c ≠ '"') (hbackslash : c ≠ '\\') (hcontrol : 0x20 ≤ c.toNat) :
      IsChar (String.utf8EncodeChar c) c
  | escape {e c : Char} (h : (e, c) ∈ escapes) : IsChar [ascii '\\', ascii e] c
  | unit {h₁ h₂ h₃ h₄ : Octet} {n : Nat} (h : Lexeme.hexUnit? h₁ h₂ h₃ h₄ = some n)
      (hn : n < 0xd800 ∨ 0xdfff < n) :
      IsChar [ascii '\\', ascii 'u', h₁, h₂, h₃, h₄] (Char.ofNat n)
  | pair {h₁ h₂ h₃ h₄ h₅ h₆ h₇ h₈ : Octet} {n m : Nat}
      (h : Lexeme.hexUnit? h₁ h₂ h₃ h₄ = some n) (hn : 0xd800 ≤ n ∧ n ≤ 0xdbff)
      (h' : Lexeme.hexUnit? h₅ h₆ h₇ h₈ = some m) (hm : 0xdc00 ≤ m ∧ m ≤ 0xdfff) :
      IsChar [ascii '\\', ascii 'u', h₁, h₂, h₃, h₄, ascii '\\', ascii 'u', h₅, h₆, h₇, h₈]
        (Char.ofNat ((n - 0xd800) * 0x400 + (m - 0xdc00) + 0x10000))

/-- The inside of a string. -/
inductive IsChars : List Octet → List Char → Prop where
  | nil : IsChars [] []
  | cons {bs bs' : List Octet} {c : Char} {cs : List Char} (h : IsChar bs c)
      (hs : IsChars bs' cs) : IsChars (bs ++ bs') (c :: cs)

/-- A string. -/
inductive IsString : List Octet → String → Prop where
  | quoted {bs : List Octet} {s : String} (h : IsChars bs s.toList) :
      IsString (ascii '"' :: (bs ++ [ascii '"'])) s

/-- A written character is a character in a string. -/
theorem isChar_writtenOctets (c : Char) : IsChar (Lexeme.writtenOctets c) c := by
  rw [Lexeme.writtenOctets, writtenChar]
  split
  · next h => rcases h with rfl | rfl <;> exact .escape (by decide)
  split
  · next h => subst h; exact .escape (e := 'b') (by decide)
  split
  · next h => subst h; exact .escape (e := 't') (by decide)
  split
  · next h => subst h; exact .escape (e := 'n') (by decide)
  split
  · next h => subst h; exact .escape (e := 'f') (by decide)
  split
  · next h => subst h; exact .escape (e := 'r') (by decide)
  split
  · next h =>
    obtain ⟨hhex, hoctets⟩ := Lexeme.hexUnit?_written h
    rw [hoctets]
    have hunit := IsChar.unit hhex (.inl (by omega))
    rwa [Char.ofNat_toNat] at hunit
  · next h _ _ _ _ _ hcontrol =>
    obtain ⟨hquote, hbackslash⟩ := not_or.mp h
    rw [List.flatMap_singleton]
    exact .plain hquote hbackslash (Nat.not_lt.mp hcontrol)

/-- A written string is a string. -/
theorem isString_stringText (s : String) : IsString (octets (stringText s)) s := by
  have hchars : ∀ cs : List Char, IsChars (cs.flatMap Lexeme.writtenOctets) cs := by
    intro cs
    induction cs with
    | nil => exact .nil
    | cons c cs ih => exact .cons (isChar_writtenOctets c) ih
  rw [octets_stringText]
  exact .quoted (hchars s.toList)

open Lexeme (ReadAs)

/-- A character in a string is read as pieces which stand for its octets. -/
theorem IsChar.exists_readAs {c : Char} (h : IsChar bs c) :
    ∃ ps, ReadAs bs ps (String.utf8EncodeChar c) := by
  cases h with
  | plain hquote hbackslash hcontrol =>
    exact ⟨_, .plain hquote hbackslash (Nat.not_lt.mpr hcontrol)⟩
  | escape h =>
    have hescapes : ∀ p ∈ escapes,
        Lexeme.escaped? (ascii p.1) = some (ascii p.2) ∧ p.2.toNat < 128 := by decide
    obtain ⟨hescaped, hascii⟩ := hescapes _ h
    exact ⟨_, .escape hescaped hascii⟩
  | unit h hn => exact ⟨_, .unit h hn⟩
  | pair h hn h' hm => exact ⟨_, .pair h hn h' hm⟩

theorem IsChars.exists_readAs {cs : List Char} (h : IsChars bs cs) :
    ∃ ps, ReadAs bs ps (cs.flatMap String.utf8EncodeChar) := by
  induction h with
  | nil => exact ⟨_, .nil⟩
  | cons h _ ih =>
    obtain ⟨ps, hps⟩ := h.exists_readAs
    obtain ⟨ps', hps'⟩ := ih
    exact ⟨_, hps.append hps'⟩

/-- **A string is read as a literal whose text is the string.** -/
theorem IsString.exists_lexeme {s : String} (h : IsString bs s) :
    ∃ lexeme : Lexeme, lexeme.decode = .ok s ∧ SpellsKey bs lexeme := by
  cases h with
  | @quoted bs _ h =>
    obtain ⟨ps, hps⟩ := h.exists_readAs
    refine ⟨⟨ps, .closed⟩, hps.decode, rfl, fun rest => ?_⟩
    rw [List.cons_append, List.append_assoc]
    exact hps.tokens_quoted rest

end LabelFilter.Json
