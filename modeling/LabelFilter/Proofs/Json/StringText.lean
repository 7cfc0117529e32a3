import LabelFilter.Json.Decode
import LabelFilter.Json.Writing
import LabelFilter.Proofs.Json.Lexeme
import LabelFilter.Proofs.Json.Octets
import LabelFilter.Proofs.Rows

/-!
# Written strings are read back

A string that is written as JSON is read as one token, whatever follows it, and the text of the
token is the string again. The induction is on the characters: each of them is read as its own
pieces, and its pieces stand for its octets. That is what any text must do which stands for a
character in a literal, however it is spelled.

## Main definitions

* `Lexeme.written` — the literal that a written string is read as
* `Lexeme.ReadAs` — texts that are read as pieces, and what the pieces stand for

## Main results

* `Lexeme.ReadAs.plain`, `Lexeme.ReadAs.escape`, `Lexeme.ReadAs.unit`, `Lexeme.ReadAs.pair` — the
  spellings of a character
* `tokens_stringText` — a written string is read as its literal
* `Lexeme.decode_written` — the text of this literal is the string
-/

namespace LabelFilter.Json

namespace Lexeme

/-- Whether a character is written by the number of its UTF-16 unit. -/
def isNumbered (c : Char) : Bool :=
  c.toNat < 0x20 && !(c = '\x08' || c = '\t' || c = '\n' || c = '\x0c' || c = '\r')

/-- The pieces that a written character is read as. -/
def writtenPieces (c : Char) : List Piece :=
  if isNumbered c then [.unit c.toNat] else (String.utf8EncodeChar c).map .octet

/-- The literal that a written string is read as. -/
def written (s : String) : Lexeme := ⟨s.toList.flatMap writtenPieces, .closed⟩

/-- The octets of a written character. -/
def writtenOctets (c : Char) : List Octet := (writtenChar c).flatMap String.utf8EncodeChar

/-! ### Pieces -/

theorem scanFrom_plain {bs : List Octet} (h : ∀ b ∈ bs, IsPlain b) (acc : List Piece)
    (rest : List Octet) :
    scanFrom acc (bs ++ rest) = scanFrom ((bs.map .octet).reverse ++ acc) rest := by
  induction bs generalizing acc with
  | nil => rfl
  | cons b bs ih =>
    rw [List.cons_append, scanFrom_octet (h b List.mem_cons_self),
      ih fun b' hb' => h b' (List.mem_cons_of_mem _ hb')]
    simp

theorem ascii_injective {c d : Char} (hc : c.toNat < 128) (hd : d.toNat < 128)
    (h : ascii c = ascii d) : c = d := by
  have hnat := congrArg UInt8.toNat h
  simp only [ascii, Nat.toUInt8, UInt8.toNat_ofNat'] at hnat
  apply Char.toNat_inj.mp
  omega

theorem isPlain_utf8EncodeChar {c : Char} (hquote : c ≠ '"') (hbackslash : c ≠ '\\')
    (hcontrol : ¬ c.toNat < 0x20) : ∀ b ∈ String.utf8EncodeChar c, IsPlain b := by
  intro b hb
  by_cases hc : c.toNat < 128
  · rw [utf8EncodeChar_of_ascii hc, List.mem_singleton] at hb
    subst hb
    refine ⟨fun h => hquote (ascii_injective hc (by decide) h),
      fun h => hbackslash (ascii_injective hc (by decide) h), ?_⟩
    rw [UInt8.lt_iff_toNat_lt]
    simp only [ascii, Nat.toUInt8, UInt8.toNat_ofNat']
    show ¬ _ < 32
    omega
  · have hle := le_of_mem_utf8EncodeChar (by omega) hb
    rw [UInt8.le_iff_toNat_le] at hle
    have hne : ∀ d : Char, d.toNat < 128 → b ≠ ascii d := by
      intro d hd h
      rw [h] at hle
      simp only [ascii, Nat.toUInt8, UInt8.toNat_ofNat'] at hle
      change 128 ≤ _ at hle
      omega
    refine ⟨hne _ (by decide), hne _ (by decide), ?_⟩
    rw [UInt8.lt_iff_toNat_lt, Nat.not_lt]
    exact Nat.le_trans (by decide) hle

theorem octetsFrom_octets (stop : LexemeEnd) (bs acc : List Octet) (ps : List Piece) :
    octetsFrom stop acc (bs.map .octet ++ ps) = octetsFrom stop (bs.reverse ++ acc) ps := by
  induction bs generalizing acc with
  | nil => rfl
  | cons b bs ih =>
    rw [List.map_cons, List.cons_append, octetsFrom, ih]
    simp

/-- A literal that has a text ends at its quote. -/
theorem stop_of_decode {s : Lexeme} {text : String} (h : s.decode = .ok text) :
    s.stop = .closed := by
  have hoctets : ∀ acc ps bs, octetsFrom s.stop acc ps = .ok bs → s.stop = .closed := by
    intro acc ps bs h
    fun_induction octetsFrom s.stop acc ps <;> simp_all
  obtain ⟨bs, hbs, -⟩ := bind_eq_ok_iff.mp (mapError_eq_ok_iff.mp h)
  exact hoctets _ _ bs hbs

/-- A text is read as pieces which stand for some octets, whatever comes before and after. -/
structure ReadAs (bs : List Octet) (ps : List Piece) (text : List Octet) : Prop where
  scan : ∀ acc rest, scanFrom acc (bs ++ rest) = scanFrom (ps.reverse ++ acc) rest
  octets : ∀ acc ps', octetsFrom .closed acc (ps ++ ps') =
    octetsFrom .closed (text.reverse ++ acc) ps'

namespace ReadAs

variable {bs bs' text text' : List Octet} {ps ps' : List Piece}

theorem nil : ReadAs [] [] [] := ⟨fun _ _ => rfl, fun _ _ => rfl⟩

theorem append (h : ReadAs bs ps text) (h' : ReadAs bs' ps' text') :
    ReadAs (bs ++ bs') (ps ++ ps') (text ++ text') where
  scan acc rest := by
    rw [List.append_assoc, h.scan, h'.scan, List.reverse_append, List.append_assoc]
  octets acc rest := by
    rw [List.append_assoc, h.octets, h'.octets, List.reverse_append, List.append_assoc]

/-- A character that stands for itself. -/
theorem plain {c : Char} (hquote : c ≠ '"') (hbackslash : c ≠ '\\') (hcontrol : ¬ c.toNat < 0x20) :
    ReadAs (String.utf8EncodeChar c) ((String.utf8EncodeChar c).map .octet)
      (String.utf8EncodeChar c) :=
  ⟨scanFrom_plain (isPlain_utf8EncodeChar hquote hbackslash hcontrol), octetsFrom_octets .closed _⟩

/-- A character that is escaped with a letter. -/
theorem escape {e c : Char} (h : escaped? (ascii e) = some (ascii c)) (hc : c.toNat < 128) :
    ReadAs [ascii '\\', ascii e] [.octet (ascii c)] (String.utf8EncodeChar c) := by
  rw [utf8EncodeChar_of_ascii hc]
  exact ⟨scanFrom_escape h, fun _ _ => rfl⟩

/-- A character that is written by its UTF-16 unit. -/
theorem unit {h₁ h₂ h₃ h₄ : Octet} {n : Nat} (h : hexUnit? h₁ h₂ h₃ h₄ = some n)
    (hn : n < 0xd800 ∨ 0xdfff < n) :
    ReadAs [ascii '\\', ascii 'u', h₁, h₂, h₃, h₄] [.unit n] (utf8 n) where
  scan := scanFrom_unit h
  octets acc ps := by
    have htrailing : isTrailing n = false := by
      simp only [isTrailing, Bool.and_eq_false_iff, decide_eq_false_iff_not]
      omega
    have hleading : isLeading n = false := by
      simp only [isLeading, Bool.and_eq_false_iff, decide_eq_false_iff_not]
      omega
    rw [List.singleton_append, octetsFrom.eq_def]
    simp [htrailing, hleading]

/-- A character that is written by a pair of UTF-16 units. -/
theorem pair {h₁ h₂ h₃ h₄ h₅ h₆ h₇ h₈ : Octet} {n m : Nat}
    (h : hexUnit? h₁ h₂ h₃ h₄ = some n) (hn : 0xd800 ≤ n ∧ n ≤ 0xdbff)
    (h' : hexUnit? h₅ h₆ h₇ h₈ = some m) (hm : 0xdc00 ≤ m ∧ m ≤ 0xdfff) :
    ReadAs [ascii '\\', ascii 'u', h₁, h₂, h₃, h₄, ascii '\\', ascii 'u', h₅, h₆, h₇, h₈]
      [.unit n, .unit m] (utf8 (paired n m)) where
  scan acc rest := (scanFrom_unit h acc _).trans (scanFrom_unit h' _ rest)
  octets acc ps := by
    have htrailing : isTrailing n = false := by
      simp only [isTrailing, Bool.and_eq_false_iff, decide_eq_false_iff_not]
      omega
    have hleading : isLeading n = true := by simp [isLeading, hn]
    have hlast : isTrailing m = true := by simp [isTrailing, hm]
    rw [List.cons_append, List.singleton_append, octetsFrom.eq_def]
    simp [htrailing, hleading, hlast]

/-- The inside of a literal, up to its quote. -/
theorem scan_quote (h : ReadAs bs ps text) (rest : List Octet) :
    Lexeme.scan (bs ++ ascii '"' :: rest) = (⟨ps, .closed⟩, rest) := by
  rw [Lexeme.scan, h.scan, scanFrom_quote, List.append_nil, List.reverse_reverse]

/-- The text of a literal. -/
theorem decode {s : String} (h : ReadAs bs ps (Json.octets s)) :
    Lexeme.decode ⟨ps, .closed⟩ = .ok s := by
  have hoctets : Lexeme.octets ⟨ps, .closed⟩ = .ok (Json.octets s) := by
    have hps := h.octets [] []
    rw [List.append_nil, List.append_nil] at hps
    rw [Lexeme.octets, hps, octetsFrom, if_pos rfl, List.reverse_reverse]
  rw [Lexeme.decode, Lexeme.text, hoctets]
  simp only [bind, Except.bind, decodeUtf8?_octets]
  rfl

/-- A literal is one token, whatever follows it. -/
theorem tokens_quoted (h : ReadAs bs ps text) (rest : List Octet) :
    tokens (ascii '"' :: (bs ++ ascii '"' :: rest)) = .string ⟨ps, .closed⟩ :: tokens rest := by
  have hnext : Token.next (ascii '"') (bs ++ ascii '"' :: rest) =
      (.string ⟨ps, .closed⟩, some rest) := by
    show Token.quote _ = _
    rw [Token.quote, h.scan_quote]
    rfl
  exact tokens_cons (by decide) hnext

end ReadAs

/-! ### Written strings -/

/-- The number of a control character, as it is written. -/
theorem hexUnit?_written {c : Char} (h : c.toNat < 0x20) :
    hexUnit? (ascii '0') (ascii '0') (ascii (hexDigit (c.toNat / 16))) (ascii (hexDigit c.toNat)) =
        some c.toNat ∧
      ['\\', 'u', '0', '0', hexDigit (c.toNat / 16), hexDigit c.toNat].flatMap
          String.utf8EncodeChar =
        [ascii '\\', ascii 'u', ascii '0', ascii '0', ascii (hexDigit (c.toNat / 16)),
          ascii (hexDigit c.toNat)] := by
  have hall : ∀ n < 0x20, hexUnit? (ascii '0') (ascii '0') (ascii (hexDigit (n / 16)))
      (ascii (hexDigit n)) = some n ∧ (hexDigit (n / 16)).toNat < 128 ∧
        (hexDigit n).toNat < 128 := by decide
  obtain ⟨hhex, hhigh, hlow⟩ := hall _ h
  refine ⟨hhex, ?_⟩
  simp only [List.flatMap_cons, List.flatMap_nil, utf8EncodeChar_of_ascii hhigh,
    utf8EncodeChar_of_ascii hlow]
  rfl

/-- A written character is read as its pieces. -/
theorem readAs_written (c : Char) :
    ReadAs (writtenOctets c) (writtenPieces c) (String.utf8EncodeChar c) := by
  rw [writtenOctets, writtenChar]
  split
  · next h => rcases h with rfl | rfl <;> exact .escape rfl (by decide)
  split
  · next h => subst h; exact .escape rfl (by decide)
  split
  · next h => subst h; exact .escape rfl (by decide)
  split
  · next h => subst h; exact .escape rfl (by decide)
  split
  · next h => subst h; exact .escape rfl (by decide)
  split
  · next h => subst h; exact .escape rfl (by decide)
  split
  · next h₁ h₂ h₃ h₄ h₅ h₆ h =>
    have hnumbered : isNumbered c = true := by simp [isNumbered, *]
    obtain ⟨hhex, hoctets⟩ := hexUnit?_written h
    have hunit := ReadAs.unit hhex (.inl (by omega))
    rw [utf8, Char.ofNat_toNat] at hunit
    rwa [hoctets, writtenPieces, if_pos hnumbered]
  · next h₁ h₂ h₃ h₄ h₅ h₆ h =>
    have hnumbered : ¬ isNumbered c = true := by simp [isNumbered, h]
    obtain ⟨hquote, hbackslash⟩ := not_or.mp h₁
    rw [List.flatMap_singleton, writtenPieces, if_neg hnumbered]
    exact .plain hquote hbackslash h

/-- A written string is read as its pieces. -/
theorem readAs_writtenString (s : String) :
    ReadAs (s.toList.flatMap writtenOctets) (written s).pieces (Json.octets s) := by
  have key : ∀ cs : List Char, ReadAs (cs.flatMap writtenOctets) (cs.flatMap writtenPieces)
      (cs.flatMap String.utf8EncodeChar) := by
    intro cs
    induction cs with
    | nil => exact .nil
    | cons c cs ih => exact (readAs_written c).append ih
  exact key s.toList

/-- The text of the literal of a written string is the string. -/
theorem decode_written (s : String) : (written s).decode = .ok s :=
  (readAs_writtenString s).decode

end Lexeme

theorem octets_stringText (s : String) : octets (stringText s) =
    ascii '"' :: (s.toList.flatMap Lexeme.writtenOctets ++ [ascii '"']) := by
  rw [stringText, octets_ofList, List.flatMap_cons, List.flatMap_append, List.flatMap_assoc]
  rfl

/-- A written string is one token, whatever follows it. -/
theorem tokens_stringText (s : String) (rest : List Octet) :
    tokens (octets (stringText s) ++ rest) = .string (.written s) :: tokens rest := by
  rw [octets_stringText, List.cons_append, List.append_assoc]
  exact (Lexeme.readAs_writtenString s).tokens_quoted rest

end LabelFilter.Json
