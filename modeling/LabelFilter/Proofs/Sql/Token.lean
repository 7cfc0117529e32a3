import Mathlib.Data.List.Chain
import LabelFilter.Proofs.Rows
import LabelFilter.Proofs.Sql.Quotation

/-!
# Tokens of SQL

The lexers of the dialects, as far as predicates and sub-queries need them: bare words, quoted
names, string literals and marks, with blanks between them. Anything else, such as the beginning
of a comment, is no token, and a text that has any of it has no tokens at all.

A text that is put together from tokens can be cut at other places than it was put together at: a
word runs on into a letter, a literal into a quote. A `Piece` is a token or a blank, and a row of
pieces in which no two solid tokens touch is cut where it was put together.

## Main definitions

* `Sql.Token`, `Token.next`, `Sql.tokens` — tokens, and cutting a text into them
* `Token.written` — how a token is written
* `Sql.Piece`, `Sql.layout` — texts that are put together from tokens and blanks
* `Sql.WellSpaced` — rows of pieces that stay apart

## Main results

* `tokens_written` — a token that is written is read
* `tokens_layout` — the tokens of a well-spaced layout are the ones it was made of
-/

namespace LabelFilter.Sql

/-! ### The lexers -/

/-- Marks between words. -/
inductive Mark where
  | openParen
  | closeParen
  | openBracket
  | closeBracket
  | comma
  | dot
  | equal
  | notEqual
  deriving DecidableEq, Repr

/-- How a mark is written. -/
def Mark.chars : Mark → List Char
  | .openParen => ['(']
  | .closeParen => [')']
  | .openBracket => ['[']
  | .closeBracket => [']']
  | .comma => [',']
  | .dot => ['.']
  | .equal => ['=']
  | .notEqual => ['!', '=']

/-- The mark that one character is. -/
def Mark.ofChar? : Char → Option Mark
  | '(' => some .openParen
  | ')' => some .closeParen
  | '[' => some .openBracket
  | ']' => some .closeBracket
  | ',' => some .comma
  | '.' => some .dot
  | '=' => some .equal
  | _ => none

/-- Tokens. Whether a bare word is a keyword or a name is decided where it stands. -/
inductive Token where
  | word (w : String)
  /-- A name between quote characters, without them. -/
  | name (s : String)
  /-- The text that a string literal stands for. -/
  | text (s : String)
  | mark (m : Mark)
  deriving DecidableEq, Repr

/-- White space between tokens. -/
def isBlank (c : Char) : Bool := c = ' ' || c = '\t' || c = '\n' || c = '\r'

namespace Token

/-- The rest of a quotation whose opening quote has been read. -/
def quoted (make : String → Token) (q : Quotation) (cs : List Char) :
    Option (Token × List Char) :=
  (q.scan cs).map fun p => (make (String.ofList p.1), p.2)

/-- The token that begins with the character `c`, and the text after it. -/
def next (d : Dialect) (c : Char) (cs : List Char) : Option (Token × List Char) :=
  match Mark.ofChar? c with
  | some m => some (.mark m, cs)
  | none =>
    if c = '!' then
      match cs with
      | '=' :: cs => some (.mark .notEqual, cs)
      | _ => none
    else if c = '\'' then quoted .text d.quoting.quotation cs
    else if c = d.nameQuote then quoted .name (nameQuotation d.nameQuote d.quoting) cs
    else if isPlainStart c then
      some (.word (String.ofList (c :: cs.takeWhile isPlainRest)), cs.dropWhile isPlainRest)
    else none

theorem quoted_eq {make : String → Token} {q : Quotation} {s : String} {cs rest : List Char}
    (h : q.scan cs = some (s.toList, rest)) : quoted make q cs = some (make s, rest) := by
  simp [quoted, h]

theorem length_quoted {make : String → Token} {q : Quotation} {cs rest : List Char} {t : Token}
    (h : quoted make q cs = some (t, rest)) : rest.length ≤ cs.length := by
  obtain ⟨⟨s, rest'⟩, hs, hp⟩ := Option.map_eq_some_iff.mp h
  cases hp
  exact Nat.le_of_lt (Quotation.length_scan hs)

theorem length_next {d : Dialect} {c : Char} {cs rest : List Char} {t : Token}
    (h : next d c cs = some (t, rest)) : rest.length ≤ cs.length := by
  unfold next at h
  repeat' split at h
  all_goals first
    | exact length_quoted h
    | (cases h <;> first | exact (List.dropWhile_suffix _).length_le | simp)

end Token

/-- The tokens of a text, if it is made of tokens and blanks. -/
def tokens (d : Dialect) : List Char → Option (List Token)
  | [] => some []
  | c :: cs =>
    if isBlank c then tokens d cs
    else
      match _h : Token.next d c cs with
      | some (t, rest) => (tokens d rest).map (t :: ·)
      | none => none
termination_by cs => cs.length
decreasing_by
  · simp
  · exact Nat.lt_succ_of_le (Token.length_next _h)

section

variable {d : Dialect} {c : Char} {cs rest : List Char} {t : Token}

@[simp] theorem tokens_nil : tokens d [] = some [] := by
  rw [tokens]

theorem tokens_cons_of_isBlank (h : isBlank c = true) : tokens d (c :: cs) = tokens d cs := by
  rw [tokens, if_pos h]

theorem tokens_cons (hc : isBlank c = false) (h : Token.next d c cs = some (t, rest)) :
    tokens d (c :: cs) = (tokens d rest).map (t :: ·) := by
  rw [tokens, if_neg (by simp [hc])]
  split
  · next h' =>
    cases h.symm.trans h'
    rfl
  · next h' => cases h.symm.trans h'

end

/-! ### Written tokens -/

namespace Token

/-- How a token is written in a dialect. -/
def written (d : Dialect) : Token → List Char
  | .word w => w.toList
  | .name s => quotedName d.nameQuote d.quoting s.toList
  | .text s => (d.literal s).toList
  | .mark m => m.chars

@[simp] theorem written_word (d : Dialect) (w : String) : (word w).written d = w.toList := rfl

@[simp] theorem written_text (d : Dialect) (s : String) :
    (text s).written d = (d.literal s).toList := rfl

@[simp] theorem written_mark (d : Dialect) (m : Mark) : (mark m).written d = m.chars := rfl

/-- Whether a token can run on into the text after it. -/
def solid : Token → Bool
  | .mark _ => false
  | _ => true

/-- Words are plain. -/
def Valid : Token → Prop
  | .word w => isPlain w = true
  | _ => True

instance : DecidablePred Valid := fun t => by
  cases t <;> (unfold Valid; infer_instance)

end Token

/-- Whether no solid token runs on into a text. -/
def Apart (d : Dialect) (rest : List Char) : Prop :=
  ∀ c ∈ rest.head?, isPlainRest c = false ∧ c ≠ '\'' ∧ c ≠ d.nameQuote

theorem apart_nil (d : Dialect) : Apart d [] := nofun

section

variable {d : Dialect} {rest : List Char}

theorem Apart.takeWhile_eq_nil (h : Apart d rest) : rest.takeWhile isPlainRest = [] := by
  cases rest with
  | nil => rfl
  | cons c cs => simp [(h c rfl).1]

theorem Apart.dropWhile_eq (h : Apart d rest) : rest.dropWhile isPlainRest = rest := by
  cases rest with
  | nil => rfl
  | cons c cs => simp [(h c rfl).1]

theorem Apart.head?_ne_quote (h : Apart d rest) : rest.head? ≠ some '\'' := fun hc =>
  (h _ hc).2.1 rfl

theorem Apart.head?_ne_nameQuote (h : Apart d rest) : rest.head? ≠ some d.nameQuote := fun hc =>
  (h _ hc).2.2 rfl

theorem nameQuote_ne_backslash (d : Dialect) : '\\' ≠ d.nameQuote := by
  cases d <;> decide

theorem next_quote (d : Dialect) (cs : List Char) :
    Token.next d '\'' cs = Token.quoted .text d.quoting.quotation cs := rfl

theorem next_nameQuote (d : Dialect) (cs : List Char) :
    Token.next d d.nameQuote cs =
      Token.quoted .name (nameQuotation d.nameQuote d.quoting) cs := by
  cases d <;> rfl

theorem next_word {c : Char} (hc : isPlainStart c = true) (cs : List Char) :
    Token.next d c cs =
      some (.word (String.ofList (c :: cs.takeWhile isPlainRest)), cs.dropWhile isPlainRest) := by
  have hmark : Mark.ofChar? c = none := by
    unfold Mark.ofChar?
    split <;> first | rfl | exact absurd hc (by decide)
  have hne : ∀ e, isPlainStart e = false → c ≠ e := by
    rintro e he rfl
    simp [hc] at he
  have hname : c ≠ d.nameQuote := hne _ (by cases d <;> decide)
  simp [Token.next, hmark, hne '!' (by decide), hne '\'' (by decide), hname, hc]

theorem tokens_text (s : String) (h : Apart d rest) :
    tokens d ((d.literal s).toList ++ rest) = (tokens d rest).map (.text s :: ·) := by
  have hscan := scan_literal d.quoting s.toList h.head?_ne_quote
  rw [Dialect.literal, toList_literal, List.cons_append, List.append_assoc, List.singleton_append]
  exact tokens_cons (by decide) ((next_quote d _).trans (Token.quoted_eq hscan))

theorem tokens_name (s : String) (h : Apart d rest) :
    tokens d (quotedName d.nameQuote d.quoting s.toList ++ rest) =
      (tokens d rest).map (.name s :: ·) := by
  have hscan := scan_quotedName (nameQuote_ne_backslash d) d.quoting s.toList
    h.head?_ne_nameQuote
  rw [quotedName, List.cons_append, List.append_assoc, List.singleton_append]
  exact tokens_cons (by cases d <;> decide) ((next_nameQuote d _).trans (Token.quoted_eq hscan))

theorem tokens_word {w : String} (hw : isPlain w = true) (h : Apart d rest) :
    tokens d (w.toList ++ rest) = (tokens d rest).map (.word w :: ·) := by
  obtain ⟨cs, rfl⟩ : ∃ cs, w = String.ofList cs := ⟨w.toList, by simp⟩
  rw [String.toList_ofList]
  cases cs with
  | nil => cases hw
  | cons c cs =>
    simp only [isPlain, String.toList_ofList, isPlainChars, Bool.and_eq_true, List.all_eq_true]
      at hw
    obtain ⟨hc, hcs⟩ := hw
    have hblank : isBlank c = false := by
      cases hb : isBlank c with
      | false => rfl
      | true =>
        simp only [isBlank, Bool.or_eq_true, decide_eq_true_eq] at hb
        obtain ((rfl | rfl) | rfl) | rfl := hb <;> exact absurd hc (by decide)
    refine (tokens_cons (t := .word (String.ofList (c :: cs))) hblank ?_)
    rw [List.append_eq, next_word hc, List.takeWhile_append_of_pos hcs,
      List.dropWhile_append_of_pos hcs, h.takeWhile_eq_nil, h.dropWhile_eq, List.append_nil]

theorem tokens_mark (m : Mark) (rest : List Char) :
    tokens d (m.chars ++ rest) = (tokens d rest).map (.mark m :: ·) := by
  cases m <;> exact tokens_cons (by decide) rfl

/-- A token that is written is read, unless it runs on into the text after it. -/
theorem tokens_written {t : Token} (ht : t.Valid) (h : t.solid = true → Apart d rest) :
    tokens d (t.written d ++ rest) = (tokens d rest).map (t :: ·) := by
  cases t with
  | word w => exact tokens_word ht (h rfl)
  | name s => exact tokens_name s (h rfl)
  | text s => exact tokens_text s (h rfl)
  | mark m => exact tokens_mark m rest

end

/-! ### Layouts -/

/-- What a text is put together from. -/
inductive Piece where
  | blank
  | token (t : Token)

namespace Piece

/-- How a piece is written. -/
def written (d : Dialect) : Piece → List Char
  | .blank => [' ']
  | .token t => t.written d

@[simp] theorem written_blank (d : Dialect) : blank.written d = [' '] := rfl

@[simp] theorem written_token (d : Dialect) (t : Token) : (token t).written d = t.written d := rfl

/-- The token that a piece is. -/
def token? : Piece → Option Token
  | .blank => none
  | .token t => some t

/-- Whether a piece can run on into the text after it. -/
def solid : Piece → Bool
  | .blank => false
  | .token t => t.solid

/-- Whether one piece may stand right before another one. -/
def Before (p p' : Piece) : Prop := p.solid = true → p'.solid = false

theorem before_of_not_solid {p p' : Piece} (h : p.solid = false) : p.Before p' :=
  fun hp => absurd (h.symm.trans hp) Bool.false_ne_true

/-- Words are plain. -/
def Valid : Piece → Prop
  | .blank => True
  | .token t => t.Valid

theorem apart_written {p : Piece} (h : p.solid = false) (d : Dialect) (rest : List Char) :
    Apart d (p.written d ++ rest) := by
  have key : ∀ c cs, (isPlainRest c = false ∧ c ≠ '\'' ∧ c ≠ d.nameQuote) → Apart d (c :: cs) := by
    rintro c cs hc e ⟨⟩
    exact hc
  cases p with
  | blank => exact key _ _ (by cases d <;> decide)
  | token t =>
    cases t with
    | mark m => cases m <;> exact key _ _ (by cases d <;> decide)
    | _ => cases h

end Piece

/-- A text that is put together from pieces. -/
def layout (d : Dialect) (ps : List Piece) : List Char := ps.flatMap (Piece.written d)

/-- The tokens among pieces. -/
def tokensOf (ps : List Piece) : List Token := ps.filterMap Piece.token?

@[simp] theorem layout_nil (d : Dialect) : layout d [] = [] := rfl

@[simp] theorem layout_cons (d : Dialect) (p : Piece) (ps : List Piece) :
    layout d (p :: ps) = p.written d ++ layout d ps := rfl

@[simp] theorem layout_append (d : Dialect) (ps qs : List Piece) :
    layout d (ps ++ qs) = layout d ps ++ layout d qs := List.flatMap_append

@[simp] theorem tokensOf_nil : tokensOf [] = [] := rfl

@[simp] theorem tokensOf_blank (ps : List Piece) : tokensOf (.blank :: ps) = tokensOf ps := rfl

@[simp] theorem tokensOf_token (t : Token) (ps : List Piece) :
    tokensOf (.token t :: ps) = t :: tokensOf ps := rfl

@[simp] theorem tokensOf_append (ps qs : List Piece) :
    tokensOf (ps ++ qs) = tokensOf ps ++ tokensOf qs := List.filterMap_append

/-- Pieces that stay apart. -/
structure WellSpaced (ps : List Piece) : Prop where
  chain : ps.IsChain Piece.Before
  valid : ∀ p ∈ ps, p.Valid

/-- **The tokens of a layout** are the ones that it was made of, whatever follows it. -/
theorem tokens_layout_append {d : Dialect} {ps : List Piece} (h : WellSpaced ps) {rest : List Char}
    (hlast : ∀ p ∈ ps.getLast?, p.solid = true → Apart d rest) :
    tokens d (layout d ps ++ rest) = (tokens d rest).map (tokensOf ps ++ ·) := by
  induction ps with
  | nil => simp [layout, tokensOf]
  | cons p ps ih =>
    have hps : WellSpaced ps := ⟨h.chain.tail, fun q hq => h.valid q (List.mem_cons_of_mem _ hq)⟩
    have hapart : p.solid = true → Apart d (layout d ps ++ rest) := by
      intro hp
      cases ps with
      | nil => exact hlast p rfl hp
      | cons q qs =>
        rw [layout_cons, List.append_assoc]
        exact Piece.apart_written ((List.isChain_cons_cons.mp h.chain).1 hp) d _
    have hrest := ih hps fun q hq => hlast q (by
      cases ps with
      | nil => cases hq
      | cons _ _ => rwa [List.getLast?_cons_cons])
    rw [layout_cons, List.append_assoc]
    cases p with
    | blank => exact (tokens_cons_of_isBlank (by decide)).trans hrest
    | token t =>
      rw [Piece.written, tokens_written (h.valid _ List.mem_cons_self) hapart, hrest,
        Option.map_map]
      rfl

theorem tokens_layout {d : Dialect} {ps : List Piece} (h : WellSpaced ps) :
    tokens d (layout d ps) = some (tokensOf ps) := by
  have := tokens_layout_append h fun _ _ _ => apart_nil d
  simpa using this

/-! ### Spacing -/

theorem layout_intercalate (d : Dialect) (sep : List Piece) (pss : List (List Piece)) :
    layout d (sep.intercalate pss) = (layout d sep).intercalate (pss.map (layout d)) :=
  map_intercalate (layout_nil d) (layout_append d) sep pss

theorem tokensOf_intercalate (sep : List Piece) (pss : List (List Piece)) :
    tokensOf (sep.intercalate pss) = (tokensOf sep).intercalate (pss.map tokensOf) :=
  map_intercalate tokensOf_nil tokensOf_append sep pss

namespace WellSpaced

theorem nil : WellSpaced [] := ⟨.nil, nofun⟩

theorem cons {p : Piece} {ps : List Piece} (hv : p.Valid) (hp : ∀ q ∈ ps.head?, p.Before q)
    (h : WellSpaced ps) : WellSpaced (p :: ps) where
  chain := List.isChain_cons.mpr ⟨hp, h.chain⟩
  valid := List.forall_mem_cons.mpr ⟨hv, h.valid⟩

/-- Two rows stay apart if the second one does not begin with a solid token. -/
theorem append_of_head {ps qs : List Piece} (hp : WellSpaced ps) (hq : WellSpaced qs)
    (h : ∀ q ∈ qs.head?, q.solid = false) : WellSpaced (ps ++ qs) where
  chain := List.isChain_append.mpr ⟨hp.chain, hq.chain, fun _ _ q hq _ => h q hq⟩
  valid := List.forall_mem_append.mpr ⟨hp.valid, hq.valid⟩

/-- Two rows stay apart if the first one does not end with a solid token. -/
theorem append_of_last {ps qs : List Piece} (hp : WellSpaced ps) (hq : WellSpaced qs)
    (h : ∀ p ∈ ps.getLast?, p.solid = false) : WellSpaced (ps ++ qs) where
  chain := List.isChain_append.mpr
    ⟨hp.chain, hq.chain, fun p hp _ _ hs => absurd (hs.symm.trans (h p hp)) (by simp)⟩
  valid := List.forall_mem_append.mpr ⟨hp.valid, hq.valid⟩

theorem blank {ps : List Piece} (h : WellSpaced ps) : WellSpaced (.blank :: ps) :=
  .cons trivial (fun _ _ => Piece.before_of_not_solid rfl) h

theorem single {p : Piece} (hp : p.Valid) : WellSpaced [p] := ⟨.singleton p, by simpa using hp⟩

theorem word_blank {w : String} (hw : isPlain w = true) {ps : List Piece} (h : WellSpaced ps) :
    WellSpaced (.token (.word w) :: .blank :: ps) :=
  .cons hw (by simp [Piece.Before, Piece.solid]) h.blank

theorem between_marks {ps : List Piece} (h : WellSpaced ps) (m m' : Mark) :
    WellSpaced (.token (.mark m) :: (ps ++ [.token (.mark m')])) :=
  .cons trivial (fun _ _ => Piece.before_of_not_solid rfl)
    (h.append_of_head (.cons trivial nofun .nil) (by simp [Piece.solid, Token.solid]))

end WellSpaced

/-- Pieces that can stand between any two rows. -/
structure Separates (sep : List Piece) : Prop where
  spaced : WellSpaced sep
  head : ∀ p ∈ sep.head?, p.solid = false
  last : ∀ p ∈ sep.getLast?, p.solid = false
  ne_nil : sep ≠ []

theorem Separates.between {sep ps qs : List Piece} (h : Separates sep) (hp : WellSpaced ps)
    (hq : WellSpaced qs) : WellSpaced (ps ++ sep ++ qs) := by
  obtain ⟨p, sep', rfl⟩ := List.exists_cons_of_ne_nil h.ne_nil
  rw [List.append_assoc]
  exact hp.append_of_head (h.spaced.append_of_last hq h.last) h.head

theorem Separates.intercalate {sep : List Piece} (h : Separates sep) {pss : List (List Piece)}
    (hs : ∀ ps ∈ pss, WellSpaced ps) : WellSpaced (sep.intercalate pss) := by
  induction pss with
  | nil => exact .nil
  | cons ps pss ih =>
    have hps := hs ps List.mem_cons_self
    have hpss := ih fun qs hqs => hs qs (List.mem_cons_of_mem _ hqs)
    cases pss with
    | nil => simpa using hps
    | cons qs pss =>
      rw [List.intercalate_cons_cons]
      exact h.between hps hpss

end LabelFilter.Sql
