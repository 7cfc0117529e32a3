import LabelFilter.Json.Lexeme
import LabelFilter.Json.Number

/-!
# Tokens of JSON text

A text is cut into tokens up to its end or to the first place where no token can be read.

## Main definitions

* `Json.Token` — the tokens; `Json.Slip` — why none can be read
* `Token.next` — the token at the start of a text
* `Token.Sound` — tokens that do not go wrong
* `Json.tokens` — the tokens of a text

## Main results

* `Token.next_cases` — the first octet decides how a token is read
* `Token.length_next` — reading a token uses up text
* `tokens_cons` — the tokens of a text are its first one and those of the rest
-/

namespace LabelFilter.Json

/-- The words. -/
inductive Word where
  | null
  | true
  | false
  deriving DecidableEq, Repr

/-- The letters of a word after its first one. -/
def Word.tail : Word → List Octet
  | .null => "ull".toList.map ascii
  | .true => "rue".toList.map ascii
  | .false => "alse".toList.map ascii

/-- What is wrong with a word. -/
inductive WordSlip where
  /-- The text ends inside the word. -/
  | cut
  /-- The word begins like one of the words and goes on otherwise. -/
  | misspelt
  deriving DecidableEq, Repr

/-- Why no token can be read. -/
inductive Slip where
  /-- No token begins with the character. -/
  | stray
  | word (w : Word) (slip : WordSlip)
  | number (slip : NumberSlip)
  deriving DecidableEq, Repr

/-- The tokens. A string literal that goes wrong, and a `broken` token, are the last ones. -/
inductive Token where
  | openList
  | closeList
  | openObject
  | closeObject
  | comma
  | colon
  | word (w : Word)
  | number (n : Number)
  | string (s : Lexeme)
  | broken (slip : Slip)
  deriving DecidableEq, Repr

namespace Token

/-- The letters `ws` at the start of a text, and the text after them. -/
def letters : List Octet → List Octet → Except WordSlip (List Octet)
  | [], bs => .ok bs
  | _ :: _, [] => .error .cut
  | w :: ws, b :: bs => if w = b then letters ws bs else .error .misspelt

/-- The token of a word whose first letter has been read. -/
def keyword (w : Word) (rest : List Octet) : Token × Option (List Octet) :=
  match letters w.tail rest with
  | .ok rest => (.word w, some rest)
  | .error slip => (.broken (.word w slip), none)

/-- The token of a string literal whose opening quote has been read. -/
def quote (rest : List Octet) : Token × Option (List Octet) :=
  match Lexeme.scan rest with
  | (s, rest) => (.string s, if s.stop = .closed then some rest else none)

/-- The token of a number. -/
def numeral (bs : List Octet) : Token × Option (List Octet) :=
  match Number.scan bs with
  | .ok (n, rest) => (.number n, some rest)
  | .error slip => (.broken (.number slip), none)

/-- The token that begins with the octet `b`, and the text after it; no text is left for a token
that goes wrong. -/
def next (b : Octet) (rest : List Octet) : Token × Option (List Octet) :=
  if b = ascii '[' then (.openList, some rest)
  else if b = ascii ']' then (.closeList, some rest)
  else if b = ascii '\x7b' then (.openObject, some rest)
  else if b = ascii '\x7d' then (.closeObject, some rest)
  else if b = ascii ',' then (.comma, some rest)
  else if b = ascii ':' then (.colon, some rest)
  else if b = ascii '"' then quote rest
  else if b = ascii 'n' then keyword .null rest
  else if b = ascii 't' then keyword .true rest
  else if b = ascii 'f' then keyword .false rest
  else if b = ascii '-' || isDigit b then numeral (b :: rest)
  else (.broken .stray, none)

/-- Whether a token does not go wrong. -/
def Sound : Token → Prop
  | .string s => s.stop = .closed
  | .broken _ => False
  | _ => True

/-- What a token is read as is decided by its first octet. -/
theorem next_cases (b : Octet) :
    (∃ t : Token, t.Sound ∧ ∀ bs, next b bs = (t, some bs)) ∨
      (∀ bs, next b bs = quote bs) ∨ (∃ w, ∀ bs, next b bs = keyword w bs) ∨
      (∀ bs, next b bs = numeral (b :: bs)) ∨ ∀ bs, next b bs = (.broken .stray, none) := by
  by_cases h₁ : b = ascii '['
  · exact .inl ⟨.openList, trivial, fun _ => h₁ ▸ rfl⟩
  by_cases h₂ : b = ascii ']'
  · exact .inl ⟨.closeList, trivial, fun _ => h₂ ▸ rfl⟩
  by_cases h₃ : b = ascii '\x7b'
  · exact .inl ⟨.openObject, trivial, fun _ => h₃ ▸ rfl⟩
  by_cases h₄ : b = ascii '\x7d'
  · exact .inl ⟨.closeObject, trivial, fun _ => h₄ ▸ rfl⟩
  by_cases h₅ : b = ascii ','
  · exact .inl ⟨.comma, trivial, fun _ => h₅ ▸ rfl⟩
  by_cases h₆ : b = ascii ':'
  · exact .inl ⟨.colon, trivial, fun _ => h₆ ▸ rfl⟩
  by_cases h₇ : b = ascii '"'
  · exact .inr (.inl fun _ => h₇ ▸ rfl)
  by_cases h₈ : b = ascii 'n'
  · exact .inr (.inr (.inl ⟨.null, fun _ => h₈ ▸ rfl⟩))
  by_cases h₉ : b = ascii 't'
  · exact .inr (.inr (.inl ⟨.true, fun _ => h₉ ▸ rfl⟩))
  by_cases h₁₀ : b = ascii 'f'
  · exact .inr (.inr (.inl ⟨.false, fun _ => h₁₀ ▸ rfl⟩))
  have hnext : ∀ bs, next b bs =
      if b = ascii '-' || isDigit b then numeral (b :: bs) else (.broken .stray, none) := by
    intro bs
    rw [next, if_neg h₁, if_neg h₂, if_neg h₃, if_neg h₄, if_neg h₅, if_neg h₆, if_neg h₇,
      if_neg h₈, if_neg h₉, if_neg h₁₀]
  by_cases h₁₁ : (b = ascii '-' || isDigit b) = true
  · exact .inr (.inr (.inr (.inl fun bs => by rw [hnext, if_pos h₁₁])))
  · exact .inr (.inr (.inr (.inr fun bs => by rw [hnext, if_neg h₁₁])))

theorem length_letters {ws bs rest : List Octet} (h : letters ws bs = .ok rest) :
    rest.length ≤ bs.length := by
  induction ws generalizing bs with
  | nil => simp only [letters, Except.ok.injEq] at h; simp [h]
  | cons w ws ih =>
    cases bs with
    | nil => simp [letters] at h
    | cons b bs =>
      simp only [letters] at h
      split at h
      · exact Nat.le_succ_of_le (ih h)
      · simp at h

theorem length_keyword {w : Word} {t : Token} {bs rest : List Octet}
    (h : keyword w bs = (t, some rest)) : rest.length ≤ bs.length := by
  unfold keyword at h
  split at h
  · next hw =>
    cases h
    exact length_letters hw
  · cases h

theorem length_quote {t : Token} {bs rest : List Octet} (h : quote bs = (t, some rest)) :
    rest.length ≤ bs.length := by
  have hscan := Lexeme.length_scan bs
  unfold quote at h
  split at h
  next hs =>
    rw [hs] at hscan
    split at h
    · cases h
      exact hscan
    · cases h

theorem length_numeral {t : Token} {bs rest : List Octet} (h : numeral bs = (t, some rest)) :
    rest.length < bs.length := by
  unfold numeral at h
  split at h
  · next hs =>
    cases h
    exact Number.length_scan hs
  · cases h

theorem length_next {b : Octet} {bs rest : List Octet} {t : Token}
    (h : next b bs = (t, some rest)) : rest.length ≤ bs.length := by
  rcases next_cases b with ⟨t', -, hb⟩ | hb | ⟨w, hb⟩ | hb | hb <;> rw [hb] at h
  · cases h
    exact Nat.le_refl _
  · exact length_quote h
  · exact length_keyword h
  · exact Nat.le_of_lt_succ (length_numeral h)
  · cases h

end Token

/-- Read tokens onto `acc`, the last one first. -/
def tokensFrom (acc : List Token) : List Octet → List Token
  | [] => acc.reverse
  | b :: bs =>
    if isSpace b then tokensFrom acc bs
    else
      match _h : Token.next b bs with
      | (t, some rest) => tokensFrom (t :: acc) rest
      | (t, none) => (t :: acc).reverse
termination_by bs => bs.length
decreasing_by
  · simp
  · have := Token.length_next _h
    simp only [List.length_cons]
    omega

/-- The tokens of a text. -/
def tokens (bs : List Octet) : List Token := tokensFrom [] bs

/-! ### Token by token -/

theorem tokensFrom_eq (acc : List Token) (bs : List Octet) :
    tokensFrom acc bs = acc.reverse ++ tokens bs := by
  unfold tokens
  induction h : bs.length using Nat.strongRecOn generalizing acc bs with
  | _ n ih =>
    subst h
    cases bs with
    | nil => simp [tokensFrom]
    | cons b bs =>
      rw [tokensFrom, tokensFrom]
      split
      · exact ih _ (by simp) acc bs rfl
      · split
        · next t rest hn =>
          have hlt : rest.length < (b :: bs).length := Nat.lt_succ_of_le (Token.length_next hn)
          rw [ih _ hlt (t :: acc) rest rfl, ih _ hlt [t] rest rfl]
          simp
        · simp

theorem tokens_nil : tokens [] = [] := by
  simp [tokens, tokensFrom]

/-- White space between tokens does not count. -/
theorem tokens_cons_of_isSpace {b : Octet} (h : isSpace b = true) (bs : List Octet) :
    tokens (b :: bs) = tokens bs := by
  rw [tokens, tokensFrom, if_pos h, tokens]

theorem tokens_cons {b : Octet} {bs rest : List Octet} {t : Token} (hb : isSpace b = false)
    (h : Token.next b bs = (t, some rest)) : tokens (b :: bs) = t :: tokens rest := by
  rw [tokens, tokensFrom, if_neg (by simp [hb])]
  split
  · next h' =>
    cases h.symm.trans h'
    rw [tokensFrom_eq]
    rfl
  · next h' => cases h.symm.trans h'

end LabelFilter.Json
