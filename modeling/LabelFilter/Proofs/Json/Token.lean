import LabelFilter.Json.Token
import LabelFilter.Proofs.Json.Lexeme
import LabelFilter.Proofs.Rows

/-!
# Tokens of texts that go on

Tokens are read from left to right, and each of them ends where it ends whatever comes later, with
two exceptions: a number goes on as long as characters of numbers follow it, and a token that goes
wrong may be mended by what follows. Behind sound tokens, in front of anything that no number goes
on with, two texts have the tokens of the one and then those of the other.

## Main definitions

* `Json.EndsNumber` — texts in front of which a number ends

## Main results

* `Token.next_append` — a token stays the same when the text goes on
* `tokens_append` — the tokens of two texts behind each other
-/

namespace LabelFilter.Json

/-- Whether a number ends in front of a text. -/
def EndsNumber (bs : List Octet) : Prop :=
  ∀ b ∈ bs.head?, isDigit b = false ∧ b ≠ ascii '.' ∧ b ≠ ascii 'e' ∧ b ≠ ascii 'E'

theorem endsNumber_cons {b : Octet}
    (h : isDigit b = false ∧ b ≠ ascii '.' ∧ b ≠ ascii 'e' ∧ b ≠ ascii 'E') (bs : List Octet) :
    EndsNumber (b :: bs) := by
  rintro b' ⟨⟩
  exact h

/-! ### Numbers -/

namespace Number

variable {bs rest more : List Octet}

theorem takeWhile_append (h : EndsNumber more) (bs : List Octet) :
    (bs ++ more).takeWhile isDigit = bs.takeWhile isDigit := by
  induction bs with
  | nil =>
    cases more with
    | nil => rfl
    | cons b bs => simp [(h b rfl).1]
  | cons b bs ih => simp only [List.cons_append, List.takeWhile_cons, ih]

theorem dropWhile_append (h : EndsNumber more) (bs : List Octet) :
    (bs ++ more).dropWhile isDigit = bs.dropWhile isDigit ++ more := by
  induction bs with
  | nil =>
    cases more with
    | nil => rfl
    | cons b bs => simp [(h b rfl).1]
  | cons b bs ih =>
    simp only [List.cons_append, List.dropWhile_cons, ih]
    split <;> rfl

theorem digits1_append {ds : List Nat} (h : digits1 bs = .ok (ds, rest)) (hmore : EndsNumber more) :
    digits1 (bs ++ more) = .ok (ds, rest ++ more) := by
  cases bs with
  | nil => cases h
  | cons b bs =>
    rw [List.cons_append]
    unfold digits1 at h ⊢
    simp only at h ⊢
    split at h
    · next hb =>
      cases h
      rw [if_pos hb, takeWhile_append hmore, dropWhile_append hmore]
    · cases h

theorem scanWhole_append {ds : List Nat} (h : scanWhole bs = .ok (ds, rest))
    (hmore : EndsNumber more) : scanWhole (bs ++ more) = .ok (ds, rest ++ more) := by
  cases bs with
  | nil => cases h
  | cons b bs =>
    rw [List.cons_append]
    unfold scanWhole at h ⊢
    simp only at h ⊢
    split at h
    · next hb =>
      rw [if_pos hb]
      cases bs with
      | nil =>
        cases h
        cases more with
        | nil => rfl
        | cons c more => simp [(hmore c rfl).1]
      | cons c bs =>
        simp only [List.cons_append] at h ⊢
        split at h
        · cases h
        · next hc =>
          cases h
          rw [if_neg hc]
          rfl
    · next hb =>
      rw [if_neg hb]
      exact digits1_append h hmore

theorem scanFraction_append {ds : List Nat} (h : scanFraction bs = .ok (ds, rest))
    (hmore : EndsNumber more) : scanFraction (bs ++ more) = .ok (ds, rest ++ more) := by
  cases bs with
  | nil =>
    cases h
    cases more with
    | nil => rfl
    | cons b more => simp [scanFraction, (hmore b rfl).2.1]
  | cons b bs =>
    rw [List.cons_append]
    unfold scanFraction at h ⊢
    simp only at h ⊢
    split at h
    · next hb =>
      rw [if_pos hb]
      exact digits1_append h hmore
    · next hb =>
      cases h
      rw [if_neg hb]
      rfl

theorem scanSign_append (h : bs ≠ []) (more : List Octet) :
    scanSign (bs ++ more) = ((scanSign bs).1, (scanSign bs).2 ++ more) := by
  obtain ⟨b, bs, rfl⟩ := List.exists_cons_of_ne_nil h
  rw [List.cons_append]
  unfold scanSign
  simp only
  split
  · rfl
  · split <;> rfl

theorem scanExponent_append {e : Option (Bool × List Nat)} (h : scanExponent bs = .ok (e, rest))
    (hmore : EndsNumber more) : scanExponent (bs ++ more) = .ok (e, rest ++ more) := by
  cases bs with
  | nil =>
    cases h
    cases more with
    | nil => rfl
    | cons b more => simp [scanExponent, (hmore b rfl).2.2]
  | cons b bs =>
    rw [List.cons_append]
    rw [scanExponent] at h ⊢
    simp only at h ⊢
    split at h
    · next hb =>
      rw [if_pos hb]
      have hne : bs ≠ [] := by
        rintro rfl
        cases h
      rw [scanSign_append hne]
      cases hd : digits1 (scanSign bs).2 with
      | error slip =>
        rw [hd] at h
        cases h
      | ok p =>
        obtain ⟨ds, rest'⟩ := p
        rw [hd] at h
        cases h
        rw [digits1_append hd hmore]
        rfl
    · next hb =>
      cases h
      rw [if_neg hb]
      rfl

/-- What is left to read of a number behind its sign. -/
def scanUnsigned (negative : Bool) (bs : List Octet) :
    Except NumberSlip (Number × List Octet) := do
  let (whole, bs) ← scanWhole bs
  let (fraction, bs) ← scanFraction bs
  let (exponent, bs) ← scanExponent bs
  return (⟨negative, whole, fraction, exponent⟩, bs)

theorem scan_cons (b : Octet) (bs : List Octet) :
    scan (b :: bs) =
      if b = ascii '-' then scanUnsigned true bs else scanUnsigned false (b :: bs) := by
  rw [scan]
  simp only
  split <;> rfl

theorem scanUnsigned_append {negative : Bool} {n : Number}
    (h : scanUnsigned negative bs = .ok (n, rest)) (hmore : EndsNumber more) :
    scanUnsigned negative (bs ++ more) = .ok (n, rest ++ more) := by
  obtain ⟨⟨whole, bs₁⟩, hwhole, h⟩ := bind_eq_ok_iff.mp h
  obtain ⟨⟨fraction, bs₂⟩, hfraction, h⟩ := bind_eq_ok_iff.mp h
  obtain ⟨⟨exponent, bs₃⟩, hexponent, h⟩ := bind_eq_ok_iff.mp h
  cases h
  refine bind_eq_ok_iff.mpr ⟨_, scanWhole_append hwhole hmore, ?_⟩
  refine bind_eq_ok_iff.mpr ⟨_, scanFraction_append hfraction hmore, ?_⟩
  exact bind_eq_ok_iff.mpr ⟨_, scanExponent_append hexponent hmore, rfl⟩

/-- A number stays the same when the text goes on, unless the number goes on itself. -/
theorem scan_append {n : Number} (h : scan bs = .ok (n, rest)) (hmore : EndsNumber more) :
    scan (bs ++ more) = .ok (n, rest ++ more) := by
  cases bs with
  | nil => cases h
  | cons b bs =>
    rw [scan_cons] at h
    rw [List.cons_append, scan_cons]
    split at h
    · next hb =>
      rw [if_pos hb]
      exact scanUnsigned_append h hmore
    · next hb =>
      rw [if_neg hb]
      exact scanUnsigned_append h hmore

end Number

/-! ### Tokens -/

namespace Token

variable {b : Octet} {bs rest more : List Octet} {t : Token}

theorem letters_append {ws : List Octet} (h : letters ws bs = .ok rest) (more : List Octet) :
    letters ws (bs ++ more) = .ok (rest ++ more) := by
  induction ws generalizing bs with
  | nil =>
    cases h
    rfl
  | cons w ws ih =>
    cases bs with
    | nil => cases h
    | cons b bs =>
      rw [letters] at h
      rw [List.cons_append, letters]
      split at h
      · next hw =>
        rw [if_pos hw]
        exact ih h
      · cases h

theorem keyword_append {w : Word} (h : keyword w bs = (t, some rest)) (more : List Octet) :
    keyword w (bs ++ more) = (t, some (rest ++ more)) := by
  rw [keyword] at h ⊢
  split at h
  · next hw =>
    cases h
    rw [letters_append hw more]
  · cases h

theorem quote_append (h : quote bs = (t, some rest)) (more : List Octet) :
    quote (bs ++ more) = (t, some (rest ++ more)) := by
  rw [quote] at h ⊢
  split at h
  next s rest' hscan =>
    split at h
    · next hclosed =>
      cases h
      have happend := Lexeme.scanFrom_append hscan hclosed more
      rw [Lexeme.scan, happend]
      simp [hclosed]
    · cases h

theorem numeral_append (h : numeral bs = (t, some rest)) (hmore : EndsNumber more) :
    numeral (bs ++ more) = (t, some (rest ++ more)) := by
  rw [numeral] at h ⊢
  split at h
  · next hscan =>
    cases h
    rw [Number.scan_append hscan hmore]
  · cases h

/-- **A token stays the same when the text goes on**, in front of anything that ends a number. -/
theorem next_append (h : next b bs = (t, some rest)) (hmore : EndsNumber more) :
    next b (bs ++ more) = (t, some (rest ++ more)) := by
  rcases next_cases b with ⟨t', -, hb⟩ | hb | ⟨w, hb⟩ | hb | hb <;> rw [hb] at h ⊢
  · cases h
    rfl
  · exact quote_append h more
  · exact keyword_append h more
  · exact numeral_append h hmore
  · cases h

/-- A token behind which no text is left has gone wrong. -/
theorem not_sound_of_next (h : next b bs = (t, none)) : ¬ t.Sound := by
  rcases next_cases b with ⟨t', -, hb⟩ | hb | ⟨w, hb⟩ | hb | hb <;> rw [hb] at h
  · cases h
  · rw [quote] at h
    split at h
    split at h
    · cases h
    · next hclosed =>
      cases h
      exact hclosed
  · rw [keyword] at h
    split at h
    · cases h
    · cases h
      exact id
  · rw [numeral] at h
    split at h
    · cases h
    · cases h
      exact id
  · cases h
    exact id

end Token

theorem tokens_cons_of_none {b : Octet} {bs : List Octet} {t : Token} (hb : isSpace b = false)
    (h : Token.next b bs = (t, none)) : tokens (b :: bs) = [t] := by
  rw [tokens, tokensFrom, if_neg (by simp [hb])]
  split
  · next h' => cases h.symm.trans h'
  · next h' =>
    cases h.symm.trans h'
    rfl

/-- **The tokens of two texts behind each other**: those of the first one, if they are sound, and
then those of the second one, if it ends a number. -/
theorem tokens_append {bs more : List Octet} (h : ∀ t ∈ tokens bs, t.Sound)
    (hmore : EndsNumber more) : tokens (bs ++ more) = tokens bs ++ tokens more := by
  induction hn : bs.length using Nat.strongRecOn generalizing bs with
  | _ n ih =>
    subst hn
    cases bs with
    | nil => rw [List.nil_append, tokens_nil, List.nil_append]
    | cons b bs =>
      rw [List.cons_append]
      by_cases hb : isSpace b = true
      · rw [tokens_cons_of_isSpace hb] at h
        rw [tokens_cons_of_isSpace hb, tokens_cons_of_isSpace hb]
        exact ih _ (by simp) h rfl
      · rw [Bool.not_eq_true] at hb
        rcases hnext : Token.next b bs with ⟨t, rest⟩
        cases rest with
        | none =>
          rw [tokens_cons_of_none hb hnext] at h
          exact absurd (h t List.mem_cons_self) (Token.not_sound_of_next hnext)
        | some rest =>
          rw [tokens_cons hb hnext] at h
          rw [tokens_cons hb hnext, tokens_cons hb (Token.next_append hnext hmore),
            List.cons_append, ih _ (Nat.lt_succ_of_le (Token.length_next hnext))
              (fun t ht => h t (List.mem_cons_of_mem _ ht)) rfl]

end LabelFilter.Json
