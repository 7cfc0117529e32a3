import LabelFilter.Proofs.Sql.Token

/-!
# Expressions of SQL

The grammar of the expressions that a predicate can be: columns, string literals, calls of
functions with two arguments, comparisons, and the connectives, of which `NOT` binds tighter than
`AND` and `AND` tighter than `OR`. Both dialects share it; what the functions mean is another
matter.

The grammar is stated as a relation, one rule for each form, and read by a parser that goes down
through the levels of precedence. The parser finds every derivation, so the grammar is
unambiguous: a row of tokens is at most one expression.

## Main definitions

* `Sql.Expr` — expressions
* `Sql.Level`, `Sql.Derives` — the grammar
* `Sql.parse`, `Sql.read` — reading tokens, and reading a text

## Main results

* `parse_of_derives` — the parser finds every derivation
* `Derives.unique` — no two expressions have the same tokens
-/

namespace LabelFilter.Sql

/-- What two values are compared for. -/
inductive Relation where
  | equal
  | like
  | member
  deriving DecidableEq, Repr

/-- Expressions. -/
inductive Expr where
  | column (name : String)
  | text (value : String)
  | list (values : List String)
  | call (function : String) (first second : Expr)
  | compare (relation : Relation) (negated : Bool) (left right : Expr)
  | not (e : Expr)
  | and (left right : Expr)
  | or (left right : Expr)
  deriving DecidableEq, Repr

/-! ### The grammar -/

/-- Levels of precedence. -/
inductive Level where
  | operand
  | comparison
  | negation
  | conjunction
  | disjunction
  deriving DecidableEq, Repr

/-- Words that are no names. -/
def keywords : List String := ["AND", "OR", "NOT", "IN", "LIKE"]

/-- How a comparison is written between two operands. -/
def Relation.tokens : Relation → Bool → List Token
  | .equal, false => [.mark .equal]
  | .equal, true => [.mark .notEqual]
  | .like, false => [.word "LIKE"]
  | .like, true => [.word "NOT", .word "LIKE"]
  | .member, false => [.word "IN"]
  | .member, true => [.word "NOT", .word "IN"]

/-- The brackets that a list stands in. -/
def isBracketPair : Mark → Mark → Bool
  | .openBracket, .closeBracket | .openParen, .closeParen => true
  | _, _ => false

/-- Literals with commas between them. -/
def textTokens (values : List String) : List Token :=
  [Token.mark .comma].intercalate (values.map fun v => [.text v])

/-- **The grammar.** The tokens `ts` are the expression `e` at a level of precedence. -/
inductive Derives : Level → List Token → Expr → Prop
  | column {w : String} (hw : w ∉ keywords) : Derives .operand [.word w] (.column w)
  | text (s : String) : Derives .operand [.text s] (.text s)
  | call {f : String} {ts us : List Token} {a b : Expr} (hf : f ∉ keywords)
      (ha : Derives .disjunction ts a) (hb : Derives .disjunction us b) :
      Derives .operand
        (.word f :: .mark .openParen :: (ts ++ .mark .comma :: (us ++ [.mark .closeParen])))
        (.call f a b)
  | paren {ts : List Token} {e : Expr} (h : Derives .disjunction ts e) :
      Derives .operand (.mark .openParen :: (ts ++ [.mark .closeParen])) e
  | operand {ts : List Token} {e : Expr} (h : Derives .operand ts e) : Derives .comparison ts e
  | compare {r : Relation} {negated : Bool} {ts us : List Token} {a b : Expr} (hr : r ≠ .member)
      (ha : Derives .operand ts a) (hb : Derives .operand us b) :
      Derives .comparison (ts ++ r.tokens negated ++ us) (.compare r negated a b)
  | member {negated : Bool} {m m' : Mark} {ts : List Token} {a : Expr} {values : List String}
      (ha : Derives .operand ts a) (hm : isBracketPair m m' = true) (hv : values ≠ []) :
      Derives .comparison
        (ts ++ Relation.member.tokens negated ++ .mark m :: (textTokens values ++ [.mark m']))
        (.compare .member negated a (.list values))
  | comparison {ts : List Token} {e : Expr} (h : Derives .comparison ts e) : Derives .negation ts e
  | not {ts : List Token} {e : Expr} (h : Derives .negation ts e) :
      Derives .negation (.word "NOT" :: ts) (.not e)
  | negation {ts : List Token} {e : Expr} (h : Derives .negation ts e) : Derives .conjunction ts e
  | and {ts us : List Token} {a b : Expr} (ha : Derives .negation ts a)
      (hb : Derives .conjunction us b) :
      Derives .conjunction (ts ++ .word "AND" :: us) (.and a b)
  | conjunction {ts : List Token} {e : Expr} (h : Derives .conjunction ts e) :
      Derives .disjunction ts e
  | or {ts us : List Token} {a b : Expr} (ha : Derives .conjunction ts a)
      (hb : Derives .disjunction us b) :
      Derives .disjunction (ts ++ .word "OR" :: us) (.or a b)

/-! ### The parser -/

/-- The tokens behind a token that is due. -/
def after (t : Token) : List Token → Option (List Token)
  | [] => none
  | u :: ts => if u = t then some ts else none

/-- The comparison that is written at the head of some tokens. -/
def relation? : List Token → Option ((Relation × Bool) × List Token)
  | .mark .equal :: ts => some ((.equal, false), ts)
  | .mark .notEqual :: ts => some ((.equal, true), ts)
  | .word w :: ts =>
    if w = "LIKE" then some ((.like, false), ts)
    else if w = "IN" then some ((.member, false), ts)
    else if w = "NOT" then
      match ts with
      | .word w :: ts =>
        if w = "LIKE" then some ((.like, true), ts)
        else if w = "IN" then some ((.member, true), ts)
        else none
      | _ => none
    else none
  | _ => none

/-- Literals with commas between them, up to a mark. -/
def texts (close : Mark) : List Token → Option (List String × List Token)
  | .text s :: .mark m :: ts =>
    if m = .comma then (texts close ts).map fun p => (s :: p.1, p.2)
    else if m = close then some ([s], ts)
    else none
  | _ => none

/-- A list in brackets. -/
def bracketed : List Token → Option (Expr × List Token)
  | .mark .openBracket :: ts => (texts .closeBracket ts).map fun p => (.list p.1, p.2)
  | .mark .openParen :: ts => (texts .closeParen ts).map fun p => (.list p.1, p.2)
  | _ => none

/-- The expression at the head of some tokens, and the tokens after it. Every step down, and every
step on, takes one from the number. -/
def parse : Nat → Level → List Token → Option (Expr × List Token)
  | 0, _, _ => none
  | n + 1, .operand, ts =>
    match ts with
    | .text s :: ts => some (.text s, ts)
    | .mark .openParen :: ts => do
      let (e, ts) ← parse n .disjunction ts
      let ts ← after (.mark .closeParen) ts
      return (e, ts)
    | .word w :: ts =>
      if w ∈ keywords then none
      else
        match after (.mark .openParen) ts with
        | none => some (.column w, ts)
        | some ts => do
          let (a, ts) ← parse n .disjunction ts
          let ts ← after (.mark .comma) ts
          let (b, ts) ← parse n .disjunction ts
          let ts ← after (.mark .closeParen) ts
          return (.call w a b, ts)
    | _ => none
  | n + 1, .comparison, ts => do
    let (left, ts) ← parse n .operand ts
    match relation? ts with
    | none => return (left, ts)
    | some ((r, negated), ts) => do
      let (right, ts) ← if r = .member then bracketed ts else parse n .operand ts
      return (.compare r negated left right, ts)
  | n + 1, .negation, ts =>
    match after (.word "NOT") ts with
    | none => parse n .comparison ts
    | some ts => do
      let (e, ts) ← parse n .negation ts
      return (.not e, ts)
  | n + 1, .conjunction, ts => do
    let (left, ts) ← parse n .negation ts
    match after (.word "AND") ts with
    | none => return (left, ts)
    | some ts => do
      let (right, ts) ← parse n .conjunction ts
      return (.and left right, ts)
  | n + 1, .disjunction, ts => do
    let (left, ts) ← parse n .conjunction ts
    match after (.word "OR") ts with
    | none => return (left, ts)
    | some ts => do
      let (right, ts) ← parse n .disjunction ts
      return (.or left right, ts)

/-- How far a level stands above the operands. -/
def Level.height : Level → Nat
  | .operand => 0
  | .comparison => 1
  | .negation => 2
  | .conjunction => 3
  | .disjunction => 4

/-- The number of steps that is enough to read some tokens at a level. -/
def steps (l : Level) (ts : List Token) : Nat := 5 * ts.length + l.height

/-- The expression that a text is in a dialect. -/
def read (d : Dialect) (s : String) : Option Expr := do
  let ts ← tokens d s.toList
  match parse (steps .disjunction ts) .disjunction ts with
  | some (e, []) => return e
  | _ => none

/-! ### Reading derivations -/

/-- The tokens with which an operand could go on, or a comparison behind it begin. -/
def comparisonSigns : List Token :=
  [.mark .openParen, .mark .equal, .mark .notEqual, .word "LIKE", .word "IN", .word "NOT"]

/-- The tokens with which an expression of a level could go on. -/
def Level.goingOn : Level → List Token
  | .operand => [.mark .openParen]
  | .comparison | .negation => comparisonSigns
  | .conjunction => .word "AND" :: comparisonSigns
  | .disjunction => .word "OR" :: .word "AND" :: comparisonSigns

/-- Whether an expression of a level ends before some tokens. -/
def Level.EndsBefore (l : Level) (rest : List Token) : Prop := ∀ t ∈ rest.head?, t ∉ l.goingOn

theorem Level.EndsBefore.of_subset {l l' : Level} {rest : List Token} (h : l.EndsBefore rest)
    (hsub : l'.goingOn ⊆ l.goingOn) : l'.EndsBefore rest := fun t ht ht' => h t ht (hsub ht')

theorem Level.endsBefore_cons {l : Level} {t : Token} (h : t ∉ l.goingOn) (ts : List Token) :
    l.EndsBefore (t :: ts) := by
  rintro u ⟨⟩
  exact h

@[simp] theorem after_cons (t : Token) (ts : List Token) : after t (t :: ts) = some ts := by
  simp [after]

theorem after_eq_none {t : Token} {ts : List Token} (h : ts.head? ≠ some t) :
    after t ts = none := by
  cases ts with
  | nil => rfl
  | cons u us =>
    have : u ≠ t := fun hu => h (by simp [hu])
    simp [after, this]

theorem Level.EndsBefore.after_eq_none {l : Level} {rest : List Token} (h : l.EndsBefore rest)
    {t : Token} (ht : t ∈ l.goingOn) : after t rest = none :=
  Sql.after_eq_none fun hhead => h t hhead ht

theorem Level.EndsBefore.relation?_eq_none {rest : List Token}
    (h : Level.comparison.EndsBefore rest) : relation? rest = none := by
  unfold relation?
  split
  · exact absurd (by decide) (h _ rfl)
  · exact absurd (by decide) (h _ rfl)
  · next w ts =>
    have hne : ∀ v, Token.word v ∈ Level.comparison.goingOn → w ≠ v := by
      rintro v hv rfl
      exact h _ rfl hv
    rw [if_neg (hne _ (by decide)), if_neg (hne _ (by decide)), if_neg (hne _ (by decide))]
  · rfl

@[simp] theorem relation?_tokens (r : Relation) (negated : Bool) (ts : List Token) :
    relation? (r.tokens negated ++ ts) = some ((r, negated), ts) := by
  cases r <;> cases negated <;> rfl

theorem texts_textTokens (close : Mark) (hclose : close ≠ .comma) {values : List String}
    (hv : values ≠ []) (rest : List Token) :
    texts close (textTokens values ++ .mark close :: rest) = some (values, rest) := by
  rw [textTokens]
  induction values with
  | nil => exact absurd rfl hv
  | cons v vs ih =>
    cases vs with
    | nil => simp [texts, hclose]
    | cons w ws =>
      have hrest := ih (by simp)
      simp only [List.map_cons, List.intercalate_cons_cons, List.cons_append, List.nil_append]
        at hrest ⊢
      rw [texts, if_pos rfl, hrest]
      rfl

theorem bracketed_textTokens {m m' : Mark} (hm : isBracketPair m m' = true) {values : List String}
    (hv : values ≠ []) (rest : List Token) :
    bracketed (.mark m :: (textTokens values ++ .mark m' :: rest)) =
      some (.list values, rest) := by
  unfold isBracketPair at hm
  split at hm
  · simp [bracketed, texts_textTokens .closeBracket (by decide) hv]
  · simp [bracketed, texts_textTokens .closeParen (by decide) hv]
  · cases hm

/-- An expression without connectives does not begin with `NOT`. -/
theorem Derives.head?_ne_not {l : Level} {ts : List Token} {e : Expr} (h : Derives l ts e)
    (hl : l.height ≤ 1) (rest : List Token) : (ts ++ rest).head? ≠ some (.word "NOT") := by
  induction h generalizing rest with
  | column hw => exact fun h => hw (by cases h; decide)
  | text s => nofun
  | call hf => exact fun h => hf (by cases h; decide)
  | paren => nofun
  | operand h ih => exact ih (by decide) rest
  | compare hr ha hb iha => rw [List.append_assoc, List.append_assoc]; exact iha (by decide) _
  | member ha => rename_i iha; rw [List.append_assoc, List.append_assoc]; exact iha (by decide) _
  | _ => exact absurd hl (by decide)

/-- A comparison sign does not go on with the operand before it. -/
theorem Relation.endsBefore_tokens (r : Relation) (negated : Bool) (ts : List Token) :
    Level.operand.EndsBefore (r.tokens negated ++ ts) := by
  cases r <;> cases negated <;> exact Level.endsBefore_cons (by decide) _

/-- **The parser finds every derivation**, whatever follows that does not go on with it. The
induction is on the derivation; at each step one less is left of the number of steps, and at each
level up one more is needed. -/
theorem parse_of_derives {l : Level} {ts : List Token} {e : Expr} (h : Derives l ts e) {n : Nat}
    (hn : steps l ts ≤ n) {rest : List Token} (hrest : l.EndsBefore rest) :
    parse n l (ts ++ rest) = some (e, rest) := by
  induction h generalizing n rest with
  | column hw =>
    obtain ⟨n, rfl⟩ : ∃ k, n = k + 1 := ⟨n - 1, by simp [steps] at hn; omega⟩
    have hafter := hrest.after_eq_none (t := .mark .openParen) (by decide)
    simp [parse, hw, hafter]
  | text s =>
    obtain ⟨n, rfl⟩ : ∃ k, n = k + 1 := ⟨n - 1, by simp [steps] at hn; omega⟩
    rfl
  | @call f ts us a b hf ha hb iha ihb =>
    simp only [steps, List.length_cons, List.length_append, Level.height] at hn iha ihb
    obtain ⟨n, rfl⟩ : ∃ k, n = k + 1 := ⟨n - 1, by omega⟩
    have h₁ := iha (n := n) (by omega)
      (Level.endsBefore_cons (t := .mark .comma) (by decide) (us ++ .mark .closeParen :: rest))
    have h₂ := ihb (n := n) (by omega)
      (Level.endsBefore_cons (t := .mark .closeParen) (by decide) rest)
    simp [parse, hf, h₁, h₂]
  | @paren ts e h ih =>
    simp only [steps, List.length_cons, List.length_append, Level.height] at hn ih
    obtain ⟨n, rfl⟩ : ∃ k, n = k + 1 := ⟨n - 1, by omega⟩
    have h₁ := ih (n := n) (by omega)
      (Level.endsBefore_cons (t := .mark .closeParen) (by decide) rest)
    simp [parse, h₁]
  | operand h ih =>
    simp only [steps, Level.height] at hn ih
    obtain ⟨n, rfl⟩ : ∃ k, n = k + 1 := ⟨n - 1, by omega⟩
    have h₁ := ih (n := n) (by omega) (hrest.of_subset (by decide))
    simp [parse, h₁, hrest.relation?_eq_none]
  | @compare r negated ts us a b hr ha hb iha ihb =>
    simp only [steps, List.length_append, Level.height] at hn iha ihb
    obtain ⟨n, rfl⟩ : ∃ k, n = k + 1 := ⟨n - 1, by omega⟩
    have h₁ := iha (n := n) (by omega) (r.endsBefore_tokens negated (us ++ rest))
    have h₂ := ihb (n := n) (by omega) (hrest.of_subset (by decide))
    simp [parse, h₁, h₂, hr]
  | @member negated m m' ts a values ha hm hv iha =>
    simp only [steps, List.length_append, Level.height] at hn iha
    obtain ⟨n, rfl⟩ : ∃ k, n = k + 1 := ⟨n - 1, by omega⟩
    have h₁ := iha (n := n) (by omega) (Relation.member.endsBefore_tokens negated
      (.mark m :: (textTokens values ++ .mark m' :: rest)))
    simp [parse, h₁, bracketed_textTokens hm hv]
  | comparison h ih =>
    simp only [steps, Level.height] at hn ih
    obtain ⟨n, rfl⟩ : ∃ k, n = k + 1 := ⟨n - 1, by omega⟩
    have h₁ := ih (n := n) (by omega) hrest
    simp [parse, after_eq_none (h.head?_ne_not (by decide) rest), h₁]
  | not h ih =>
    simp only [steps, List.length_cons, Level.height] at hn ih
    obtain ⟨n, rfl⟩ : ∃ k, n = k + 1 := ⟨n - 1, by omega⟩
    have h₁ := ih (n := n) (by omega) hrest
    simp [parse, h₁]
  | negation h ih =>
    simp only [steps, Level.height] at hn ih
    obtain ⟨n, rfl⟩ : ∃ k, n = k + 1 := ⟨n - 1, by omega⟩
    have h₁ := ih (n := n) (by omega) (hrest.of_subset (by decide))
    simp [parse, h₁, hrest.after_eq_none (t := .word "AND") (by decide)]
  | @and ts us a b ha hb iha ihb =>
    simp only [steps, List.length_append, List.length_cons, Level.height] at hn iha ihb
    obtain ⟨n, rfl⟩ : ∃ k, n = k + 1 := ⟨n - 1, by omega⟩
    have h₁ := iha (n := n) (by omega)
      (Level.endsBefore_cons (t := .word "AND") (by decide) (us ++ rest))
    have h₂ := ihb (n := n) (by omega) hrest
    simp [parse, h₁, h₂]
  | conjunction h ih =>
    simp only [steps, Level.height] at hn ih
    obtain ⟨n, rfl⟩ : ∃ k, n = k + 1 := ⟨n - 1, by omega⟩
    have h₁ := ih (n := n) (by omega) (hrest.of_subset (by decide))
    simp [parse, h₁, hrest.after_eq_none (t := .word "OR") (by decide)]
  | @or ts us a b ha hb iha ihb =>
    simp only [steps, List.length_append, List.length_cons, Level.height] at hn iha ihb
    obtain ⟨n, rfl⟩ : ∃ k, n = k + 1 := ⟨n - 1, by omega⟩
    have h₁ := iha (n := n) (by omega)
      (Level.endsBefore_cons (t := .word "OR") (by decide) (us ++ rest))
    have h₂ := ihb (n := n) (by omega) hrest
    simp [parse, h₁, h₂]

theorem parse_of_derives_nil {ts : List Token} {e : Expr} (h : Derives .disjunction ts e) :
    parse (steps .disjunction ts) .disjunction ts = some (e, []) := by
  have hend : Level.disjunction.EndsBefore [] := nofun
  have := parse_of_derives h (Nat.le_refl _) hend
  rwa [List.append_nil] at this

/-- **The grammar is unambiguous.** -/
theorem Derives.unique {ts : List Token} {e e' : Expr} (h : Derives .disjunction ts e)
    (h' : Derives .disjunction ts e') : e = e' := by
  have := (parse_of_derives_nil h).symm.trans (parse_of_derives_nil h')
  cases this
  rfl

theorem read_eq_some {d : Dialect} {s : String} {ts : List Token} {e : Expr}
    (hs : tokens d s.toList = some ts) (h : Derives .disjunction ts e) : read d s = some e := by
  simp [read, hs, parse_of_derives_nil h]

/-! ### Chains -/

namespace Expr

/-- Expressions with a connective between them. Nesting to the right is as good as nesting to the
left, because the connectives are associative. -/
def chain (connective : Expr → Expr → Expr) : Expr → List Expr → Expr
  | e, [] => e
  | e, f :: es => connective e (chain connective f es)

/-- Whether an expression is a conjunction. -/
def isAnd : Expr → Bool
  | .and _ _ => true
  | _ => false

/-- Whether an expression is a disjunction. -/
def isOr : Expr → Bool
  | .or _ _ => true
  | _ => false

/-- A chain determines its links, if no link is itself made with the connective. -/
theorem chain_injective {connective : Expr → Expr → Expr} (made : Expr → Bool)
    (hmade : ∀ a b, made (connective a b) = true)
    (hinj : ∀ {a b a' b'}, connective a b = connective a' b' → a = a' ∧ b = b')
    {e e' : Expr} {es es' : List Expr} (hl : ∀ f ∈ e :: es, made f = false)
    (hr : ∀ f ∈ e' :: es', made f = false) (h : chain connective e es = chain connective e' es') :
    e :: es = e' :: es' := by
  have hne : ∀ {f a b}, made f = false → f ≠ connective a b := fun hf hfab => by
    rw [hfab, hmade] at hf
    cases hf
  induction es generalizing e e' es' with
  | nil =>
    cases es' with
    | nil => exact congrArg (· :: []) h
    | cons f' es' => exact absurd h (hne (hl e List.mem_cons_self))
  | cons f es ih =>
    cases es' with
    | nil => exact absurd h.symm (hne (hr e' List.mem_cons_self))
    | cons f' es' =>
      obtain ⟨rfl, hrest⟩ := hinj h
      rw [ih (fun g hg => hl g (List.mem_cons_of_mem _ hg))
        (fun g hg => hr g (List.mem_cons_of_mem _ hg)) hrest]

theorem chain_and_injective {e e' : Expr} {es es' : List Expr} (hl : ∀ f ∈ e :: es, isAnd f = false)
    (hr : ∀ f ∈ e' :: es', isAnd f = false) (h : chain .and e es = chain .and e' es') :
    e :: es = e' :: es' :=
  chain_injective isAnd (fun _ _ => rfl) (fun h => by cases h; exact ⟨rfl, rfl⟩) hl hr h

theorem chain_or_injective {e e' : Expr} {es es' : List Expr} (hl : ∀ f ∈ e :: es, isOr f = false)
    (hr : ∀ f ∈ e' :: es', isOr f = false) (h : chain .or e es = chain .or e' es') :
    e :: es = e' :: es' :=
  chain_injective isOr (fun _ _ => rfl) (fun h => by cases h; exact ⟨rfl, rfl⟩) hl hr h

end Expr

theorem derives_chain_and {ts : List Token} {e : Expr} {tss : List (List Token)} {es : List Expr}
    (h : Derives .negation ts e) (hs : List.Forall₂ (Derives .negation) tss es) :
    Derives .conjunction ([.word "AND"].intercalate (ts :: tss)) (.chain .and e es) := by
  induction hs generalizing ts e with
  | nil => simpa [Expr.chain] using h.negation
  | cons h' _ ih =>
    rw [List.intercalate_cons_cons, List.append_assoc]
    exact .and h (ih h')

theorem derives_chain_or {ts : List Token} {e : Expr} {tss : List (List Token)} {es : List Expr}
    (h : Derives .conjunction ts e) (hs : List.Forall₂ (Derives .conjunction) tss es) :
    Derives .disjunction ([.word "OR"].intercalate (ts :: tss)) (.chain .or e es) := by
  induction hs generalizing ts e with
  | nil => simpa [Expr.chain] using h.conjunction
  | cons h' _ ih =>
    rw [List.intercalate_cons_cons, List.append_assoc]
    exact .or h (ih h')

end LabelFilter.Sql
