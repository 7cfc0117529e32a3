import LabelFilter.Proofs.Json.Grammar
import LabelFilter.Proofs.Json.Record

/-!
# Exact decoders

A decoder works on trees, and what documents are to look like is said of what they denote. A decoder
is exact for a relation if it succeeds on a tree just when the relation holds of what the tree
denotes. Decoders that are made of exact ones are exact for what their parts are exact for.

Not every tree denotes something, since a decoder may have to work on one that is broken somewhere.
A decoder is thorough if it accepts no such tree. One that is exact and thorough is described by its
relation alone.

## Main definitions

* `Json.Decoder.Exact` — decoders that accept what a relation says
* `Doc.IsWhole`, `Decoder.Thorough` — trees that denote something, and decoders of only such trees
* `Decoder.DescribedBy` — decoders that are exact and thorough
* `Term.IsNaturalBelow`, `Term.IsWordOf`, `Term.IsListOf` — numbers, words and lists
* `Term.named`, `Term.others` — the members with a name, and those without certain names

## Main results

* `exact_asString`, `exact_asNatural`, `exact_asWord`, `Decoder.Exact.asList` — decoders of values
  of one form
* `Decoder.Exact.once_iff` — fields of an object
* `Doc.nextOr_eq_ok_iff`, `Doc.endItems_eq_ok_iff` — fields of a list
-/

namespace LabelFilter.Json

open List (Forall₂)

variable {α : Type}

/-- A decoder that accepts a tree just when a relation holds of what the tree denotes. -/
def Decoder.Exact (decode : Decoder α) (P : Term → α → Prop) : Prop :=
  ∀ d t, d.Denotes t → ∀ a, decode d = .ok a ↔ P t a

/-! ### Whole trees -/

/-- A tree that denotes something, since no part of it is broken. -/
def Doc.IsWhole (d : Doc) : Prop := ∃ t, d.Denotes t

/-- A decoder that accepts whole trees only. -/
def Decoder.Thorough (decode : Decoder α) : Prop := ∀ d a, decode d = .ok a → d.IsWhole

/-- A decoder that accepts just the trees that denote what a relation says. -/
def Decoder.DescribedBy (decode : Decoder α) (P : Term → α → Prop) : Prop :=
  ∀ d a, decode d = .ok a ↔ ∃ t, d.Denotes t ∧ P t a

/-- A decoder that is exact and thorough is described by its relation alone. -/
theorem Decoder.Exact.describedBy {decode : Decoder α} {P : Term → α → Prop}
    (h : decode.Exact P) (hall : decode.Thorough) : decode.DescribedBy P := by
  intro d a
  constructor
  · intro ha
    obtain ⟨t, ht⟩ := hall d a ha
    exact ⟨t, ht, (h d t ht a).mp ha⟩
  · rintro ⟨t, ht, hP⟩
    exact (h d t ht a).mpr hP

theorem Break.settle_eq_ok_iff {stop : Option Break} : settle stop = .ok () ↔ stop = none := by
  cases stop <;> simp [settle]

namespace Doc

theorem isWhole_list {ds : List Doc} (h : ∀ d ∈ ds, d.IsWhole) : (list ds none).IsWhole := by
  have hall : ∃ ts, Forall₂ Denotes ds ts := by
    induction ds with
    | nil => exact ⟨[], .nil⟩
    | cons d ds ih =>
      obtain ⟨⟨t, ht⟩, h⟩ := List.forall_mem_cons.mp h
      obtain ⟨ts, hts⟩ := ih h
      exact ⟨t :: ts, .cons ht hts⟩
  obtain ⟨ts, hts⟩ := hall
  exact ⟨.list ts, .list hts⟩

theorem isWhole_object {ms : List (Lexeme × Doc)}
    (h : ∀ m ∈ ms, (∃ name, m.1.decode = .ok name) ∧ m.2.IsWhole) : (object ms none).IsWhole := by
  have hall : ∃ ms' : List (String × Term), Forall₂ (fun m m' => m.1.decode = .ok m'.1) ms ms' ∧
      Forall₂ (fun m m' => m.2.Denotes m'.2) ms ms' := by
    induction ms with
    | nil => exact ⟨[], .nil, .nil⟩
    | cons m ms ih =>
      obtain ⟨⟨⟨name, hname⟩, t, ht⟩, h⟩ := List.forall_mem_cons.mp h
      obtain ⟨ms', hnames, hvalues⟩ := ih h
      exact ⟨(name, t) :: ms', .cons hname hnames, .cons ht hvalues⟩
  obtain ⟨ms', hnames, hvalues⟩ := hall
  exact ⟨.object ms', .object hnames hvalues⟩

/-- An object is whole if its members are read one after the other and each step takes the whole
value. -/
theorem isWhole_of_members {σ : Type} {step : σ → String → Doc → Except Fault σ} {init s : σ}
    {ms : List (Lexeme × Doc)} {stop : Option Break} (h : members step init ms stop = .ok s)
    (hstep : ∀ s s' name d, step s name d = .ok s' → d.IsWhole) : (object ms stop).IsWhole := by
  obtain ⟨_, -, hstop⟩ := bind_eq_ok_iff.mp h
  obtain ⟨_, hstop, -⟩ := bind_eq_ok_iff.mp hstop
  cases Break.settle_eq_ok_iff.mp hstop
  refine isWhole_object (members_induction h nofun fun ms m name s s' hms hname hs' => ?_)
  rw [List.forall_mem_append, List.forall_mem_singleton]
  exact ⟨hms, ⟨name, hname⟩, hstep s s' name m.2 hs'⟩

end Doc

/-! ### Values of one form -/

/-- A string. -/
def Term.IsTextOf (t : Term) (s : String) : Prop := t = .string s

/-- A natural number below a bound, written in digits without a sign, a fraction and an exponent. -/
inductive Term.IsNaturalBelow (bound : Nat) : Term → Nat → Prop where
  | digits {ds : List Nat} (h : Number.ofDigits ds < bound) :
      IsNaturalBelow bound (.number ⟨false, ds, [], none⟩) (Number.ofDigits ds)

theorem Term.IsNaturalBelow.lt {bound k : Nat} {t : Term} (h : t.IsNaturalBelow bound k) :
    k < bound := by
  cases h with | digits h => exact h

/-- A word of a vocabulary, or an object that has the word as its only key and the value `null`. -/
inductive Term.IsWordOf (vocabulary : List (String × α)) : Term → α → Prop where
  | plain {word : String} {a : α} (h : vocabulary.lookup word = some a) :
      IsWordOf vocabulary (.string word) a
  | tagged {word : String} {a : α} (h : vocabulary.lookup word = some a) :
      IsWordOf vocabulary (.object [(word, .word .null)]) a

/-- A list of values of one form. -/
inductive Term.IsListOf (P : Term → α → Prop) : Term → List α → Prop where
  | list {ts : List Term} {as : List α} (h : Forall₂ P ts as) : IsListOf P (.list ts) as

theorem exact_asString : Decoder.Exact Doc.asString Term.IsTextOf := by
  intro d t h s
  cases h with
  | string h => simp [Doc.asString, h, Term.IsTextOf]
  | _ => exact ⟨fun h => absurd h Doc.unexpected_ne_ok, nofun⟩

theorem thorough_asString : Decoder.Thorough Doc.asString := by
  intro d s h
  cases d with
  | string lexeme => exact ⟨.string s, .string h⟩
  | _ => exact absurd h Doc.unexpected_ne_ok

theorem describedBy_asString : Decoder.DescribedBy Doc.asString Term.IsTextOf :=
  exact_asString.describedBy thorough_asString

/-! ### Numbers -/

namespace Number

theorem le_foldl_digits (ds : List Nat) (acc : Nat) :
    acc ≤ ds.foldl (fun acc d => acc * 10 + d) acc := by
  induction ds generalizing acc with
  | nil => exact Nat.le_refl acc
  | cons d ds ih =>
    have := ih (acc * 10 + d)
    rw [List.foldl_cons]
    omega

/-- Digits are taken onto a number to their end just when the outcome fits in a word. -/
theorem absorb_eq_iff {acc k : Nat} {ds : List Nat} (hacc : acc < wordBound) :
    absorb acc ds = (k, 0) ↔ ds.foldl (fun acc d => acc * 10 + d) acc = k ∧ k < wordBound := by
  induction ds generalizing acc with
  | nil =>
    simp only [absorb, Prod.mk.injEq, and_true, List.foldl_nil]
    exact ⟨fun h => ⟨h, h ▸ hacc⟩, And.left⟩
  | cons d ds ih =>
    rw [absorb, List.foldl_cons]
    split
    · next hfits => exact ih hfits
    · next hfull =>
      have hle := le_foldl_digits ds (acc * 10 + d)
      refine ⟨nofun, fun ⟨hk, hlt⟩ => absurd hlt ?_⟩
      omega

/-- The literals that denote natural numbers. -/
theorem magnitude?_eq_ofNat_iff {n : Number} {k : Nat} :
    n.magnitude? = some (.integer (.ofNat k)) ↔
      n = ⟨false, n.whole, [], none⟩ ∧ ofDigits n.whole = k ∧ k < wordBound := by
  obtain ⟨negative, whole, fraction, exponent⟩ := n
  have hfraction : ∀ (negative : Bool) (b : Option Decimal.Binary),
      b.map (Magnitude.fraction negative) ≠ some (.integer (.ofNat k)) := by
    intro negative b
    cases b <;> nofun
  rw [magnitude?, ofDigits, ← absorb_eq_iff (by decide : 0 < wordBound)]
  obtain ⟨significand, dropped⟩ := absorb 0 whole
  dsimp only
  split
  · next hplain =>
    obtain ⟨rfl, rfl, rfl⟩ := hplain
    cases negative with
    | false =>
      constructor
      · rintro ⟨⟩
        exact ⟨rfl, rfl⟩
      · rintro ⟨-, ⟨⟩⟩
        rfl
    | true =>
      refine iff_of_false ?_ fun h => nomatch h.1
      rw [if_neg (by decide)]
      split
      · next hpositive =>
        -- A negative integer is less than zero, since a negative zero is a fraction.
        intro heq
        injection heq with heq
        injection heq with heq
        rw [Int.ofNat_eq_natCast] at heq
        omega
      · exact hfraction true _
  · next hplain =>
    refine iff_of_false (hfraction _ _) ?_
    rintro ⟨heq, hk⟩
    cases heq
    cases hk
    exact hplain ⟨rfl, rfl, rfl⟩

end Number

theorem asNatural_number_eq_ok_iff {bound k : Nat} {type : String} {n : Number} :
    Doc.asNatural bound type (.number n) = .ok k ↔
      n.magnitude? = some (.integer (.ofNat k)) ∧ k < bound := by
  rw [Doc.asNatural, Number.decode]
  cases n.magnitude? with
  | none => exact iff_of_false nofun fun h => nomatch h.1
  | some m =>
    cases m with
    | fraction negative value => exact iff_of_false nofun fun h => nomatch h.1
    | integer value =>
      cases value with
      | negSucc j => exact iff_of_false nofun fun h => nomatch h.1
      | ofNat j =>
        show (if j < bound then _ else _) = _ ↔ _
        split
        · next hj =>
          constructor
          · rintro ⟨⟩
            exact ⟨rfl, hj⟩
          · rintro ⟨⟨⟩, -⟩
            rfl
        · next hj =>
          refine iff_of_false nofun ?_
          rintro ⟨⟨⟩, hk⟩
          exact hj hk

theorem exact_asNatural {bound : Nat} (hbound : bound ≤ Number.wordBound) (type : String) :
    Decoder.Exact (Doc.asNatural bound type) (Term.IsNaturalBelow bound) := by
  intro d t h k
  cases h with
  | number n =>
    rw [asNatural_number_eq_ok_iff, Number.magnitude?_eq_ofNat_iff]
    constructor
    · rintro ⟨⟨hn, rfl, -⟩, hk⟩
      rw [hn]
      exact .digits hk
    · rintro ⟨hk⟩
      exact ⟨⟨rfl, rfl, Nat.lt_of_lt_of_le hk hbound⟩, hk⟩
  | _ => exact ⟨fun h => absurd h Doc.unexpected_ne_ok, nofun⟩

theorem thorough_asNatural (bound : Nat) (type : String) :
    Decoder.Thorough (Doc.asNatural bound type) := by
  intro d k h
  cases d with
  | number n => exact ⟨.number n, .number n⟩
  | _ => exact absurd h Doc.unexpected_ne_ok

theorem describedBy_asNatural {bound : Nat} (hbound : bound ≤ Number.wordBound) (type : String) :
    Decoder.DescribedBy (Doc.asNatural bound type) (Term.IsNaturalBelow bound) :=
  (exact_asNatural hbound type).describedBy (thorough_asNatural bound type)

/-! ### Words and lists -/

theorem eq_null_of_asNull {d : Doc} (h : d.asNull = .ok ()) : d = .word .null := by
  cases d with
  | word w =>
    cases w with
    | null => rfl
    | _ => exact absurd h Doc.unexpected_ne_ok
  | _ => exact absurd h Doc.unexpected_ne_ok

theorem lookUp_eq_ok_iff {vocabulary : List (String × α)} {word : String} {a : α} :
    Doc.lookUp vocabulary word = .ok a ↔ vocabulary.lookup word = some a := by
  rw [Doc.lookUp]
  cases vocabulary.lookup word <;> simp

/-- A word that is written as an object. -/
theorem asWord_object_eq_ok_iff {vocabulary : List (String × α)} {key : Lexeme} {content : Doc}
    {ms : List (Lexeme × Doc)} {stop : Option Break} {a : α} :
    Doc.asWord vocabulary (.object ((key, content) :: ms) stop) = .ok a ↔
      (∃ word, key.decode = .ok word ∧ vocabulary.lookup word = some a) ∧
        content = .word .null ∧ ms = [] ∧ stop = none := by
  constructor
  · intro h
    obtain ⟨word, hword, h⟩ := bind_eq_ok_iff.mp h
    obtain ⟨a', ha', h⟩ := bind_eq_ok_iff.mp h
    obtain ⟨_, hnull, h⟩ := bind_eq_ok_iff.mp h
    split at h
    · cases h
      exact ⟨⟨word, hword, lookUp_eq_ok_iff.mp ha'⟩, eq_null_of_asNull hnull, rfl, rfl⟩
    · cases h
    · cases h
  · rintro ⟨⟨word, hword, ha⟩, rfl, rfl, rfl⟩
    exact bind_eq_ok_iff.mpr ⟨word, hword, bind_eq_ok_iff.mpr
      ⟨a, lookUp_eq_ok_iff.mpr ha, bind_eq_ok_iff.mpr ⟨(), rfl, rfl⟩⟩⟩

theorem exact_asWord (vocabulary : List (String × α)) :
    Decoder.Exact (Doc.asWord vocabulary) (Term.IsWordOf vocabulary) := by
  intro d t h a
  cases h with
  | string h =>
    rw [Doc.asWord, h]
    show Doc.lookUp vocabulary _ = .ok a ↔ _
    rw [lookUp_eq_ok_iff]
    exact ⟨.plain, fun | .plain h => h⟩
  | object hnames hvalues =>
    cases hnames with
    | nil => exact ⟨nofun, nofun⟩
    | @cons m m' ms ms' hname hnames =>
      obtain ⟨key, content⟩ := m
      obtain ⟨word, t⟩ := m'
      cases hvalues with | cons hvalue _ => ?_
      dsimp only at hname hvalue
      rw [asWord_object_eq_ok_iff]
      constructor
      · rintro ⟨⟨word', hword', ha⟩, rfl, rfl, -⟩
        cases hname.symm.trans hword'
        cases hnames
        cases hvalue
        exact .tagged ha
      · rintro (_ | ha)
        cases hnames
        cases hvalue
        exact ⟨⟨word, hname, ha⟩, rfl, rfl, rfl⟩
  | _ => exact ⟨nofun, nofun⟩

theorem thorough_asWord (vocabulary : List (String × α)) :
    Decoder.Thorough (Doc.asWord vocabulary) := by
  intro d a h
  cases d with
  | string lexeme =>
    obtain ⟨word, hword, -⟩ := bind_eq_ok_iff.mp h
    exact ⟨.string word, .string hword⟩
  | object ms stop =>
    cases ms with
    | nil =>
      cases stop with
      | none => nomatch h
      | some b => cases b <;> nomatch h
    | cons m ms =>
      obtain ⟨⟨word, hword, -⟩, hnull, rfl, rfl⟩ := asWord_object_eq_ok_iff.mp h
      have hvalue : m.2.Denotes (.word .null) := hnull ▸ .word .null
      exact ⟨.object [(word, .word .null)], .object (.cons hword .nil) (.cons hvalue .nil)⟩
  | broken b => cases b <;> nomatch h
  | _ => nomatch h

namespace Decoder.Exact

variable {decode : Decoder α} {P : Term → α → Prop}

theorem asList (h : decode.Exact P) : Exact (Doc.asList decode) (Term.IsListOf P) := by
  intro d t hd as
  cases hd with
  | @list ds ts hds =>
    have hitems : Doc.asList decode (.list ds none) = .ok as ↔
        Forall₂ (fun d a => decode d = .ok a) ds as := by
      show (ds.mapM decode >>= fun values => Break.settle none >>= fun _ => pure values) = _ ↔ _
      refine Iff.trans ?_ mapM_eq_ok_iff
      cases ds.mapM decode <;> rfl
    rw [hitems, forall₂_iff_of_forall₂ hds h]
    exact ⟨.list, fun | .list h => h⟩
  | _ => exact ⟨fun h => absurd h Doc.unexpected_ne_ok, nofun⟩

end Decoder.Exact

theorem describedBy_asWord (vocabulary : List (String × α)) :
    Decoder.DescribedBy (Doc.asWord vocabulary) (Term.IsWordOf vocabulary) :=
  (exact_asWord vocabulary).describedBy (thorough_asWord vocabulary)

theorem Decoder.Thorough.asList {decode : Decoder α} (h : decode.Thorough) :
    Thorough (Doc.asList decode) := by
  intro d as has
  cases d with
  | list ds stop =>
    obtain ⟨as', hitems, has⟩ := bind_eq_ok_iff.mp has
    obtain ⟨_, hstop, -⟩ := bind_eq_ok_iff.mp has
    cases Break.settle_eq_ok_iff.mp hstop
    exact Doc.isWhole_list (forall_mem_left_of_forall₂ (mapM_eq_ok_iff.mp hitems) h)
  | _ => exact absurd has Doc.unexpected_ne_ok

/-! ### Fields of an object -/

/-- The values of the members with a name. -/
def Term.named (name : String) (ms : List (String × Term)) : List Term :=
  (ms.filter fun m => m.1 = name).map Prod.snd

/-- The members that have none of some names. -/
def Term.others (names : List String) (ms : List (String × Term)) : List (String × Term) :=
  ms.filter fun m => m.1 ∉ names

section

variable {ms : List (Lexeme × Doc)} {ms' : List (String × Term)}

theorem denotes_named (hnames : Forall₂ (fun m m' => m.1.decode = .ok m'.1) ms ms')
    (hvalues : Forall₂ (fun m m' => m.2.Denotes m'.2) ms ms') (name : String) :
    Forall₂ Doc.Denotes (Doc.named name ms) (Term.named name ms') := by
  induction hnames with
  | nil => exact .nil
  | @cons m m' ms ms' hname _ ih =>
    cases hvalues with | cons hvalue hvalues => ?_
    by_cases hm : m'.1 = name
    · rw [Doc.named_cons_of_eq (hm ▸ hname), Term.named, List.filter_cons_of_pos (by simp [hm])]
      exact .cons hvalue (ih hvalues)
    · rw [Doc.named_cons_of_ne hname hm, Term.named, List.filter_cons_of_neg (by simp [hm])]
      exact ih hvalues

theorem denotes_others (hnames : Forall₂ (fun m m' => m.1.decode = .ok m'.1) ms ms')
    (hvalues : Forall₂ (fun m m' => m.2.Denotes m'.2) ms ms') (names : List String) :
    Forall₂ (fun m m' => m.1.decode = .ok m'.1) (Doc.others names ms) (Term.others names ms') ∧
      Forall₂ (fun m m' => m.2.Denotes m'.2) (Doc.others names ms) (Term.others names ms') := by
  induction hnames with
  | nil => exact ⟨.nil, .nil⟩
  | @cons m m' ms ms' hname _ ih =>
    cases hvalues with | cons hvalue hvalues => ?_
    obtain ⟨ihnames, ihvalues⟩ := ih hvalues
    by_cases hm : m'.1 ∈ names
    · rw [Doc.others_cons_of_mem hname hm, Term.others, List.filter_cons_of_neg (by simp [hm])]
      exact ⟨ihnames, ihvalues⟩
    · rw [Doc.others_cons_of_not_mem hname hm, Term.others, List.filter_cons_of_pos (by simp [hm])]
      exact ⟨.cons hname ihnames, .cons hvalue ihvalues⟩

/-- **A field of an object is read from the members with its name**, and these denote what the
members of the text denote. -/
theorem Decoder.Exact.once_iff {decode : Decoder α} {P : Term → α → Prop} (h : decode.Exact P)
    (hnames : Forall₂ (fun m m' => m.1.decode = .ok m'.1) ms ms')
    (hvalues : Forall₂ (fun m m' => m.2.Denotes m'.2) ms ms') (name : String) (v : Option α) :
    Once decode.Reads (Doc.named name ms) v ↔ Once P (Term.named name ms') v :=
  Once.iff_of_forall₂ (denotes_named hnames hvalues name) h v

/-- A tree that denotes something can be passed over. -/
theorem Doc.Denotes.skip {d : Doc} {t : Term} (h : d.Denotes t) : d.skip = .ok () := by
  cases h with
  | string h => rw [Doc.skip, if_pos (Lexeme.stop_of_decode h)]
  | _ => rfl

/-- The names of members that denote something can be read, and their values be passed over. -/
theorem readable_of_denotes (hnames : Forall₂ (fun m m' => m.1.decode = .ok m'.1) ms ms')
    (hvalues : Forall₂ (fun m m' => m.2.Denotes m'.2) ms ms') :
    ∀ m ∈ ms, (∃ name, m.1.decode = .ok name) ∧ m.2.skip = .ok () := by
  induction hnames with
  | nil => nofun
  | cons hname _ ih =>
    cases hvalues with | cons hvalue hvalues => ?_
    exact List.forall_mem_cons.mpr ⟨⟨⟨_, hname⟩, hvalue.skip⟩, ih hvalues⟩

end

/-! ### Fields of a list -/

namespace Doc

theorem nextOr_eq_ok_iff {default : Except Fault α} {decode : Decoder α} {items rest : List Doc}
    {a : α} : nextOr default decode items none = .ok (a, rest) ↔
      (items = [] ∧ default = .ok a ∧ rest = []) ∨
        ∃ d, items = d :: rest ∧ decode d = .ok a := by
  cases items with
  | nil =>
    cases default <;>
      simp [nextOr, item?, Break.settle, bind, Except.bind, pure, Except.pure, eq_comm]
  | cons d ds =>
    cases h : decode d <;>
      simp [nextOr, item?, bind, Except.bind, pure, Except.pure, h, and_comm]

theorem endItems_eq_ok_iff {items : List Doc} : endItems items none = .ok () ↔ items = [] := by
  cases items <;> simp [endItems]

end Doc

end LabelFilter.Json
