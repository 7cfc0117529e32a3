import LabelFilter.Proofs.Sql.Expression

/-!
# Sub-queries of SQL

How a sub-query is read whose condition is left as it stands. What comes before the condition is
cut into tokens, and these are a list of columns and the qualified name of a table. A column is an
expression, perhaps under a name of its own, and in the place of a name any word may stand, also one
that is a keyword elsewhere.

Nothing in this grammar says where the condition begins, and names and literals may hold what looks
like the beginning of one. But the head of a sub-query is no beginning of another head, so a text
can be cut at one place only.

## Main definitions

* `Token.name?` — the name that a token is
* `Sql.Column`, `Sql.SubQuery` — what a sub-query is read as
* `Sql.ReadsColumn`, `Sql.ReadsColumns`, `Sql.ReadsHead`, `Sql.ReadsAs` — the grammar

## Main results

* `tokens_append` — the tokens of a text that goes on with something apart
* `Derives.eq_of_append`, `ReadsColumns.eq_of_append`, `ReadsHead.eq_of_append` — where an
  expression, a list of columns and a head end
* `ReadsAs.unique` — a text is at most one sub-query
-/

namespace LabelFilter.Sql

open List (Forall₂)

/-! ### Texts that go on -/

section

variable {d : Dialect} {cs more : List Char}

theorem Quotation.map_prepend_append {c : Char} {o o' : Option (List Char × List Char)}
    {s rest : List Char} (h : o.map (prepend c) = some (s, rest))
    (ho : ∀ s', o = some (s', rest) → o' = some (s', rest ++ more)) :
    o'.map (prepend c) = some (s, rest ++ more) := by
  obtain ⟨⟨s', rest'⟩, hs, hp⟩ := Option.map_eq_some_iff.mp h
  cases hp
  rw [ho s' hs]
  rfl

/-- A quotation is read the same if the text goes on, unless it goes on with the quote. -/
theorem Quotation.scan_append {q : Quotation} {s rest : List Char} (h : q.scan cs = some (s, rest))
    (hmore : more.head? ≠ some q.quote) : q.scan (cs ++ more) = some (s, rest ++ more) := by
  fun_induction scan q cs generalizing s with
  | case1 => cases h
  | case2 =>
    cases h
    exact scan_quote fun _ => hmore
  | case3 => cases h
  | case4 c' cs hquotes ih =>
    rw [List.cons_append, List.cons_append, scan, if_pos rfl, if_pos hquotes]
    exact map_prepend_append h fun s' => ih
  | case5 c' cs hquotes =>
    cases h
    rw [List.cons_append, List.cons_append, scan, if_pos rfl, if_neg hquotes]
  | case6 c c' cs hc hescape ih =>
    rw [List.cons_append, List.cons_append, scan, if_neg hc, hescape]
    exact map_prepend_append h fun s' => ih
  | case7 c' cs f hescape hc ih =>
    rw [List.cons_append, List.cons_append, scan, if_neg hc, hescape]
    exact map_prepend_append h fun s' => ih
  | case8 c c' cs hc f hescape hbackslash ih =>
    rw [List.cons_append, List.cons_append, scan, if_neg hc, hescape]
    dsimp only
    rw [if_neg hbackslash]
    exact map_prepend_append h fun s' => ih

theorem Token.quoted_append {make : String → Token} {q : Quotation} {t : Token}
    {rest : List Char} (h : quoted make q cs = some (t, rest))
    (hmore : more.head? ≠ some q.quote) :
    quoted make q (cs ++ more) = some (t, rest ++ more) := by
  obtain ⟨⟨s, rest'⟩, hs, hp⟩ := Option.map_eq_some_iff.mp h
  cases hp
  rw [quoted, Quotation.scan_append hs hmore]
  rfl

/-- A word ends where it ended before. -/
theorem Apart.takeWhile_append (hmore : Apart d more) (cs : List Char) :
    (cs ++ more).takeWhile isPlainRest = cs.takeWhile isPlainRest := by
  induction cs with
  | nil => exact hmore.takeWhile_eq_nil
  | cons c cs ih => simp only [List.cons_append, List.takeWhile_cons, ih]

theorem Apart.dropWhile_append (hmore : Apart d more) (cs : List Char) :
    (cs ++ more).dropWhile isPlainRest = cs.dropWhile isPlainRest ++ more := by
  induction cs with
  | nil => exact hmore.dropWhile_eq
  | cons c cs ih =>
    rw [List.cons_append, List.dropWhile_cons, List.dropWhile_cons, ih]
    split <;> rfl

/-- A token is read the same if the text goes on with something apart. -/
theorem Token.next_append {c : Char} {t : Token} {rest : List Char}
    (h : next d c cs = some (t, rest)) (hmore : Apart d more) :
    next d c (cs ++ more) = some (t, rest ++ more) := by
  unfold next at h ⊢
  split at h
  · cases h
    rfl
  · split_ifs at h ⊢ with hbang hquote hname hplain
    · split at h
      · cases h
        rfl
      · cases h
    · exact quoted_append h hmore.head?_ne_quote
    · exact quoted_append h hmore.head?_ne_nameQuote
    · cases h
      rw [hmore.takeWhile_append, hmore.dropWhile_append]

/-- The tokens of a text that goes on with something apart. -/
theorem tokens_append {ts : List Token} (h : tokens d cs = some ts) (hmore : Apart d more) :
    tokens d (cs ++ more) = (tokens d more).map (ts ++ ·) := by
  fun_induction tokens d cs generalizing ts with
  | case1 =>
    cases h
    simp
  | case2 c cs hblank ih =>
    rw [List.cons_append, tokens_cons_of_isBlank hblank]
    exact ih h
  | case3 c cs hblank t rest hnext ih =>
    obtain ⟨us, hus, rfl⟩ := Option.map_eq_some_iff.mp h
    rw [List.cons_append, tokens_cons (by simpa using hblank) (Token.next_append hnext hmore),
      ih hus, Option.map_map]
    rfl
  | case4 c cs hblank hnext => cases h

end

/-! ### The grammar -/

/-- The name that a token is in the place of one. -/
def Token.name? : Token → Option String
  | .word w => some w
  | .name s => some s
  | _ => none

/-- A column: an expression, and the name that it is given. -/
structure Column where
  expression : Expr
  name : Option String := none
  deriving DecidableEq, Repr

/-- A sub-query, the text of whose condition has not been read. -/
structure SubQuery where
  columns : List Column
  database : String
  table : String
  condition : String
  deriving DecidableEq, Repr

/-- A column. -/
inductive ReadsColumn : List Token → Column → Prop
  | bare {ts : List Token} {e : Expr} (h : Derives .disjunction ts e) : ReadsColumn ts ⟨e, none⟩
  | named {ts : List Token} {e : Expr} {t : Token} {s : String} (h : Derives .disjunction ts e)
      (ht : t.name? = some s) : ReadsColumn (ts ++ [.word "as", t]) ⟨e, some s⟩

/-- Columns with commas between them. -/
inductive ReadsColumns : List Token → List Column → Prop
  | last {ts : List Token} {c : Column} (h : ReadsColumn ts c) : ReadsColumns ts [c]
  | next {ts us : List Token} {c : Column} {cs : List Column} (h : ReadsColumn ts c)
      (hs : ReadsColumns us cs) : ReadsColumns (ts ++ .mark .comma :: us) (c :: cs)

/-- What stands before the condition. -/
inductive ReadsHead : List Token → List Column → String → String → Prop
  | select {ts : List Token} {cs : List Column} {t u : Token} {database table : String}
      (hs : ReadsColumns ts cs) (ht : t.name? = some database) (hu : u.name? = some table) :
      ReadsHead (.word "SELECT" :: (ts ++ [.word "FROM", t, .mark .dot, u])) cs database table

/-- **A text is read as a sub-query**: it can be cut in two, so that the tokens of the first part
are a head and the second part is the condition. -/
def ReadsAs (d : Dialect) (text : String) (q : SubQuery) : Prop :=
  ∃ head ts, text.toList = head ++ (" WHERE ".toList ++ q.condition.toList) ∧
    tokens d head = some ts ∧ ReadsHead ts q.columns q.database q.table

theorem ReadsColumns.of_forall₂ {tss : List (List Token)} {cs : List Column}
    (h : Forall₂ ReadsColumn tss cs) (hne : tss ≠ []) :
    ReadsColumns ([Token.mark .comma].intercalate tss) cs := by
  induction h with
  | nil => exact absurd rfl hne
  | cons h hs ih =>
    cases hs with
    | nil => simpa using ReadsColumns.last h
    | cons h' hs =>
      rw [List.intercalate_cons_cons, List.append_assoc]
      exact .next h (ih (List.cons_ne_nil _ _))

/-! ### Where they end -/

section

variable {ts us rest rest' : List Token}

/-- Where an expression ends is decided by what cannot go on with it. -/
theorem Derives.eq_of_append {e e' : Expr} (h : Derives .disjunction ts e)
    (h' : Derives .disjunction us e') (hrest : Level.disjunction.EndsBefore rest)
    (hrest' : Level.disjunction.EndsBefore rest') (heq : ts ++ rest = us ++ rest') :
    e = e' ∧ ts = us ∧ rest = rest' := by
  have hparse := parse_of_derives h (Nat.le_max_left _ (steps .disjunction us)) hrest
  have hparse' := parse_of_derives h' (Nat.le_max_right (steps .disjunction ts) _) hrest'
  rw [heq] at hparse
  obtain ⟨rfl, rfl⟩ := Prod.mk.inj (Option.some.inj (hparse.symm.trans hparse'))
  exact ⟨rfl, List.append_cancel_right heq, rfl⟩

/-- A column ends before some tokens. -/
def EndsColumn (rest : List Token) : Prop :=
  ∃ t us, rest = t :: us ∧ (t = .mark .comma ∨ t = .word "FROM")

theorem EndsColumn.comma (ts : List Token) : EndsColumn (.mark .comma :: ts) :=
  ⟨_, _, rfl, .inl rfl⟩

theorem EndsColumn.from (ts : List Token) : EndsColumn (.word "FROM" :: ts) :=
  ⟨_, _, rfl, .inr rfl⟩

theorem EndsColumn.endsBefore (h : EndsColumn rest) : Level.disjunction.EndsBefore rest := by
  obtain ⟨t, us, rfl, rfl | rfl⟩ := h <;> exact Level.endsBefore_cons (by decide) us

theorem endsBefore_as (ts : List Token) : Level.disjunction.EndsBefore (.word "as" :: ts) :=
  Level.endsBefore_cons (by decide) ts

theorem not_endsColumn_as (ts : List Token) : ¬ EndsColumn (.word "as" :: ts) := by
  rintro ⟨t, us, h, rfl | rfl⟩ <;> simp at h

/-- Where a column ends. A name that looks like the end of it is none. -/
theorem ReadsColumn.eq_of_append {c c' : Column} (h : ReadsColumn ts c) (h' : ReadsColumn us c')
    (hrest : EndsColumn rest) (hrest' : EndsColumn rest') (heq : ts ++ rest = us ++ rest') :
    c = c' ∧ ts = us ∧ rest = rest' := by
  cases h with
  | bare h =>
    cases h' with
    | bare h' =>
      obtain ⟨rfl, hts, hrests⟩ := h.eq_of_append h' hrest.endsBefore hrest'.endsBefore heq
      exact ⟨rfl, hts, hrests⟩
    | named h' ht' =>
      -- Both expressions end at the same place, so the bare one is followed by `as`.
      rw [List.append_assoc] at heq
      obtain ⟨-, -, rfl⟩ := h.eq_of_append h' hrest.endsBefore (endsBefore_as _) heq
      exact absurd hrest (not_endsColumn_as _)
  | named h ht =>
    rw [List.append_assoc] at heq
    cases h' with
    | bare h' =>
      obtain ⟨-, -, rfl⟩ := h.eq_of_append h' (endsBefore_as _) hrest'.endsBefore heq
      exact absurd hrest' (not_endsColumn_as _)
    | named h' ht' =>
      rw [List.append_assoc] at heq
      obtain ⟨rfl, rfl, hrests⟩ := h.eq_of_append h' (endsBefore_as _) (endsBefore_as _) heq
      cases hrests
      cases ht.symm.trans ht'
      exact ⟨rfl, rfl, rfl⟩

/-- Where a list of columns ends. The induction is on one of the lists; the first columns of both
end at one place, and then a comma follows in both or in none. -/
theorem ReadsColumns.eq_of_append {cs cs' : List Column} (h : ReadsColumns ts cs)
    (h' : ReadsColumns us cs')
    (heq : ts ++ .word "FROM" :: rest = us ++ .word "FROM" :: rest') :
    cs = cs' ∧ ts = us ∧ rest = rest' := by
  induction h generalizing us cs' with
  | last h =>
    cases h' with
    | last h' =>
      obtain ⟨rfl, rfl, hrests⟩ := h.eq_of_append h' (.from _) (.from _) heq
      exact ⟨rfl, rfl, (List.cons.inj hrests).2⟩
    | next h' hs' =>
      rw [List.append_assoc] at heq
      obtain ⟨-, -, hrests⟩ := h.eq_of_append h' (.from _) (.comma _) heq
      cases hrests
  | next h hs ih =>
    rw [List.append_assoc] at heq
    cases h' with
    | last h' =>
      obtain ⟨-, -, hrests⟩ := h.eq_of_append h' (.comma _) (.from _) heq
      cases hrests
    | next h' hs' =>
      rw [List.append_assoc] at heq
      obtain ⟨rfl, rfl, hrests⟩ := h.eq_of_append h' (.comma _) (.comma _) heq
      obtain ⟨rfl, rfl, rfl⟩ := ih hs' (List.cons.inj hrests).2
      exact ⟨rfl, rfl, rfl⟩

/-- **A head is no beginning of another head.** -/
theorem ReadsHead.eq_of_append {cs cs' : List Column} {database database' table table' : String}
    (h : ReadsHead ts cs database table) (h' : ReadsHead us cs' database' table')
    (heq : ts ++ rest = us ++ rest') :
    cs = cs' ∧ database = database' ∧ table = table' ∧ rest = rest' := by
  obtain ⟨hs, ht, hu⟩ := h
  obtain ⟨hs', ht', hu'⟩ := h'
  have hselect := (List.cons.inj heq).2
  rw [List.append_eq, List.append_eq, List.append_assoc, List.append_assoc] at hselect
  obtain ⟨rfl, rfl, hrests⟩ := hs.eq_of_append hs' hselect
  cases hrests
  cases ht.symm.trans ht'
  cases hu.symm.trans hu'
  exact ⟨rfl, rfl, rfl, rfl⟩

end

/-! ### Where a text is cut -/

section

variable {d : Dialect} {head between condition condition' : List Char} {ts us : List Token}

theorem toList_where : " WHERE ".toList = [' ', 'W', 'H', 'E', 'R', 'E', ' '] := by
  decide

theorem apart_where (condition : List Char) : Apart d (" WHERE ".toList ++ condition) := by
  rw [toList_where]
  rintro c ⟨⟩
  cases d <;> decide

/-- Between two places to cut one text there is a token, if they are not the same place. -/
theorem eq_nil_of_cut (h : " WHERE ".toList ++ condition =
      between ++ (" WHERE ".toList ++ condition')) (htokens : tokens d between = some []) :
    between = [] := by
  rw [toList_where] at h
  match between with
  | [] => rfl
  | [c] => simp at h
  | c :: c' :: cs =>
    obtain ⟨hblank, h⟩ := List.cons.inj h
    obtain ⟨hletter, -⟩ := List.cons.inj h
    rw [← hblank, ← hletter, tokens_cons_of_isBlank (by decide),
      tokens_cons (by decide) (next_word (by decide) cs)] at htokens
    cases hrest : tokens d (cs.dropWhile isPlainRest) <;> simp [hrest] at htokens

/-- What goes on after a place to cut is no head any more. -/
theorem eq_nil_of_readsHead {cs cs' : List Column} {database database' table table' : String}
    (htokens : tokens d head = some ts) (hhead : ReadsHead ts cs database table)
    (htokens' : tokens d (head ++ between) = some us) (hhead' : ReadsHead us cs' database' table')
    (h : " WHERE ".toList ++ condition = between ++ (" WHERE ".toList ++ condition')) :
    between = [] := by
  have hapart : Apart d between := by
    match between with
    | [] => exact apart_nil d
    | c :: cs =>
      rintro c' ⟨⟩
      exact apart_where condition _ (by rw [h]; rfl)
  rw [tokens_append htokens hapart] at htokens'
  obtain ⟨more, hmore, rfl⟩ := Option.map_eq_some_iff.mp htokens'
  obtain ⟨-, -, -, rfl⟩ := hhead.eq_of_append hhead' (List.append_nil _).symm
  exact eq_nil_of_cut h hmore

end

/-- **A text is at most one sub-query.** -/
theorem ReadsAs.unique {d : Dialect} {text : String} {q q' : SubQuery} (h : ReadsAs d text q)
    (h' : ReadsAs d text q') : q = q' := by
  obtain ⟨head, ts, htext, htokens, hhead⟩ := h
  obtain ⟨head', ts', htext', htokens', hhead'⟩ := h'
  have heads : head = head' := by
    -- One of the heads is a beginning of the other one.
    obtain ⟨between, rfl, hrest⟩ | ⟨between, rfl, hrest⟩ :=
      List.append_eq_append_iff.mp (htext.symm.trans htext')
    · rw [eq_nil_of_readsHead htokens hhead htokens' hhead' hrest, List.append_nil]
    · rw [eq_nil_of_readsHead htokens' hhead' htokens hhead hrest, List.append_nil]
  subst heads
  cases htokens.symm.trans htokens'
  have hcondition := List.append_cancel_left (List.append_cancel_left (htext.symm.trans htext'))
  obtain ⟨hcolumns, hdatabase, htable, -⟩ := hhead.eq_of_append hhead' (rfl : ts ++ [] = ts ++ [])
  obtain ⟨columns, database, table, condition⟩ := q
  obtain ⟨columns', database', table', condition'⟩ := q'
  rw [SubQuery.mk.injEq]
  exact ⟨hcolumns, hdatabase, htable, String.toList_injective hcondition⟩

end LabelFilter.Sql
