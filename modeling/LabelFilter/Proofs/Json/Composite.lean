import LabelFilter.Proofs.Json.Document

/-!
# Texts put together

What a list or an object is read as follows from what its parts are read as, and white space around
a part does not count. A part may be any text that spells a tree.

## Main definitions

* `Json.Blank` — white space
* `Json.SpellsItems`, `Json.SpellsMembers` — the insides of lists and objects that are not empty
* `Json.SpellsKey` — keys

## Main results

* `Spells.padded` — white space around a text
* `Spells.emptyList`, `Spells.list` — lists of texts that spell trees
* `Spells.emptyObject`, `Spells.object` — objects of texts that spell trees
-/

namespace LabelFilter.Json

open Document (ofTokens)

variable {bs bs' rest more : List Octet} {d : Doc} {ds : List Doc}

/-! ### White space -/

/-- White space. -/
def Blank (bs : List Octet) : Prop := ∀ b ∈ bs, isSpace b = true

theorem blank_nil : Blank [] := nofun

theorem tokens_blank_append (h : Blank bs) (rest : List Octet) :
    tokens (bs ++ rest) = tokens rest := by
  induction bs with
  | nil => rfl
  | cons b bs ih =>
    obtain ⟨hb, hbs⟩ := List.forall_mem_cons.mp h
    rw [List.cons_append, tokens_cons_of_isSpace hb, ih hbs]

theorem endsNumber_of_isSpace {b : Octet} (h : isSpace b = true) (bs : List Octet) :
    EndsNumber (b :: bs) := by
  refine endsNumber_cons ?_ bs
  simp only [isSpace, Bool.or_eq_true, decide_eq_true_eq] at h
  rcases h with ((rfl | rfl) | rfl) | rfl <;> decide

/-- A number ends in front of white space, if it ends in front of what comes after that. -/
theorem Blank.endsNumber_append (h : Blank bs) (hrest : EndsNumber rest) :
    EndsNumber (bs ++ rest) := by
  cases bs with
  | nil => exact hrest
  | cons b bs => exact endsNumber_of_isSpace (h b List.mem_cons_self) _

theorem endsNumber_nil : EndsNumber [] := nofun

theorem endsNumber_comma (bs : List Octet) : EndsNumber (ascii ',' :: bs) :=
  endsNumber_cons (by decide) bs

theorem endsNumber_closeList (bs : List Octet) : EndsNumber (ascii ']' :: bs) :=
  endsNumber_cons (by decide) bs

theorem endsNumber_closeObject (bs : List Octet) : EndsNumber (ascii '\x7d' :: bs) :=
  endsNumber_cons (by decide) bs

theorem Spells.tokens_append (h : Spells bs d) (hrest : EndsNumber rest) :
    tokens (bs ++ rest) = tokens bs ++ tokens rest :=
  Json.tokens_append (Document.ofTokens_above h.document h.whole).1 hrest

/-- White space around a text does not count. -/
theorem Spells.padded {before after : List Octet} (h : Spells bs d) (hbefore : Blank before)
    (hafter : Blank after) : Spells (before ++ (bs ++ after)) d where
  whole := h.whole
  document := by
    have hends : EndsNumber after := by
      simpa using hafter.endsNumber_append endsNumber_nil
    have hnone : tokens after = [] := by
      simpa [tokens_nil] using tokens_blank_append hafter []
    rw [Document.ofOctets, tokens_blank_append hbefore, h.tokens_append hends, hnone,
      List.append_nil]
    exact h.document

/-! ### Lists -/

/-- Texts that spell trees, with commas between them. -/
inductive SpellsItems : List Octet → List Doc → Prop where
  | last {bs : List Octet} {d : Doc} (h : Spells bs d) : SpellsItems bs [d]
  | next {bs bs' : List Octet} {d : Doc} {ds : List Doc} (h : Spells bs d)
      (hs : SpellsItems bs' ds) : SpellsItems (bs ++ ascii ',' :: bs') (d :: ds)

/-- A text that spells a tree begins with a token that begins a value. -/
theorem Spells.exists_cons (h : Spells bs d) (hrest : EndsNumber rest) :
    ∃ t ts, tokens (bs ++ rest) = t :: ts ∧ t ≠ .closeList := by
  rw [h.tokens_append hrest]
  have hdocument := h.document
  rw [Document.ofOctets] at hdocument
  cases htokens : tokens bs with
  | nil =>
    rw [htokens] at hdocument
    cases hdocument
    cases h.whole
  | cons t ts =>
    refine ⟨t, ts ++ tokens rest, rfl, ?_⟩
    rintro rfl
    rw [htokens, Document.ofTokens_cons (by nofun)] at hdocument
    have hroot : d = .broken .misplaced := by
      cases ts <;> exact (congrArg Document.root hdocument).symm
    subst hroot
    cases h.whole

/-- Where an item is due, a value is read, unless the list is closed. -/
theorem ofTokens_item {ts : List Token} (h : ∃ t ts', ts = t :: ts' ∧ t ≠ .closeList)
    (frames : List Frame) :
    ofTokens (.firstItem frames) ts = ofTokens (.value (.list [] :: frames)) ts ∧
      ∀ items,
        ofTokens (.nextItem items frames) ts = ofTokens (.value (.list items :: frames)) ts := by
  obtain ⟨t, ts, rfl, ht⟩ := h
  refine ⟨?_, fun items => ?_⟩
  · rw [Document.ofTokens_cons (by nofun), Document.ofTokens_cons (by nofun),
      Position.step_firstItem frames ht]
    rfl
  · rw [Document.ofTokens_cons (by nofun), Document.ofTokens_cons (by nofun),
      Position.step_nextItem frames ht]
    rfl

namespace SpellsItems

theorem whole (h : SpellsItems bs ds) : ∀ d ∈ ds, d.Whole := by
  induction h with
  | last h => exact List.forall_mem_singleton.mpr h.whole
  | next h _ ih => exact List.forall_mem_cons.mpr ⟨h.whole, ih⟩

theorem exists_cons (h : SpellsItems bs ds) (rest : List Octet) :
    ∃ t ts, tokens (bs ++ ascii ']' :: rest) = t :: ts ∧ t ≠ .closeList := by
  cases h with
  | last h => exact h.exists_cons (endsNumber_closeList rest)
  | next h _ =>
    rw [List.append_assoc]
    exact h.exists_cons (endsNumber_comma _)

/-- The items of a list are read behind those that have been read. -/
theorem run (h : SpellsItems bs ds) (items : List Doc) (frames : List Frame) (rest : List Octet) :
    ofTokens (.value (.list items :: frames)) (tokens (bs ++ ascii ']' :: rest)) =
      ofTokens (.close (.list (items.reverse ++ ds) none) frames) (tokens rest) := by
  induction h generalizing items with
  | @last bs d h =>
    rw [h.run _ (endsNumber_closeList rest), tokens_cons (by decide) rfl]
    show ofTokens (.close (.list (d :: items).reverse none) frames) (tokens rest) = _
    rw [List.reverse_cons]
  | @next bs bs' d ds h hs ih =>
    rw [List.append_assoc, List.cons_append, h.run _ (endsNumber_comma _),
      tokens_cons (by decide) rfl]
    show ofTokens (.nextItem (d :: items) frames) _ = _
    rw [(ofTokens_item (hs.exists_cons rest) frames).2, ih, List.reverse_cons, List.append_assoc]
    rfl

end SpellsItems

/-- A list without items. -/
theorem Spells.emptyList (h : Blank bs) :
    Spells (ascii '[' :: (bs ++ [ascii ']'])) (.list [] none) where
  whole := .list nofun
  document := by
    rw [Document.ofOctets, tokens_cons (by decide) rfl, tokens_blank_append h,
      tokens_cons (by decide) rfl, tokens_nil]
    rfl

/-- A list of texts that spell trees. -/
theorem Spells.list (h : SpellsItems bs ds) :
    Spells (ascii '[' :: (bs ++ [ascii ']'])) (.list ds none) where
  whole := .list h.whole
  document := by
    rw [Document.ofOctets, tokens_cons (by decide) rfl]
    show ofTokens (.firstItem []) _ = _
    rw [(ofTokens_item (h.exists_cons []) []).1, h.run [] [] [], tokens_nil]
    rfl

/-! ### Objects -/

variable {key : Lexeme} {ms : List (Lexeme × Doc)}

/-- A text that is read as a key, whatever follows it. -/
structure SpellsKey (bs : List Octet) (key : Lexeme) : Prop where
  closed : key.stop = .closed
  tokens_append : ∀ rest, tokens (bs ++ rest) = .string key :: tokens rest

/-- A key is a value too, where one is due. -/
theorem SpellsKey.spells (h : SpellsKey bs key) : Spells bs (.string key) where
  whole := .string h.closed
  document := by
    have htokens := h.tokens_append []
    rw [List.append_nil, tokens_nil] at htokens
    rw [Document.ofOctets, htokens, Document.ofTokens_cons (by nofun)]
    show Document.ofTokens (if key.stop = .closed then _ else _) [] = _
    rw [if_pos h.closed]
    rfl

/-- White space around a key does not count. -/
theorem SpellsKey.padded {before after : List Octet} (h : SpellsKey bs key)
    (hbefore : Blank before) (hafter : Blank after) :
    SpellsKey (before ++ (bs ++ after)) key where
  closed := h.closed
  tokens_append rest := by
    rw [List.append_assoc, tokens_blank_append hbefore, List.append_assoc, h.tokens_append,
      tokens_blank_append hafter]

/-- Keys with texts that spell trees, with commas between them. -/
inductive SpellsMembers : List Octet → List (Lexeme × Doc) → Prop where
  | last {bs bs' : List Octet} {key : Lexeme} {d : Doc} (hkey : SpellsKey bs key)
      (h : Spells bs' d) : SpellsMembers (bs ++ ascii ':' :: bs') [(key, d)]
  | next {bs bs' bs'' : List Octet} {key : Lexeme} {d : Doc} {ms : List (Lexeme × Doc)}
      (hkey : SpellsKey bs key) (h : Spells bs' d) (hs : SpellsMembers bs'' ms) :
      SpellsMembers (bs ++ ascii ':' :: (bs' ++ ascii ',' :: bs'')) ((key, d) :: ms)

/-- Whether a key is due at a position, behind some members and inside of some frames. -/
def KeyDue (p : Position) (members : List (Lexeme × Doc)) (frames : List Frame) : Prop :=
  ∀ key ts, key.stop = .closed →
    ofTokens p (.string key :: ts) = ofTokens (.afterKey members key frames) ts

theorem keyDue_firstKey (frames : List Frame) : KeyDue (.firstKey frames) [] frames := by
  intro key ts hkey
  rw [Document.ofTokens_cons (by nofun), Position.step_firstKey frames (by nofun),
    Position.stepKey, if_pos hkey]

theorem keyDue_nextKey (members : List (Lexeme × Doc)) (frames : List Frame) :
    KeyDue (.nextKey members frames) members frames := by
  intro key ts hkey
  rw [Document.ofTokens_cons (by nofun), Position.step_nextKey frames (by nofun),
    Position.stepKey, if_pos hkey]

/-- The key of a member and the colon are read, and its value is due. -/
theorem SpellsKey.run (h : SpellsKey bs key) {p : Position} {members : List (Lexeme × Doc)}
    {frames : List Frame} (hp : KeyDue p members frames) (rest : List Octet) :
    ofTokens p (tokens (bs ++ ascii ':' :: rest)) =
      ofTokens (.value (.object members key :: frames)) (tokens rest) := by
  rw [h.tokens_append, tokens_cons (by decide) rfl, hp _ _ h.closed]
  rfl

namespace SpellsMembers

theorem closed (h : SpellsMembers bs ms) : ∀ m ∈ ms, m.1.stop = .closed := by
  induction h with
  | last hkey _ => exact List.forall_mem_singleton.mpr hkey.closed
  | next hkey _ _ ih => exact List.forall_mem_cons.mpr ⟨hkey.closed, ih⟩

theorem whole (h : SpellsMembers bs ms) : ∀ m ∈ ms, m.2.Whole := by
  induction h with
  | last _ h => exact List.forall_mem_singleton.mpr h.whole
  | next _ h _ ih => exact List.forall_mem_cons.mpr ⟨h.whole, ih⟩

/-- The members of an object are read behind those that have been read. -/
theorem run (h : SpellsMembers bs ms) {p : Position} {members : List (Lexeme × Doc)}
    {frames : List Frame} (hp : KeyDue p members frames) (rest : List Octet) :
    ofTokens p (tokens (bs ++ ascii '\x7d' :: rest)) =
      ofTokens (.close (.object (members.reverse ++ ms) none) frames) (tokens rest) := by
  induction h generalizing p members with
  | @last bs bs' key d hkey h =>
    rw [List.append_assoc, List.cons_append, hkey.run hp, h.run _ (endsNumber_closeObject rest),
      tokens_cons (by decide) rfl]
    show ofTokens (.close (.object ((key, d) :: members).reverse none) frames) _ = _
    rw [List.reverse_cons]
  | @next bs bs' bs'' key d ms hkey h hs ih =>
    rw [List.append_assoc, List.cons_append, List.append_assoc, List.cons_append, hkey.run hp,
      h.run _ (endsNumber_comma _), tokens_cons (by decide) rfl]
    show ofTokens (.nextKey ((key, d) :: members) frames) _ = _
    rw [ih (keyDue_nextKey _ frames), List.reverse_cons, List.append_assoc]
    rfl

end SpellsMembers

/-- An object without members. -/
theorem Spells.emptyObject (h : Blank bs) :
    Spells (ascii '\x7b' :: (bs ++ [ascii '\x7d'])) (.object [] none) where
  whole := .object nofun nofun
  document := by
    rw [Document.ofOctets, tokens_cons (by decide) rfl, tokens_blank_append h,
      tokens_cons (by decide) rfl, tokens_nil]
    rfl

/-- An object of keys and texts that spell trees. -/
theorem Spells.object (h : SpellsMembers bs ms) :
    Spells (ascii '\x7b' :: (bs ++ [ascii '\x7d'])) (.object ms none) where
  whole := .object h.closed h.whole
  document := by
    rw [Document.ofOctets, tokens_cons (by decide) rfl]
    show ofTokens (.firstKey []) _ = _
    rw [h.run (keyDue_firstKey []), tokens_nil]
    rfl

end LabelFilter.Json
