import LabelFilter.Proofs.Json.Literal
import LabelFilter.Proofs.Json.Written

/-!
# The grammar of JSON text

The grammar of JSON text, with what a text of it denotes, stated apart from how texts are read: its
rules are those of the format, and none of them knows of tokens. A text of the grammar is read to a
tree, and the tree and the text denote the same. What is written as JSON is a text of the grammar.

## Main definitions

* `Json.Term` — what a text denotes
* `Json.IsValue`, `Json.IsText` — values, and values with white space around them
* `Doc.Denotes` — what a tree denotes

## Main results

* `IsText.exists_spells` — a text of the grammar is read to a tree that denotes the same
* `IsText.exists_isText_item`, `IsText.exists_isText_member` — the parts of a text have texts
* `exists_isText_object` — an object has a text if its members have
* `isText_stringText`, `isText_listText`, `isText_objectText` — written values
-/

namespace LabelFilter.Json

open List (Forall₂)

/-- What a JSON text denotes. A number is kept as it is written, since it may be out of range. -/
inductive Term where
  | word (w : Word)
  | number (n : Number)
  | string (s : String)
  | list (items : List Term)
  | object (members : List (String × Term))

/-! ### Texts -/

/-- The letters of a word. -/
def Word.text : Word → String
  | .null => "null"
  | .true => "true"
  | .false => "false"

mutual

/-- A value. -/
inductive IsValue : List Octet → Term → Prop where
  | word (w : Word) : IsValue (octets w.text) (.word w)
  | number {bs : List Octet} {n : Number} (h : IsNumber bs n) : IsValue bs (.number n)
  | string {bs : List Octet} {s : String} (h : IsString bs s) : IsValue bs (.string s)
  | emptyList {bs : List Octet} (h : Blank bs) :
      IsValue (ascii '[' :: (bs ++ [ascii ']'])) (.list [])
  | list {bs : List Octet} {ts : List Term} (h : IsItems bs ts) :
      IsValue (ascii '[' :: (bs ++ [ascii ']'])) (.list ts)
  | emptyObject {bs : List Octet} (h : Blank bs) :
      IsValue (ascii '\x7b' :: (bs ++ [ascii '\x7d'])) (.object [])
  | object {bs : List Octet} {ms : List (String × Term)} (h : IsMembers bs ms) :
      IsValue (ascii '\x7b' :: (bs ++ [ascii '\x7d'])) (.object ms)

/-- A value with white space around it. -/
inductive IsText : List Octet → Term → Prop where
  | padded {before bs after : List Octet} {t : Term} (hbefore : Blank before) (h : IsValue bs t)
      (hafter : Blank after) : IsText (before ++ (bs ++ after)) t

/-- Values with commas between them. -/
inductive IsItems : List Octet → List Term → Prop where
  | last {bs : List Octet} {t : Term} (h : IsText bs t) : IsItems bs [t]
  | next {bs bs' : List Octet} {t : Term} {ts : List Term} (h : IsText bs t)
      (hs : IsItems bs' ts) : IsItems (bs ++ ascii ',' :: bs') (t :: ts)

/-- Keys and values with colons between them, and with commas between them. -/
inductive IsMembers : List Octet → List (String × Term) → Prop where
  | last {before bs after bs' : List Octet} {name : String} {t : Term} (hbefore : Blank before)
      (hname : IsString bs name) (hafter : Blank after) (h : IsText bs' t) :
      IsMembers (before ++ (bs ++ after) ++ ascii ':' :: bs') [(name, t)]
  | next {before bs after bs' bs'' : List Octet} {name : String} {t : Term}
      {ms : List (String × Term)} (hbefore : Blank before) (hname : IsString bs name)
      (hafter : Blank after) (h : IsText bs' t) (hs : IsMembers bs'' ms) :
      IsMembers (before ++ (bs ++ after) ++ ascii ':' :: (bs' ++ ascii ',' :: bs''))
        ((name, t) :: ms)

end

/-! ### Written texts -/

theorem IsValue.isText {bs : List Octet} {t : Term} (h : IsValue bs t) : IsText bs t := by
  have hpadded : IsText ([] ++ (bs ++ [])) t := .padded blank_nil h blank_nil
  rwa [List.nil_append, List.append_nil] at hpadded

/-- The word `null`. -/
theorem isText_null : IsText (octets "null") (.word .null) := (IsValue.word .null).isText

/-- A written string. -/
theorem isText_stringText (s : String) : IsText (octets (stringText s)) (.string s) :=
  (IsValue.string (isString_stringText s)).isText

theorem isItems_commas {text : String} {t : Term} {texts : List String} {ts : List Term}
    (h : IsText (octets text) t) (hs : Forall₂ (fun text t => IsText (octets text) t) texts ts) :
    IsItems (octets (",".intercalate (text :: texts))) (t :: ts) := by
  induction hs generalizing text t with
  | nil =>
    rw [octets_commas_singleton]
    exact .last h
  | cons hnext _ ih =>
    rw [octets_commas_cons]
    exact .next h (ih hnext)

/-- A written list. -/
theorem isText_listText {texts : List String} {ts : List Term}
    (h : Forall₂ (fun text t => IsText (octets text) t) texts ts) :
    IsText (octets (listText texts)) (.list ts) := by
  rw [octets_listText]
  cases h with
  | nil => exact (IsValue.emptyList blank_nil).isText
  | cons h hs => exact (IsValue.list (isItems_commas h hs)).isText

/-- A member of an object, as it is written and as what it denotes. -/
inductive IsMemberText : String × String → String × Term → Prop where
  | member (name : String) {text : String} {t : Term} (h : IsText (octets text) t) :
      IsMemberText (name, text) (name, t)

theorem isMembers_commas {member : String × String} {m : String × Term}
    {texts : List (String × String)} {ms : List (String × Term)} (h : IsMemberText member m)
    (hs : Forall₂ IsMemberText texts ms) :
    IsMembers (octets (",".intercalate ((member :: texts).map memberText))) (m :: ms) := by
  have hname : ∀ s, octets (stringText s) = [] ++ (octets (stringText s) ++ []) := by simp
  induction hs generalizing member m with
  | nil =>
    obtain ⟨name, hvalue⟩ := h
    rw [List.map_singleton, octets_commas_singleton, octets_memberText, hname]
    exact .last blank_nil (isString_stringText _) blank_nil hvalue
  | cons hnext _ ih =>
    obtain ⟨name, hvalue⟩ := h
    rw [List.map_cons, List.map_cons, octets_commas_cons, octets_memberText, List.append_assoc,
      hname]
    exact .next blank_nil (isString_stringText _) blank_nil hvalue (ih hnext)

/-- A written object. -/
theorem isText_objectText {texts : List (String × String)} {ms : List (String × Term)}
    (h : Forall₂ IsMemberText texts ms) : IsText (octets (objectText texts)) (.object ms) := by
  rw [octets_objectText]
  cases h with
  | nil => exact (IsValue.emptyObject blank_nil).isText
  | cons h hs => exact (IsValue.object (isMembers_commas h hs)).isText

/-! ### Trees -/

/-- What a tree denotes. -/
inductive Doc.Denotes : Doc → Term → Prop where
  | word (w : Word) : Denotes (.word w) (.word w)
  | number (n : Number) : Denotes (.number n) (.number n)
  | string {lexeme : Lexeme} {s : String} (h : lexeme.decode = .ok s) :
      Denotes (.string lexeme) (.string s)
  | list {ds : List Doc} {ts : List Term} (h : Forall₂ Denotes ds ts) :
      Denotes (.list ds none) (.list ts)
  | object {ms : List (Lexeme × Doc)} {ms' : List (String × Term)}
      (hnames : Forall₂ (fun m m' => m.1.decode = .ok m'.1) ms ms')
      (h : Forall₂ (fun m m' => Denotes m.2 m'.2) ms ms') :
      Denotes (.object ms none) (.object ms')

theorem spells_word (w : Word) : Spells (octets w.text) (.word w) where
  whole := .word w
  document := by
    cases w
    · show Document.ofOctets [ascii 'n', ascii 'u', ascii 'l', ascii 'l'] = _
      rw [Document.ofOctets, tokens_cons (by decide) rfl, tokens_nil]
      rfl
    · show Document.ofOctets [ascii 't', ascii 'r', ascii 'u', ascii 'e'] = _
      rw [Document.ofOctets, tokens_cons (by decide) rfl, tokens_nil]
      rfl
    · show Document.ofOctets [ascii 'f', ascii 'a', ascii 'l', ascii 's', ascii 'e'] = _
      rw [Document.ofOctets, tokens_cons (by decide) rfl, tokens_nil]
      rfl

/-! ### Texts are read to trees

The recursion is on how the grammar makes the text. -/

mutual

theorem IsValue.exists_spells : ∀ {bs : List Octet} {t : Term}, IsValue bs t →
    ∃ d, Spells bs d ∧ d.Denotes t
  | _, _, .word w => ⟨_, spells_word w, .word w⟩
  | _, _, .number h => ⟨_, h.spells, .number _⟩
  | _, _, .string h =>
    have ⟨_, hdecode, hkey⟩ := h.exists_lexeme
    ⟨_, hkey.spells, .string hdecode⟩
  | _, _, .emptyList h => ⟨_, .emptyList h, .list .nil⟩
  | _, _, .list h =>
    have ⟨_, hspells, hdenotes⟩ := h.exists_spells
    ⟨_, .list hspells, .list hdenotes⟩
  | _, _, .emptyObject h => ⟨_, .emptyObject h, .object .nil .nil⟩
  | _, _, .object h =>
    have ⟨_, hspells, hnames, hdenotes⟩ := h.exists_spells
    ⟨_, .object hspells, .object hnames hdenotes⟩

/-- **A text of the grammar is read to a tree that denotes the same.** -/
theorem IsText.exists_spells : ∀ {bs : List Octet} {t : Term}, IsText bs t →
    ∃ d, Spells bs d ∧ d.Denotes t
  | _, _, .padded hbefore h hafter =>
    have ⟨_, hspells, hdenotes⟩ := h.exists_spells
    ⟨_, hspells.padded hbefore hafter, hdenotes⟩

theorem IsItems.exists_spells : ∀ {bs : List Octet} {ts : List Term}, IsItems bs ts →
    ∃ ds, SpellsItems bs ds ∧ Forall₂ Doc.Denotes ds ts
  | _, _, .last h =>
    have ⟨_, hspells, hdenotes⟩ := h.exists_spells
    ⟨_, .last hspells, .cons hdenotes .nil⟩
  | _, _, .next h hs =>
    have ⟨_, hspells, hdenotes⟩ := h.exists_spells
    have ⟨_, hrest, hall⟩ := hs.exists_spells
    ⟨_, .next hspells hrest, .cons hdenotes hall⟩

theorem IsMembers.exists_spells : ∀ {bs : List Octet} {ms : List (String × Term)},
    IsMembers bs ms → ∃ ms', SpellsMembers bs ms' ∧
      Forall₂ (fun m m' => m.1.decode = .ok m'.1) ms' ms ∧
      Forall₂ (fun m m' => Doc.Denotes m.2 m'.2) ms' ms
  | _, _, .last hbefore hname hafter h =>
    have ⟨_, hdecode, hkey⟩ := hname.exists_lexeme
    have ⟨_, hspells, hdenotes⟩ := h.exists_spells
    ⟨_, .last (hkey.padded hbefore hafter) hspells, .cons hdecode .nil, .cons hdenotes .nil⟩
  | _, _, .next hbefore hname hafter h hs =>
    have ⟨_, hdecode, hkey⟩ := hname.exists_lexeme
    have ⟨_, hspells, hdenotes⟩ := h.exists_spells
    have ⟨_, hrest, hnames, hall⟩ := hs.exists_spells
    ⟨_, .next (hkey.padded hbefore hafter) hspells hrest, .cons hdecode hnames,
      .cons hdenotes hall⟩

end

/-! ### Texts of parts -/

theorem IsItems.exists_isText : ∀ {bs : List Octet} {ts : List Term},
    IsItems bs ts → ∀ t ∈ ts, ∃ bs', IsText bs' t
  | _, _, .last h => List.forall_mem_singleton.mpr ⟨_, h⟩
  | _, _, .next h hs => List.forall_mem_cons.mpr ⟨⟨_, h⟩, hs.exists_isText⟩

/-- The values in a list have texts, since they stand in that of the list. -/
theorem IsText.exists_isText_item {bs : List Octet} {ts : List Term}
    (h : IsText bs (.list ts)) : ∀ t ∈ ts, ∃ bs', IsText bs' t := by
  obtain ⟨-, h, -⟩ := h
  cases h with
  | emptyList => nofun
  | list h => exact h.exists_isText

theorem IsMembers.exists_isText : ∀ {bs : List Octet} {ms : List (String × Term)},
    IsMembers bs ms → ∀ m ∈ ms, ∃ bs', IsText bs' m.2
  | _, _, .last _ _ _ h => List.forall_mem_singleton.mpr ⟨_, h⟩
  | _, _, .next _ _ _ h hs => List.forall_mem_cons.mpr ⟨⟨_, h⟩, hs.exists_isText⟩

/-- The values of the members of an object have texts, since they stand in that of the object. -/
theorem IsText.exists_isText_member {bs : List Octet} {ms : List (String × Term)}
    (h : IsText bs (.object ms)) : ∀ m ∈ ms, ∃ bs', IsText bs' m.2 := by
  obtain ⟨-, h, -⟩ := h
  cases h with
  | emptyObject => nofun
  | object h => exact h.exists_isText

/-- An object has a text if the values of its members have. -/
theorem exists_isText_object {ms : List (String × Term)}
    (h : ∀ m ∈ ms, ∃ bs, IsText bs m.2) : ∃ bs, IsText bs (.object ms) := by
  have hmembers : ∀ m : String × Term, (∃ bs, IsText bs m.2) → ∀ ms : List (String × Term),
      (∀ m ∈ ms, ∃ bs, IsText bs m.2) → ∃ bs, IsMembers bs (m :: ms) := by
    rintro m ⟨bs, hm⟩ ms hms
    induction ms generalizing m bs with
    | nil => exact ⟨_, .last blank_nil (isString_stringText m.1) blank_nil hm⟩
    | cons m' ms ih =>
      obtain ⟨⟨bs', hm'⟩, hms⟩ := List.forall_mem_cons.mp hms
      obtain ⟨_, hrest⟩ := ih m' bs' hm' hms
      exact ⟨_, .next blank_nil (isString_stringText m.1) blank_nil hm hrest⟩
  cases ms with
  | nil => exact ⟨_, (IsValue.emptyObject blank_nil).isText⟩
  | cons m ms =>
    obtain ⟨hm, hms⟩ := List.forall_mem_cons.mp h
    obtain ⟨_, hall⟩ := hmembers m hm ms hms
    exact ⟨_, (IsValue.object hall).isText⟩

end LabelFilter.Json
