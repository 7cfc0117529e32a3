import LabelFilter.Proofs.Filter.Body
import LabelFilter.Proofs.Json.Exact

/-!
# Documents that are filters

What a document must look like to be a filter, and which filter it is then. Members that are not
asked for do not count, and whether an item states a condition is not asked.

## Main definitions

* `Term.IsCombinator`, `Term.IsOperand`, `Term.IsItem`, `Term.IsFilter` — the documents

## Main results

* `Filter.exact_ofDoc` — the documents that are read as filters
* `Filter.ofBody_of_isText` — what a body is decoded to
-/

namespace LabelFilter

open List (Forall₂)
open Json (Doc Decoder Term Once Slot Lexeme Value IsText IsMemberText Spells octets objectText
  listText stringText exact_asString exact_asWord)

/-! ### The documents -/

namespace Json.Term

/-- The words for a combinator. -/
def IsCombinator : Term → Combinator → Prop :=
  IsWordOf [("AND", .all), ("and", .all), ("OR", .any), ("or", .any)]

/-- An operand: a string or a list of strings, or `null` for none. -/
inductive IsOperand : Term → Option Operand → Prop where
  | null : IsOperand (.word .null) none
  | single (s : String) : IsOperand (.string s) (some (.single s))
  | list (ss : List String) : IsOperand (.list (ss.map .string)) (some (.list ss))

/-- An item: an object with a key, an operator and perhaps a value, or a list of the three. -/
inductive IsItem : Term → Item → Prop where
  | object {ms : List (String × Term)} {key operator : String} {operand : Option (Option Operand)}
      (hkey : Once IsTextOf (named "key" ms) (some key))
      (hoperand : Once IsOperand (named "value" ms) operand)
      (hoperator : Once IsTextOf (named "op" ms) (some operator)) :
      IsItem (.object ms) ⟨key, operand.getD none, operator⟩
  | list {t : Term} {operand : Option Operand} (key operator : String) (h : IsOperand t operand) :
      IsItem (.list [.string key, t, .string operator]) ⟨key, operand, operator⟩

/-- A filter: an object with perhaps a combinator and perhaps a list of items, or a list of the two
or of less. -/
inductive IsFilter : Term → Filter → Prop where
  | object {ms : List (String × Term)} {op : Option Combinator} {items : Option (List Item)}
      (hop : Once IsCombinator (named "op" ms) op)
      (hitems : Once (IsListOf IsItem) (named "items" ms) items) :
      IsFilter (.object ms) ⟨op.getD .all, items.getD []⟩
  | emptyList : IsFilter (.list []) ⟨.all, []⟩
  | combinator {t : Term} {op : Combinator} (h : IsCombinator t op) : IsFilter (.list [t]) ⟨op, []⟩
  | list {t t' : Term} {op : Combinator} {items : List Item} (h : IsCombinator t op)
      (hitems : IsListOf IsItem t' items) : IsFilter (.list [t, t']) ⟨op, items⟩

end Json.Term

/-! ### Operands -/

theorem textsOfValues?_eq_some_iff {values : List Value} {ss : List String} :
    textsOfValues? values = some ss ↔ values = ss.map .string := by
  induction values generalizing ss with
  | nil => cases ss <;> simp [textsOfValues?]
  | cons v values ih =>
    rw [textsOfValues?, List.mapM_cons]
    change (_ >>= fun s => textsOfValues? values >>= fun ss' => pure (s :: ss')) = _ ↔ _
    cases v with
    | string s =>
      cases ss with
      | nil => cases textsOfValues? values <;> simp
      | cons s' ss => cases h : textsOfValues? values <;> simp [← ih, h]
    | _ => cases ss <;> simp

/-- A value is kept as a string if it is one. -/
theorem value_eq_string_iff (room : Nat) {d : Doc} {t : Term} (h : d.Denotes t) (s : String) :
    d.value room = .ok (.string s) ↔ t = .string s := by
  cases h with
  | word w => cases w <;> simp [Doc.value]
  | number n =>
    rw [Doc.value]
    cases n.decode <;> exact ⟨nofun, nofun⟩
  | string h => simp [Doc.value, h, Except.map]
  | list _ | object _ _ =>
    refine ⟨fun h => ?_, nofun⟩
    cases room with
    | zero => simp [Doc.value] at h
    | succ room =>
      rw [Doc.value] at h
      obtain ⟨_, -, h⟩ := bind_eq_ok_iff.mp h
      cases h

/-- A list is an operand if all values in it are strings. -/
theorem Operand.ofDoc_list_eq_ok_iff {room : Nat} {ds : List Doc} {o : Option Operand} :
    Operand.ofDoc (room + 1) (.list ds none) = .ok o ↔
      ∃ ss, Forall₂ (fun d s => d.value room = .ok (.string s)) ds ss ∧ o = some (.list ss) := by
  have hstrings : ∀ ss, Forall₂ (fun d s => d.value room = .ok (.string s)) ds ss ↔
      ∃ values, ds.mapM (Doc.value room) = .ok values ∧ textsOfValues? values = some ss := by
    intro ss
    simp [textsOfValues?_eq_some_iff, mapM_eq_ok_iff, List.forall₂_map_right_iff]
  simp only [hstrings]
  show Except.map some ((Doc.list ds none).value (room + 1) >>= Operand.ofValue) = _ ↔ _
  rw [Doc.value]
  cases ds.mapM (Doc.value room) with
  | error e => exact ⟨nofun, fun ⟨_, ⟨_, h, _⟩, _⟩ => by cases h⟩
  | ok values =>
    show Except.map some (Operand.ofValue (.list values)) = _ ↔ _
    rw [Operand.ofValue, Operand.ofValue?]
    cases htexts : textsOfValues? values with
    | none => simp [htexts, Except.map]
    | some ss => simp [htexts, Except.map, eq_comm]

theorem Operand.exact_ofDoc (room : Nat) :
    Decoder.Exact (Operand.ofDoc (room + 1)) Term.IsOperand := by
  intro d t h o
  cases h with
  | word w => cases w with
    | null => exact ⟨fun | rfl => .null, fun | .null => rfl⟩
    | _ => exact ⟨nofun, nofun⟩
  | number n =>
    have herror : Operand.ofDoc (room + 1) (.number n) ≠ .ok o := by
      show Except.map some (n.decode.map Value.number >>= Operand.ofValue) ≠ .ok o
      cases n.decode <;> nofun
    exact ⟨fun h => absurd h herror, nofun⟩
  | @string lexeme s h =>
    have hok : Operand.ofDoc (room + 1) (.string lexeme) = .ok (some (.single s)) := by
      show Except.map some (lexeme.decode.map Value.string >>= Operand.ofValue) = _
      rw [h]
      rfl
    rw [hok]
    exact ⟨fun | rfl => .single s, fun | .single _ => rfl⟩
  | @list ds ts hds =>
    rw [Operand.ofDoc_list_eq_ok_iff]
    simp only [forall₂_iff_of_forall₂ hds fun d t h s => value_eq_string_iff room h s]
    constructor
    · rintro ⟨ss, hss, rfl⟩
      obtain rfl : ts = ss.map .string := by
        rw [← List.forall₂_eq_eq_eq, List.forall₂_map_right_iff]
        exact hss
      exact .list ss
    · rintro (_ | _ | ⟨ss⟩)
      refine ⟨ss, ?_, rfl⟩
      rw [List.forall₂_map_left_iff, List.forall₂_same]
      exact fun _ _ => rfl
  | @object ms ms' _ _ =>
    have herror : Operand.ofDoc (room + 1) (.object ms none) ≠ .ok o := by
      show Except.map some ((Doc.object ms none).value (room + 1) >>= Operand.ofValue) ≠ .ok o
      cases hvalue : (Doc.object ms none).value (room + 1) with
      | error e => nofun
      | ok v =>
        rw [Doc.value] at hvalue
        obtain ⟨values, -, hvalue⟩ := bind_eq_ok_iff.mp hvalue
        cases hvalue
        nofun
    exact ⟨fun h => absurd h herror, nofun⟩

/-! ### Items -/

namespace Item.Fields

variable {room : Nat}

/-- The field for the key. -/
def keySlot : Slot Fields String := ⟨"key", key, Doc.asString⟩

/-- The field for the operand. -/
def operandSlot (room : Nat) : Slot Fields (Option Operand) :=
  ⟨"value", operand, Operand.ofDoc room⟩

/-- The field for the operator. -/
def operatorSlot : Slot Fields String := ⟨"op", operator, Doc.asString⟩

/-- A step leaves all fields alone but the one that has the name of the member. -/
theorem read_frame {f f' : Fields} {name : String} {d : Doc}
    (h : read room f name d = .ok f') :
    (name ≠ "key" → f'.key = f.key) ∧ (name ≠ "value" → f'.operand = f.operand) ∧
      (name ≠ "op" → f'.operator = f.operator) := by
  unfold read at h
  split at h
  all_goals
    obtain ⟨_, -, h⟩ := bind_eq_ok_iff.mp h
    cases h
    simp

theorem filledBy_key : keySlot.FilledBy (read room) where
  own h := Slot.own_of_once h fun _ => rfl
  other hname h := (read_frame h).1 hname

theorem filledBy_operand : (operandSlot room).FilledBy (read room) where
  own h := Slot.own_of_once h fun _ => rfl
  other hname h := (read_frame h).2.1 hname

theorem filledBy_operator : operatorSlot.FilledBy (read room) where
  own h := Slot.own_of_once h fun _ => rfl
  other hname h := (read_frame h).2.2 hname

theorem members_read_iff {ms : List (Lexeme × Doc)}
    (h : ∀ m ∈ ms, (∃ name, m.1.decode = .ok name) ∧ m.2.skip = .ok ()) {f : Fields} :
    Doc.members (read room) {} ms none = .ok f ↔
      Once (Decoder.Reads Doc.asString) (Doc.named "key" ms) f.key ∧
      Once (Decoder.Reads (Operand.ofDoc room)) (Doc.named "value" ms) f.operand ∧
      Once (Decoder.Reads Doc.asString) (Doc.named "op" ms) f.operator := by
  constructor
  · intro h
    exact ⟨filledBy_key.members rfl h, filledBy_operand.members rfl h,
      filledBy_operator.members rfl h⟩
  · rintro ⟨hkey, hoperand, hoperator⟩
    obtain ⟨f', hf'⟩ : ∃ f', Doc.members (read room) {} ms none = .ok f' := by
      refine Doc.exists_members_eq_ok fun before m after s hms hs => ?_
      obtain ⟨⟨name, hname⟩, hskip⟩ := h m (by simp [hms])
      refine ⟨name, hname, ?_⟩
      subst hms
      unfold read
      split
      · exact Slot.exists_of_once (filledBy_key.ready rfl hkey hs hname) _
      · exact Slot.exists_of_once (filledBy_operand.ready rfl hoperand hs hname) _
      · exact Slot.exists_of_once (filledBy_operator.ready rfl hoperator hs hname) _
      · exact ⟨s, by rw [hskip]; rfl⟩
    obtain rfl : f' = f := by
      cases f
      cases f'
      congr
      · exact (filledBy_key.members rfl hf').unique hkey
      · exact (filledBy_operand.members rfl hf').unique hoperand
      · exact (filledBy_operator.members rfl hf').unique hoperator
    exact hf'

/-- The item with these fields, if the two that must be stated are. -/
theorem toItem_eq_ok_iff {f : Fields} {item : Item} : f.toItem = .ok item ↔
    f.key = some item.key ∧ f.operand.getD none = item.operand ∧
      f.operator = some item.operator := by
  obtain ⟨key, operand, operator⟩ := f
  obtain ⟨key', operand', operator'⟩ := item
  cases key with
  | none => exact ⟨nofun, nofun⟩
  | some key =>
    cases operator with
    | none => exact ⟨nofun, nofun⟩
    | some operator => simp [toItem, Doc.need, bind, Except.bind, pure, Except.pure]

end Item.Fields

theorem Item.ofDoc_list_eq_ok_iff {room : Nat} {ds : List Doc} {item : Item} :
    Item.ofDoc room (.list ds none) = .ok item ↔ ∃ d₁ d₂ d₃, ds = [d₁, d₂, d₃] ∧
      Doc.asString d₁ = .ok item.key ∧ Operand.ofDoc room d₂ = .ok item.operand ∧
        Doc.asString d₃ = .ok item.operator := by
  constructor
  · intro h
    obtain ⟨⟨key, ds₁⟩, hkey, h⟩ := bind_eq_ok_iff.mp h
    obtain ⟨⟨operand, ds₂⟩, hoperand, h⟩ := bind_eq_ok_iff.mp h
    obtain ⟨⟨operator, ds₃⟩, hoperator, h⟩ := bind_eq_ok_iff.mp h
    obtain ⟨_, hend, h⟩ := bind_eq_ok_iff.mp h
    cases h
    obtain ⟨-, h, -⟩ | ⟨d₁, rfl, h₁⟩ := Doc.nextOr_eq_ok_iff.mp hkey
    · cases h
    obtain ⟨-, h, -⟩ | ⟨d₃, rfl, h₃⟩ := Doc.nextOr_eq_ok_iff.mp hoperator
    · cases h
    obtain ⟨-, -, h⟩ | ⟨d₂, rfl, h₂⟩ := Doc.nextOr_eq_ok_iff.mp hoperand
    · cases h
    cases Doc.endItems_eq_ok_iff.mp hend
    exact ⟨d₁, d₂, d₃, rfl, h₁, h₂, h₃⟩
  · rintro ⟨d₁, d₂, d₃, rfl, h₁, h₂, h₃⟩
    refine bind_eq_ok_iff.mpr ⟨_, Doc.nextOr_eq_ok_iff.mpr (.inr ⟨d₁, rfl, h₁⟩), ?_⟩
    refine bind_eq_ok_iff.mpr ⟨_, Doc.nextOr_eq_ok_iff.mpr (.inr ⟨d₂, rfl, h₂⟩), ?_⟩
    exact bind_eq_ok_iff.mpr ⟨_, Doc.nextOr_eq_ok_iff.mpr (.inr ⟨d₃, rfl, h₃⟩), rfl⟩

/-- **The documents that are read as items.** -/
theorem Item.exact_ofDoc (room : Nat) : Decoder.Exact (Item.ofDoc (room + 1)) Term.IsItem := by
  have hoperand := Operand.exact_ofDoc room
  rintro d t h ⟨key, operand, operator⟩
  cases h with
  | @list ds ts hds =>
    rw [Item.ofDoc_list_eq_ok_iff]
    constructor
    · rintro ⟨d₁, d₂, d₃, rfl, h₁, h₂, h₃⟩
      rcases hds with _ | ⟨hd₁, _ | ⟨hd₂, _ | ⟨hd₃, _ | _⟩⟩⟩
      cases (exact_asString _ _ hd₁ _).mp h₁
      cases (exact_asString _ _ hd₃ _).mp h₃
      exact .list key operator ((hoperand _ _ hd₂ _).mp h₂)
    · rintro (_ | ⟨_, _, h⟩)
      rcases hds with _ | ⟨hd₁, _ | ⟨hd₂, _ | ⟨hd₃, _ | _⟩⟩⟩
      exact ⟨_, _, _, rfl, (exact_asString _ _ hd₁ _).mpr rfl, (hoperand _ _ hd₂ _).mpr h,
        (exact_asString _ _ hd₃ _).mpr rfl⟩
  | @object ms ms' hnames hvalues =>
    show Doc.members (Item.Fields.read (room + 1)) {} ms none >>= Item.Fields.toItem = _ ↔ _
    simp only [bind_eq_ok_iff, Item.Fields.toItem_eq_ok_iff,
      Item.Fields.members_read_iff (Json.readable_of_denotes hnames hvalues),
      exact_asString.once_iff hnames hvalues, hoperand.once_iff hnames hvalues]
    constructor
    · rintro ⟨⟨_, operand', _⟩, ⟨hkey, hvalue, hop⟩, rfl, rfl, rfl⟩
      exact .object hkey hvalue hop
    · rintro (⟨hkey, hvalue, hop⟩ | _)
      exact ⟨⟨_, _, _⟩, ⟨hkey, hvalue, hop⟩, rfl, rfl, rfl⟩
  | _ => exact ⟨fun h => absurd h Doc.unexpected_ne_ok, nofun⟩

/-! ### Filters -/

namespace Filter

/-- The members of a filter that have been read: its combinator and its items. -/
abbrev Fields := Option Combinator × Option (List Item)

/-- Read one member. -/
def readMember (room : Nat) (f : Fields) (name : String) (d : Doc) : Except Json.Fault Fields :=
  match name with
  | "op" => do return (← Doc.once "op" f.1 Combinator.ofDoc d, f.2)
  | "items" => do return (f.1, ← Doc.once "items" f.2 (Doc.asList (Item.ofDoc room)) d)
  | _ => do
    d.skip
    return f

theorem ofDoc_object (room : Nat) (ms : List (Lexeme × Doc)) :
    Filter.ofDoc (room + 3) (.object ms none) = do
      let f ← Doc.members (readMember room) (none, none) ms none
      return ⟨f.1.getD .all, f.2.getD []⟩ := by
  rfl

theorem ofDoc_list (room : Nat) (ds : List Doc) :
    Filter.ofDoc (room + 3) (.list ds none) = do
      let (op, ds) ← Doc.nextOr (.ok .all) Combinator.ofDoc ds none
      let (items, ds) ← Doc.nextOr (.ok []) (Doc.asList (Item.ofDoc room)) ds none
      Doc.endItems ds none
      return ⟨op, items⟩ := by
  rfl

variable {room : Nat}

/-- The field for the combinator. -/
def opSlot : Slot Fields Combinator := ⟨"op", Prod.fst, Combinator.ofDoc⟩

/-- The field for the items. -/
def itemsSlot (room : Nat) : Slot Fields (List Item) :=
  ⟨"items", Prod.snd, Doc.asList (Item.ofDoc room)⟩

/-- A step leaves all fields alone but the one that has the name of the member. -/
theorem readMember_frame {f f' : Fields} {name : String} {d : Doc}
    (h : readMember room f name d = .ok f') :
    (name ≠ "op" → f'.1 = f.1) ∧ (name ≠ "items" → f'.2 = f.2) := by
  unfold readMember at h
  split at h
  all_goals
    obtain ⟨_, -, h⟩ := bind_eq_ok_iff.mp h
    cases h
    simp

theorem filledBy_op : opSlot.FilledBy (readMember room) where
  own h := Slot.own_of_once h fun _ => rfl
  other hname h := (readMember_frame h).1 hname

theorem filledBy_items : (itemsSlot room).FilledBy (readMember room) where
  own h := Slot.own_of_once h fun _ => rfl
  other hname h := (readMember_frame h).2 hname

theorem members_readMember_iff {ms : List (Lexeme × Doc)}
    (h : ∀ m ∈ ms, (∃ name, m.1.decode = .ok name) ∧ m.2.skip = .ok ()) {f : Fields} :
    Doc.members (readMember room) (none, none) ms none = .ok f ↔
      Once (Decoder.Reads Combinator.ofDoc) (Doc.named "op" ms) f.1 ∧
      Once (Decoder.Reads (Doc.asList (Item.ofDoc room))) (Doc.named "items" ms) f.2 := by
  constructor
  · intro h
    exact ⟨filledBy_op.members rfl h, filledBy_items.members rfl h⟩
  · rintro ⟨hop, hitems⟩
    obtain ⟨f', hf'⟩ : ∃ f', Doc.members (readMember room) (none, none) ms none = .ok f' := by
      refine Doc.exists_members_eq_ok fun before m after s hms hs => ?_
      obtain ⟨⟨name, hname⟩, hskip⟩ := h m (by simp [hms])
      refine ⟨name, hname, ?_⟩
      subst hms
      unfold readMember
      split
      · exact Slot.exists_of_once (filledBy_op.ready rfl hop hs hname) _
      · exact Slot.exists_of_once (filledBy_items.ready rfl hitems hs hname) _
      · exact ⟨s, by rw [hskip]; rfl⟩
    obtain rfl : f' = f :=
      Prod.ext ((filledBy_op.members rfl hf').unique hop)
        ((filledBy_items.members rfl hf').unique hitems)
    exact hf'

theorem ofDoc_list_eq_ok_iff {ds : List Doc} {f : Filter} :
    Filter.ofDoc (room + 3) (.list ds none) = .ok f ↔
      ds = [] ∧ f = ⟨.all, []⟩ ∨
      (∃ d, ds = [d] ∧ Combinator.ofDoc d = .ok f.combinator ∧ f.items = []) ∨
      ∃ d d', ds = [d, d'] ∧ Combinator.ofDoc d = .ok f.combinator ∧
        Doc.asList (Item.ofDoc room) d' = .ok f.items := by
  rw [ofDoc_list]
  obtain ⟨op, items⟩ := f
  constructor
  · intro h
    obtain ⟨⟨op, ds₁⟩, hop, h⟩ := bind_eq_ok_iff.mp h
    obtain ⟨⟨items, ds₂⟩, hitems, h⟩ := bind_eq_ok_iff.mp h
    obtain ⟨_, hend, h⟩ := bind_eq_ok_iff.mp h
    cases h
    cases Doc.endItems_eq_ok_iff.mp hend
    obtain ⟨rfl, hall, rfl⟩ | ⟨d, rfl, hd⟩ := Doc.nextOr_eq_ok_iff.mp hop
    · obtain ⟨-, hnone, -⟩ | ⟨d', hcons, -⟩ := Doc.nextOr_eq_ok_iff.mp hitems
      · cases hall
        cases hnone
        exact .inl ⟨rfl, rfl⟩
      · cases hcons
    · obtain ⟨rfl, hnone, -⟩ | ⟨d', rfl, hd'⟩ := Doc.nextOr_eq_ok_iff.mp hitems
      · cases hnone
        exact .inr (.inl ⟨d, rfl, hd, rfl⟩)
      · exact .inr (.inr ⟨d, d', rfl, hd, hd'⟩)
  · rintro (⟨rfl, ⟨⟩⟩ | ⟨d, rfl, h, rfl⟩ | ⟨d, d', rfl, h, h'⟩)
    · rfl
    · refine bind_eq_ok_iff.mpr ⟨_, Doc.nextOr_eq_ok_iff.mpr (.inr ⟨d, rfl, h⟩), ?_⟩
      rfl
    · refine bind_eq_ok_iff.mpr ⟨_, Doc.nextOr_eq_ok_iff.mpr (.inr ⟨d, rfl, h⟩), ?_⟩
      exact bind_eq_ok_iff.mpr ⟨_, Doc.nextOr_eq_ok_iff.mpr (.inr ⟨d', rfl, h'⟩), rfl⟩

/-- **The documents that are read as filters**, if there is room for the values in their items. -/
theorem exact_ofDoc (room : Nat) : Decoder.Exact (Filter.ofDoc (room + 4)) Term.IsFilter := by
  have hop : Decoder.Exact Combinator.ofDoc Term.IsCombinator := exact_asWord _
  have hitems : Decoder.Exact (Doc.asList (Item.ofDoc (room + 1))) (Term.IsListOf Term.IsItem) :=
    (Item.exact_ofDoc room).asList
  intro d t h f
  cases h with
  | list hds =>
    rw [ofDoc_list_eq_ok_iff]
    constructor
    · rintro (⟨rfl, rfl⟩ | ⟨d, rfl, h, hnone⟩ | ⟨d, d', rfl, h, h'⟩)
      · cases hds
        exact .emptyList
      · rcases hds with _ | ⟨hd, _ | _⟩
        obtain ⟨op, items⟩ := f
        cases hnone
        exact .combinator ((hop _ _ hd _).mp h)
      · rcases hds with _ | ⟨hd, _ | ⟨hd', _ | _⟩⟩
        exact .list ((hop _ _ hd _).mp h) ((hitems _ _ hd' _).mp h')
    · rintro (_ | _ | h | ⟨h, h'⟩)
      · cases hds
        exact .inl ⟨rfl, rfl⟩
      · rcases hds with _ | ⟨hd, _ | _⟩
        exact .inr (.inl ⟨_, rfl, (hop _ _ hd _).mpr h, rfl⟩)
      · rcases hds with _ | ⟨hd, _ | ⟨hd', _ | _⟩⟩
        exact .inr (.inr ⟨_, _, rfl, (hop _ _ hd _).mpr h, (hitems _ _ hd' _).mpr h'⟩)
  | object hnames hvalues =>
    rw [ofDoc_object]
    simp only [bind_eq_ok_iff, members_readMember_iff (Json.readable_of_denotes hnames hvalues),
      hop.once_iff hnames hvalues, hitems.once_iff hnames hvalues]
    constructor
    · rintro ⟨f, ⟨hcombinator, hlist⟩, ⟨⟩⟩
      exact .object hcombinator hlist
    · rintro ⟨hcombinator, hlist⟩
      exact ⟨(_, _), ⟨hcombinator, hlist⟩, rfl⟩
  | _ => exact ⟨fun h => absurd h Doc.unexpected_ne_ok, nofun⟩

/-! ### Bodies -/

section

variable {body : ByteArray} {limit : Nat} {t : Term}

theorem ofBody_of_spells {d : Doc} (h : Spells body.toList d) (hsize : body.size ≤ maxBodySize) :
    ofBody body limit = do
      let f ← (Filter.ofDoc Doc.maxDepth d).mapError .malformed
      f.checkCount limit
      return f := by
  rw [ofBody, decodeBody_of_spells h hsize]

/-- A body that is a filter. -/
theorem ofBody_of_isFilter (htext : IsText body.toList t) (hsize : body.size ≤ maxBodySize)
    {f : Filter} (hf : t.IsFilter f) : ofBody body limit =
      if limit < f.items.length then .error (.tooManyItems limit f.items.length) else .ok f := by
  obtain ⟨d, hspells, hdenotes⟩ := htext.exists_spells
  have hread : Filter.ofDoc Doc.maxDepth d = .ok f := (exact_ofDoc 123 d t hdenotes f).mpr hf
  rw [ofBody_of_spells hspells hsize, hread]
  show (f.checkCount limit >>= fun _ => pure f) = _
  rw [checkCount]
  split <;> rfl

/-- A body that is a document and no filter. -/
theorem ofBody_of_not_isFilter (htext : IsText body.toList t) (hsize : body.size ≤ maxBodySize)
    (hnone : ¬ ∃ f, t.IsFilter f) : ∃ fault, ofBody body limit = .error (.malformed fault) := by
  obtain ⟨d, hspells, hdenotes⟩ := htext.exists_spells
  rw [ofBody_of_spells hspells hsize]
  cases hread : Filter.ofDoc Doc.maxDepth d with
  | error fault => exact ⟨fault, rfl⟩
  | ok f => exact absurd ⟨f, (exact_ofDoc 123 d t hdenotes f).mp hread⟩ hnone

/-- A body that is a document is a filter with few enough items, one with too many, or none. -/
theorem ofBody_cases (htext : IsText body.toList t) (hsize : body.size ≤ maxBodySize) :
    (∃ f, t.IsFilter f ∧ f.items.length ≤ limit ∧ ofBody body limit = .ok f) ∨
      (∃ f, t.IsFilter f ∧ limit < f.items.length ∧
        ofBody body limit = .error (.tooManyItems limit f.items.length)) ∨
      ∃ fault, ofBody body limit = .error (.malformed fault) := by
  by_cases hsome : ∃ f, t.IsFilter f
  · obtain ⟨f, hf⟩ := hsome
    have hbody := @ofBody_of_isFilter body limit t htext hsize f hf
    split at hbody
    · next hcount => exact .inr (.inl ⟨f, hf, hcount, hbody⟩)
    · next hcount => exact .inl ⟨f, hf, Nat.not_lt.mp hcount, hbody⟩
  · exact .inr (.inr (ofBody_of_not_isFilter htext hsize hsome))

/-- A body that is too long is refused unread. -/
theorem ofBody_of_lt (hsize : maxBodySize < body.size) :
    ofBody body limit = .error (.tooLarge maxBodySize) := by
  rw [ofBody, decodeBody, if_pos hsize]
  rfl

end

/-- **The filter that a body holds** is decided by the length of the body and by what its text
denotes: a filter with few enough items, one with too many, or none. -/
theorem ofBody_of_isText (body : ByteArray) (limit : Nat) :
    (65536 < body.size → ofBody body limit = .error (.tooLarge 65536)) ∧
    ∀ t, body.size ≤ 65536 → IsText body.toList t →
      (∀ f, ofBody body limit = .ok f ↔ t.IsFilter f ∧ f.items.length ≤ limit) ∧
      (∀ l n, ofBody body limit = .error (.tooManyItems l n) ↔
        l = limit ∧ limit < n ∧ ∃ f, t.IsFilter f ∧ f.items.length = n) ∧
      ((∃ fault, ofBody body limit = .error (.malformed fault)) ↔ ¬ ∃ f, t.IsFilter f) := by
  refine ⟨ofBody_of_lt, fun t hsize htext => ?_⟩
  have hcases := @ofBody_cases body limit t htext hsize
  refine ⟨fun f => ⟨fun h => ?_, ?_⟩, fun l n => ⟨fun h => ?_, ?_⟩, ?_, ?_⟩
  · obtain ⟨f', hf', hcount, hbody⟩ | ⟨f', -, -, hbody⟩ | ⟨fault, hbody⟩ := hcases <;>
      cases hbody.symm.trans h
    exact ⟨hf', hcount⟩
  · rintro ⟨hf, hcount⟩
    rw [ofBody_of_isFilter htext hsize hf, if_neg (Nat.not_lt.mpr hcount)]
  · obtain ⟨f, -, -, hbody⟩ | ⟨f, hf, hcount, hbody⟩ | ⟨fault, hbody⟩ := hcases <;>
      cases hbody.symm.trans h
    exact ⟨rfl, hcount, f, hf, rfl⟩
  · rintro ⟨rfl, hcount, f, hf, rfl⟩
    rw [ofBody_of_isFilter htext hsize hf, if_pos hcount]
  · rintro ⟨fault, h⟩ ⟨f, hf⟩
    rw [ofBody_of_isFilter htext hsize hf] at h
    split at h <;> cases h
  · exact ofBody_of_not_isFilter htext hsize

/-- One item on a list that may have one item, and on one that may have none. -/
theorem ofBody_of_one_item :
    let item := objectText [("key", stringText "env"), ("other", stringText "x"),
      ("value", listText [stringText "a"]), ("op", stringText "po")]
    let body := (objectText [("items", listText [item]), ("op", stringText "or")]).toUTF8
    ofBody body 1 = .ok ⟨.any, [⟨"env", some (.list ["a"]), "po"⟩]⟩ ∧
      ofBody body 0 = .error (.tooManyItems 0 1) := by
  intro item body
  have hitem : IsText (octets item) (.object [("key", .string "env"), ("other", .string "x"),
      ("value", .list [.string "a"]), ("op", .string "po")]) :=
    Json.isText_objectText <|
      .cons (.member "key" (Json.isText_stringText "env")) <|
      .cons (.member "other" (Json.isText_stringText "x")) <|
      .cons (.member "value" (Json.isText_listText (.cons (Json.isText_stringText "a") .nil))) <|
      .cons (.member "op" (Json.isText_stringText "po")) .nil
  have hbody : IsText body.toList (.object [("items", .list [.object [("key", .string "env"),
      ("other", .string "x"), ("value", .list [.string "a"]), ("op", .string "po")]]),
      ("op", .string "or")]) := by
    rw [Json.toList_toUTF8]
    exact Json.isText_objectText <|
      .cons (.member "items" (Json.isText_listText (.cons hitem .nil))) <|
      .cons (.member "op" (Json.isText_stringText "or")) .nil
  have hstated : Term.IsItem (.object [("key", .string "env"), ("other", .string "x"),
      ("value", .list [.string "a"]), ("op", .string "po")]) ⟨"env", some (.list ["a"]), "po"⟩ :=
    @Term.IsItem.object _ _ _ (some (some (.list ["a"]))) (.stated rfl) (.stated (.list ["a"]))
      (.stated rfl)
  have hfilter := @Term.IsFilter.object
    [("items", .list [.object [("key", .string "env"), ("other", .string "x"),
      ("value", .list [.string "a"]), ("op", .string "po")]]), ("op", .string "or")]
    (some .any) (some [⟨"env", some (.list ["a"]), "po"⟩]) (.stated (.plain rfl))
    (.stated (.list (.cons hstated .nil)))
  have hsize : body.size ≤ 65536 := by decide +kernel
  exact ⟨(((ofBody_of_isText body 1).2 _ hsize hbody).1 _).mpr ⟨hfilter, by decide⟩,
    (((ofBody_of_isText body 0).2 _ hsize hbody).2.1 _ _).mpr ⟨rfl, by decide, _, hfilter, rfl⟩⟩

/-- Documents that are filters without naming all their fields: a list, an object whose combinator
is no string, and an object with a list for an item. -/
theorem ofBody_of_unnamed_fields :
    (IsText (octets (listText [])) (.list []) ∧ (∀ ms, Term.list [] ≠ .object ms) ∧
      ofBody (listText []).toUTF8 50 = .ok ⟨.all, []⟩) ∧
    (IsText (octets (objectText [("op", objectText [("AND", "null")])]))
        (.object [("op", .object [("AND", .word .null)])]) ∧
      ofBody (objectText [("op", objectText [("AND", "null")])]).toUTF8 50 = .ok ⟨.all, []⟩) ∧
    IsText (octets (objectText [("items",
          listText [listText [stringText "k", "null", stringText "EXISTS"]])]))
        (.object [("items", .list [.list [.string "k", .word .null, .string "EXISTS"]])]) ∧
      ofBody (objectText [("items",
          listText [listText [stringText "k", "null", stringText "EXISTS"]])]).toUTF8 50 =
        .ok ⟨.all, [⟨"k", none, "EXISTS"⟩]⟩ := by
  have hbody : ∀ {text : String} {t : Term} {f : Filter}, IsText (octets text) t →
      text.toUTF8.size ≤ maxBodySize → t.IsFilter f → f.items.length ≤ 50 →
      IsText (octets text) t ∧ ofBody text.toUTF8 50 = .ok f := by
    intro text t f htext hsize hf hcount
    refine ⟨htext, ?_⟩
    rw [← Json.toList_toUTF8] at htext
    rw [ofBody_of_isFilter htext hsize hf, if_neg (Nat.not_lt.mpr hcount)]
  have hop : IsText (octets (objectText [("AND", "null")])) (.object [("AND", .word .null)]) :=
    Json.isText_objectText (.cons (.member "AND" Json.isText_null) .nil)
  have hitem : IsText (octets (listText [stringText "k", "null", stringText "EXISTS"]))
      (.list [.string "k", .word .null, .string "EXISTS"]) :=
    Json.isText_listText <| .cons (Json.isText_stringText "k") <| .cons Json.isText_null <|
      .cons (Json.isText_stringText "EXISTS") .nil
  refine ⟨?_, ?_, ?_⟩
  · have hempty := hbody (Json.isText_listText .nil) (by decide +kernel) .emptyList (by decide)
    exact ⟨hempty.1, nofun, hempty.2⟩
  · have hfilter := @Term.IsFilter.object [("op", .object [("AND", .word .null)])] (some .all) none
      (.stated (.tagged rfl)) .absent
    have htext := Json.isText_objectText (.cons (.member "op" hop) .nil)
    exact hbody htext (by decide +kernel) hfilter (by decide)
  · have hfilter := @Term.IsFilter.object
      [("items", .list [.list [.string "k", .word .null, .string "EXISTS"]])] none
      (some [⟨"k", none, "EXISTS"⟩]) .absent
      (.stated (.list (.cons (.list "k" "EXISTS" .null) .nil)))
    have hitems := Json.isText_listText (.cons hitem .nil)
    have htext := Json.isText_objectText (.cons (.member "items" hitems) .nil)
    exact hbody htext (by decide +kernel) hfilter (by decide)

end Filter

end LabelFilter
