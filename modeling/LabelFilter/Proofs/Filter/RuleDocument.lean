import LabelFilter.Proofs.Filter.RoundTrip
import LabelFilter.Proofs.Json.Kept

/-!
# Documents that are rules

The fields of a rule's item stand among those of the rule. Reading a rule therefore keeps all
members that it has no use for itself, and reads the item out of what was kept, by a second decoder
that works on values. The two decoders of an item agree at every member, so they agree on the whole:
a rule states the item that its object states when its aggregations are taken out.

## Main definitions

* `Term.DecodesTo` — what the texts of a value are decoded to
* `Term.IsRule` — the documents that are rules
* `Rule.StatedBy` — rules that are stated by aggregations and an item

## Main results

* `Item.ofMembers_eq_ofDoc` — both ways to an item
* `Rule.exact_ofDoc`, `Rule.thorough_ofDoc` — the documents that are read as rules
* `rules_decode_as_items` — a rule is decoded as an item with aggregations
-/

namespace LabelFilter

open List (Forall₂)
open Json (Doc Fault Value Decoder Lexeme Once Slot Log Term IsText octets objectText listText
  stringText exact_asWord thorough_asWord)

/-! ### Kept values

What is asked of a value is the same whether it is asked of its tree or of what is kept of it. -/

section

variable {room : Nat} {d : Doc} {v : Value}

theorem asString_eq_textOfValue (h : d.value room = .ok v) : d.asString = textOfValue v := by
  cases Doc.keptAs_of_value h with
  | string hs => exact hs
  | number hn => simp [Doc.asString, Doc.unexpected, Doc.found, hn, textOfValue, foundValue,
      Except.map, bind, Except.bind, throw, throwThe, MonadExceptOf.throw]
  | _ => rfl

theorem Operand.ofDoc_eq_operandOfValue (h : d.value room = .ok v) :
    Operand.ofDoc room d = Item.operandOfValue v := by
  have hread : (do Operand.ofValue (← d.value room)).map some = (Operand.ofValue v).map some := by
    rw [h]
    rfl
  cases Doc.keptAs_of_value h with
  | null => rfl
  | _ => exact hread

end

namespace Item

variable {room : Nat}

theorem Fields.readValue_eq_read {f : Fields} {name : String} {d : Doc} {v : Value}
    (h : d.value room = .ok v) (hskip : d.skip = .ok ()) :
    f.readValue name v = f.read room name d := by
  have honce : ∀ {α : Type} (name : String) (slot : Option α) {decode : Decoder α}
      {decode' : Value → Except Fault α}, decode d = decode' v →
      onceValue name slot decode' v = Doc.once name slot decode d := by
    intro α name slot decode decode' heq
    cases slot with
    | some a => rfl
    | none => exact congrArg (Except.map some) heq.symm
  unfold Fields.readValue Fields.read
  split
  · rw [honce _ _ (asString_eq_textOfValue h)]
  · rw [honce _ _ (Operand.ofDoc_eq_operandOfValue h)]
  · rw [honce _ _ (asString_eq_textOfValue h)]
  · rw [hskip]
    rfl

/-- **Both ways to an item**: reading its members, and keeping them and reading what was kept. -/
theorem ofMembers_eq_ofDoc {ms : List (Lexeme × Doc)} {kept : List (String × Value)}
    (hskip : ∀ m ∈ ms, m.2.skip = .ok ())
    (h : Forall₂ (fun m k => m.1.decode = .ok k.1 ∧ m.2.value room = .ok k.2) ms kept) :
    Item.ofMembers kept = Item.ofDoc room (.object ms none) := by
  have hfields : ∀ f : Fields, kept.foldlM (fun f k => f.readValue k.1 k.2) f =
      Doc.members (Fields.read room) f ms none := by
    induction h with
    | nil => exact fun _ => rfl
    | @cons m k ms kept hmk _ ih =>
      obtain ⟨hname, hvalue⟩ := hmk
      obtain ⟨hm, hms⟩ := List.forall_mem_cons.mp hskip
      intro f
      rw [List.foldlM_cons, Doc.members_cons_of_ok hname, Fields.readValue_eq_read hvalue hm]
      exact bind_congr_of_ok fun f' _ => ih hms f'
  show kept.foldlM (fun f k => f.readValue k.1 k.2) {} >>= Fields.toItem = _
  rw [hfields]
  rfl

end Item

/-! ### Rules -/

namespace Json.Term

/-- A list of aggregations. -/
def IsAggregations : Term → List Aggregation → Prop :=
  IsListOf (IsWordOf Aggregation.vocabulary)

/-- A rule: an object with aggregations, which without them is an item and can be kept. -/
inductive IsRule (room : Nat) : Term → Rule → Prop where
  | object {ms : List (String × Term)} {aggregations : List Aggregation} {item : Item}
      (haggregations : Once IsAggregations (named "aggregations" ms) (some aggregations))
      (hitem : IsItem (.object (others ["aggregations"] ms)) item)
      (hfits : ∀ m ∈ others ["aggregations"] ms, m.2.Fits room) :
      IsRule room (.object ms) ⟨aggregations, item⟩

end Json.Term

theorem exact_aggregations :
    Decoder.Exact (Doc.asList Aggregation.ofDoc) Term.IsAggregations :=
  (exact_asWord Aggregation.vocabulary).asList

theorem thorough_aggregations : Decoder.Thorough (Doc.asList Aggregation.ofDoc) :=
  (thorough_asWord Aggregation.vocabulary).asList

namespace Rule

variable {room : Nat}

/-- The field for the aggregations. -/
def aggregationsSlot : Slot Fields (List Aggregation) :=
  ⟨"aggregations", Prod.fst, Doc.asList Aggregation.ofDoc⟩

/-- The members that are kept. -/
def keptLog (room : Nat) : Log Fields (String × Value) :=
  ⟨["aggregations"], Prod.snd, fun name d k => k.1 = name ∧ d.value room = .ok k.2⟩

theorem filledBy_aggregations : aggregationsSlot.FilledBy (readMember room) where
  own h := Slot.own_of_once h fun _ => rfl
  other {s s' name d} (hname : name ≠ "aggregations") h := by
    rw [readMember, if_neg hname] at h
    obtain ⟨v, -, h⟩ := bind_eq_ok_iff.mp h
    cases h
    rfl

theorem grownBy_kept : (keptLog room).GrownBy (readMember room) where
  own hname h := by
    rw [readMember, if_pos (List.mem_singleton.mp hname)] at h
    obtain ⟨v, -, h⟩ := bind_eq_ok_iff.mp h
    cases h
    rfl
  other {s s' name d} hname h := by
    rw [readMember, if_neg (fun heq => hname (List.mem_singleton.mpr heq))] at h
    obtain ⟨v, hv, h⟩ := bind_eq_ok_iff.mp h
    cases h
    exact ⟨(name, v), ⟨rfl, hv⟩, rfl⟩

/-- **A rule is read as an item beside aggregations.** -/
theorem ofDoc_object_eq_ok_iff {ms : List (Lexeme × Doc)}
    (h : ∀ m ∈ ms, (∃ name, m.1.decode = .ok name) ∧ m.2.skip = .ok ()) {rule : Rule} :
    Rule.ofDoc room (.object ms none) = .ok rule ↔
      Once (Decoder.Reads (Doc.asList Aggregation.ofDoc)) (Doc.named "aggregations" ms)
        (some rule.aggregations) ∧
      Item.ofDoc room (.object (Doc.others ["aggregations"] ms) none) = .ok rule.item ∧
      ∀ m ∈ Doc.others ["aggregations"] ms, ∃ v, m.2.value room = .ok v := by
  have hskip : ∀ m ∈ Doc.others ["aggregations"] ms, m.2.skip = .ok () := fun m hm =>
    (h m (List.mem_of_mem_filter hm)).2
  have hkept : ∀ {f : Fields}, Doc.members (readMember room) (none, []) ms none = .ok f →
      Forall₂ (fun m k => m.1.decode = .ok k.1 ∧ m.2.value room = .ok k.2)
        (Doc.others ["aggregations"] ms) f.2.reverse := by
    intro f hf
    refine (grownBy_kept.members rfl hf).imp ?_
    rintro m k ⟨name, hname, rfl, hvalue⟩
    exact ⟨hname, hvalue⟩
  rw [ofDoc_object]
  constructor
  · intro hrule
    obtain ⟨f, hf, hrule⟩ := bind_eq_ok_iff.mp hrule
    obtain ⟨aggregations, hneed, hrule⟩ := bind_eq_ok_iff.mp hrule
    obtain ⟨item, hitem, hrule⟩ := bind_eq_ok_iff.mp hrule
    cases hrule
    have hsome : f.1 = some aggregations := by
      cases hslot : f.1 with
      | none => simp [hslot, Doc.need] at hneed
      | some a => rw [hslot] at hneed; cases hneed; rfl
    refine ⟨?_, ?_, ?_⟩
    · rw [← hsome]
      exact filledBy_aggregations.members rfl hf
    · rw [← Item.ofMembers_eq_ofDoc hskip (hkept hf)]
      exact hitem
    · exact forall_mem_left_of_forall₂ (hkept hf) fun m k hmk => ⟨k.2, hmk.2⟩
  · rintro ⟨haggregations, hitem, hvalues⟩
    -- Only a second row of aggregations and a value that cannot be kept would stop the run.
    obtain ⟨f, hf⟩ : ∃ f, Doc.members (readMember room) (none, []) ms none = .ok f := by
      refine Doc.exists_members_eq_ok fun before m after s hms hs => ?_
      have hm : m ∈ ms := by simp [hms]
      obtain ⟨⟨name, hname⟩, -⟩ := h m hm
      refine ⟨name, hname, ?_⟩
      by_cases hown : name = "aggregations"
      · subst hown
        rw [readMember, if_pos rfl]
        rw [hms] at haggregations
        exact Slot.exists_of_once (filledBy_aggregations.ready rfl haggregations hs hname) _
      · obtain ⟨v, hv⟩ := hvalues m (Doc.mem_others_of_not_mem hm hname (by simpa using hown))
        exact ⟨_, by rw [readMember, if_neg hown, hv]; rfl⟩
    have hsome : f.1 = some rule.aggregations :=
      (filledBy_aggregations.members rfl hf).unique haggregations
    have hneed : Doc.need "aggregations" f.1 = .ok rule.aggregations := by
      rw [hsome]
      rfl
    have hread : Item.ofMembers f.2.reverse = .ok rule.item :=
      (Item.ofMembers_eq_ofDoc hskip (hkept hf)).trans hitem
    exact bind_eq_ok_iff.mpr
      ⟨f, hf, bind_eq_ok_iff.mpr ⟨_, hneed, bind_eq_ok_iff.mpr ⟨_, hread, rfl⟩⟩⟩

/-- **The documents that are read as rules.** -/
theorem exact_ofDoc (room : Nat) :
    Decoder.Exact (Rule.ofDoc (room + 1)) (Term.IsRule (room + 1)) := by
  intro d t h rule
  cases h with
  | @object ms ms' hnames hvalues =>
    obtain ⟨hnames', hvalues'⟩ := Json.denotes_others hnames hvalues ["aggregations"]
    have hfits : (∀ m ∈ Doc.others ["aggregations"] ms, ∃ v, m.2.value (room + 1) = .ok v) ↔
        ∀ m ∈ Term.others ["aggregations"] ms', m.2.Fits (room + 1) :=
      forall_mem_iff_of_forall₂ hvalues' fun m m' h => h.exists_value_iff
    rw [ofDoc_object_eq_ok_iff (Json.readable_of_denotes hnames hvalues),
      exact_aggregations.once_iff hnames hvalues,
      Item.exact_ofDoc room _ _ (.object hnames' hvalues'), hfits]
    constructor
    · rintro ⟨haggregations, hitem, hall⟩
      exact .object haggregations hitem hall
    · rintro ⟨haggregations, hitem, hall⟩
      exact ⟨haggregations, hitem, hall⟩
  | _ => exact ⟨fun h => absurd h Doc.unexpected_ne_ok, nofun⟩

/-- Of a rule each member is read to its end, since it is a row of words or is kept. -/
theorem thorough_ofDoc (room : Nat) : Decoder.Thorough (Rule.ofDoc room) := by
  intro d rule h
  cases d with
  | object ms stop =>
    rw [ofDoc_object] at h
    obtain ⟨f, hf, -⟩ := bind_eq_ok_iff.mp h
    refine Doc.isWhole_of_members hf fun f f' name d hstep => ?_
    rw [readMember] at hstep
    split at hstep
    · obtain ⟨v, hv, -⟩ := bind_eq_ok_iff.mp hstep
      obtain ⟨-, aggregations, haggregations, -⟩ := Doc.once_eq_ok_iff.mp hv
      exact thorough_aggregations d aggregations haggregations
    · obtain ⟨v, hv, -⟩ := bind_eq_ok_iff.mp hstep
      exact Doc.thorough_value room d v hv
  | _ => exact absurd h Doc.unexpected_ne_ok

end Rule

/-! ### Texts -/

theorem decodeText_of_isText {α : Type} {decode : Decoder α} {P : Term → α → Prop}
    (h : decode.Exact P) {bs : List Json.Octet} {t : Term} (htext : IsText bs t) {a : α} :
    decodeText decode bs = .ok a ↔ P t a := by
  obtain ⟨d, hspells, hdenotes⟩ := htext.exists_spells
  rw [decodeText_of_spells hspells]
  exact h d t hdenotes a

namespace Json.Term

/-- There are texts of a value, and they are decoded to this. -/
def DecodesTo {α : Type} (decode : Decoder α) (t : Term) (a : α) : Prop :=
  (∃ bs, IsText bs t) ∧ ∀ bs, IsText bs t → decodeText decode bs = .ok a

theorem decodesTo_iff {α : Type} {decode : Decoder α} {P : Term → α → Prop}
    (h : decode.Exact P) {t : Term} (htext : ∃ bs, IsText bs t) {a : α} :
    t.DecodesTo decode a ↔ P t a := by
  constructor
  · rintro ⟨⟨bs, hbs⟩, hall⟩
    exact (decodeText_of_isText h hbs).mp (hall bs hbs)
  · intro ha
    exact ⟨htext, fun bs hbs => (decodeText_of_isText h hbs).mpr ha⟩

end Json.Term

/-- An object states a rule: its only member for the aggregations is decoded to them, and the object
without that member is decoded to the item. -/
inductive Rule.StatedBy : List (String × Term) → Rule → Prop where
  | object {ms : List (String × Term)} {t : Term} {aggregations : List Aggregation} {item : Item}
      (hone : Term.named "aggregations" ms = [t])
      (haggregations : t.DecodesTo (Doc.asList Aggregation.ofDoc) aggregations)
      (hitem : (Term.object (Term.others ["aggregations"] ms)).DecodesTo
        (Item.ofDoc (Doc.maxDepth - 1)) item) :
      StatedBy ms ⟨aggregations, item⟩

/-- Where a value fits, it is a rule just when it is an object that states one. -/
theorem Rule.isRule_iff_statedBy {room : Nat} {t : Term} {rule : Rule}
    (htext : ∃ bs, IsText bs t) (hfits : t.Fits (room + 1)) :
    Term.IsRule room t rule ↔ ∃ ms, t = .object ms ∧ Rule.StatedBy ms rule := by
  have hroom : Decoder.Exact (Item.ofDoc (Doc.maxDepth - 1)) Term.IsItem := Item.exact_ofDoc 125
  obtain ⟨bs, hbs⟩ := htext
  have hothers : ∀ ms, t = .object ms →
      ∃ bs, IsText bs (.object (Term.others ["aggregations"] ms)) := by
    rintro ms rfl
    exact Json.exists_isText_object fun m hm =>
      hbs.exists_isText_member m (List.mem_of_mem_filter hm)
  constructor
  · rintro ⟨haggregations, hitem, -⟩
    obtain ⟨t, hone, haggregations⟩ := haggregations.exists_eq_singleton
    have ht : ∃ bs, IsText bs t := by
      obtain ⟨m, hm, rfl⟩ := List.mem_map.mp (hone ▸ List.mem_singleton_self t :
        t ∈ Term.named "aggregations" _)
      exact hbs.exists_isText_member m (List.mem_of_mem_filter hm)
    exact ⟨_, rfl, .object hone ((Term.decodesTo_iff exact_aggregations ht).mpr haggregations)
      ((Term.decodesTo_iff hroom (hothers _ rfl)).mpr hitem)⟩
  · rintro ⟨ms, rfl, hone, haggregations, hitem⟩
    refine .object ?_ ((Term.decodesTo_iff hroom (hothers _ rfl)).mp hitem) ?_
    · rw [hone]
      exact .stated ((Term.decodesTo_iff exact_aggregations haggregations.1).mp haggregations)
    · cases hfits with | object hfits => ?_
      exact fun m hm => hfits m (List.mem_of_mem_filter hm)

/-- **A rule is decoded as an item with aggregations.** Where numbers are in range and nothing is
nested too deep, an object is a rule just when it states aggregations once and is an item without
them, and a table is a list of such objects, read in their order. -/
theorem rules_decode_as_items {bs : List Json.Octet} {t : Term} (htext : IsText bs t)
    (hfits : t.Fits Doc.maxDepth) :
    (∀ ms, t = .object ms → ∀ rule, decodeText (Rule.ofDoc (Doc.maxDepth - 1)) bs = .ok rule ↔
      Rule.StatedBy ms rule) ∧
    ∀ rules, decodeText (RuleTable.ofDoc Doc.maxDepth) bs = .ok rules ↔
      ∃ ts, t = .list ts ∧
        Forall₂ (fun t rule => ∃ ms, t = .object ms ∧ Rule.StatedBy ms rule) ts rules := by
  have hrule : Decoder.Exact (Rule.ofDoc (Doc.maxDepth - 1)) (Term.IsRule 126) :=
    Rule.exact_ofDoc 125
  have htable : Decoder.Exact (RuleTable.ofDoc Doc.maxDepth) (Term.IsListOf (Term.IsRule 125)) :=
    (Rule.exact_ofDoc 124).asList
  refine ⟨fun ms hms rule => ?_, fun rules => ?_⟩
  · subst hms
    rw [decodeText_of_isText hrule htext, Rule.isRule_iff_statedBy ⟨bs, htext⟩ hfits]
    exact ⟨fun ⟨_, rfl, h⟩ => h, fun h => ⟨ms, rfl, h⟩⟩
  · -- The rules of a table have one list more around them, but their items do not depend on that.
    have hrows : ∀ ts, t = .list ts → (Forall₂ (Term.IsRule 125) ts rules ↔
        Forall₂ (fun t rule => ∃ ms, t = .object ms ∧ Rule.StatedBy ms rule) ts rules) := by
      rintro ts rfl
      have hself : Forall₂ (fun t t' => t = t' ∧ t ∈ ts) ts ts :=
        List.forall₂_same.mpr fun t ht => ⟨rfl, ht⟩
      cases hfits with | list hfits => ?_
      refine forall₂_iff_of_forall₂ hself ?_
      rintro t _ ⟨rfl, ht⟩ rule
      exact Rule.isRule_iff_statedBy (htext.exists_isText_item t ht) (hfits t ht)
    rw [decodeText_of_isText htable htext]
    constructor
    · rintro ⟨h⟩
      exact ⟨_, rfl, (hrows _ rfl).mp h⟩
    · rintro ⟨ts, rfl, h⟩
      exact .list ((hrows ts rfl).mpr h)

/-- The members are out of order, one that is not asked for is repeated, and the value is `null`. -/
theorem rules_decode_of_scattered_members :
    decodeText (RuleTable.ofDoc Doc.maxDepth) (octets (listText [objectText
        [("op", stringText "="), ("note", "null"), ("aggregations", listText [stringText "P05"]),
          ("note", listText []), ("key", stringText "le"), ("value", "null")]])) =
      .ok [⟨[.p05], ⟨"le", none, "="⟩⟩] := by
  let note : List (String × Term) := [("op", .string "="), ("note", .word .null)]
  let rest : List (String × Term) := [("note", .list []), ("key", .string "le"),
    ("value", .word .null)]
  have haggregations : IsText (octets (listText [stringText "P05"])) (.list [.string "P05"]) :=
    Json.isText_listText (.cons (Json.isText_stringText _) .nil)
  have hnote : Forall₂ Json.IsMemberText [("op", stringText "="), ("note", "null")] note :=
    .cons (.member _ (Json.isText_stringText _)) (.cons (.member _ Json.isText_null) .nil)
  have hrest : Forall₂ Json.IsMemberText [("note", listText []), ("key", stringText "le"),
      ("value", "null")] rest :=
    .cons (.member _ (Json.isText_listText .nil)) <|
      .cons (.member _ (Json.isText_stringText _)) (.cons (.member _ Json.isText_null) .nil)
  have hmembers : Forall₂ Json.IsMemberText _
      (note ++ ("aggregations", .list [.string "P05"]) :: rest) :=
    List.rel_append hnote (.cons (.member _ haggregations) hrest)
  have htext := Json.isText_listText (.cons (Json.isText_objectText hmembers) .nil)
  have hfits : (Term.list [.object (note ++ ("aggregations", .list [.string "P05"]) :: rest)]).Fits
      Doc.maxDepth := by
    refine .list (List.forall_mem_singleton.mpr (.object ?_))
    simp only [note, rest, List.cons_append, List.nil_append, List.forall_mem_cons]
    exact ⟨.string _, .word _, .list (List.forall_mem_singleton.mpr (.string _)), .list nofun,
      .string _, .word _, nofun⟩
  have hkey : Once Term.IsTextOf (Term.named "key" (note ++ rest)) (some "le") := .stated rfl
  have hvalue : Once Term.IsOperand (Term.named "value" (note ++ rest)) (some none) := .stated .null
  have hop : Once Term.IsTextOf (Term.named "op" (note ++ rest)) (some "=") := .stated rfl
  have hothers := Json.isText_objectText (List.rel_append hnote hrest)
  have hwords : Term.IsAggregations (.list [.string "P05"]) [.p05] :=
    .list (.cons (.plain rfl) .nil)
  refine ((rules_decode_as_items htext hfits).2 _).mpr ⟨_, rfl, .cons ⟨_, rfl, ?_⟩ .nil⟩
  exact .object rfl ((Term.decodesTo_iff exact_aggregations ⟨_, haggregations⟩).mpr hwords)
    ((Term.decodesTo_iff (Item.exact_ofDoc 125) ⟨_, hothers⟩).mpr (.object hkey hvalue hop))

end LabelFilter
