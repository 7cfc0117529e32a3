import LabelFilter.Proofs.Json.Composite
import LabelFilter.Proofs.Json.Record
import LabelFilter.Proofs.Json.StringText

/-!
# Written values are whole documents

Strings, lists and objects that are written as JSON are read to the trees that they were written
from. What stands inside of a list or an object need not be written here: any text that spells a
tree may be put there.

## Main results

* `spells_stringText` — a written string
* `Spells.listText`, `Spells.objectText` — lists and objects of texts that spell trees
* `asList_map` — a list is decoded to the values that its trees are decoded to
* `members_written_of_ok` — the members of an object are read one after the other
-/

namespace LabelFilter.Json

open List (Forall₂)

/-! ### Commas -/

theorem octets_intercalate (sep : String) (ss : List String) :
    octets (sep.intercalate ss) = (octets sep).intercalate (ss.map octets) := by
  have h := map_intercalate (f := fun cs => cs.flatMap String.utf8EncodeChar) List.flatMap_nil
    (fun _ _ => List.flatMap_append) sep.toList (ss.map String.toList)
  rw [octets, String.toList_intercalate, h, List.map_map]
  rfl

/-- Texts with commas between them. -/
theorem octets_commas_cons (s s' : String) (ss : List String) :
    octets (",".intercalate (s :: s' :: ss)) =
      octets s ++ ascii ',' :: octets (",".intercalate (s' :: ss)) := by
  rw [octets_intercalate, octets_intercalate, List.map_cons, List.map_cons,
    List.intercalate_cons_cons, List.append_assoc]
  rfl

theorem octets_commas_singleton (s : String) : octets (",".intercalate [s]) = octets s := by
  rw [octets_intercalate]
  simp

theorem spellsKey_stringText (s : String) : SpellsKey (octets (stringText s)) (.written s) :=
  ⟨rfl, tokens_stringText s⟩

theorem spells_stringText (s : String) : Spells (octets (stringText s)) (.string (.written s)) :=
  (spellsKey_stringText s).spells

/-! ### Lists -/

theorem spellsItems_commas {text : String} {d : Doc} {texts : List String} {ds : List Doc}
    (h : Spells (octets text) d) (hs : Forall₂ (fun text d => Spells (octets text) d) texts ds) :
    SpellsItems (octets (",".intercalate (text :: texts))) (d :: ds) := by
  induction hs generalizing text d with
  | nil =>
    rw [octets_commas_singleton]
    exact .last h
  | cons hnext _ ih =>
    rw [octets_commas_cons]
    exact .next h (ih hnext)

theorem octets_listText (texts : List String) : octets (listText texts) =
    ascii '[' :: (octets (",".intercalate texts) ++ [ascii ']']) := by
  rw [listText, octets_append, octets_append]
  rfl

/-- A list of texts that spell trees. -/
theorem Spells.listText {texts : List String} {ds : List Doc}
    (h : Forall₂ (fun text d => Spells (octets text) d) texts ds) :
    Spells (octets (listText texts)) (.list ds none) := by
  rw [octets_listText]
  cases h with
  | nil => exact .emptyList blank_nil
  | cons h hs => exact .list (spellsItems_commas h hs)

/-- A list of values, each of which is written as a text that spells its tree. -/
theorem Spells.listText_map {α : Type} {text : α → String} {tree : α → Doc} {as : List α}
    (h : ∀ a ∈ as, Spells (octets (text a)) (tree a)) :
    Spells (octets (Json.listText (as.map text))) (.list (as.map tree) none) := by
  refine Spells.listText ?_
  rw [List.forall₂_map_left_iff, List.forall₂_map_right_iff, List.forall₂_same]
  exact h

/-- A list of trees, each of which is decoded to its value. -/
theorem asList_map {α : Type} {decode : Decoder α} {tree : α → Doc} {as : List α}
    (h : ∀ a ∈ as, decode (tree a) = .ok a) :
    Doc.asList decode (.list (as.map tree) none) = .ok as := by
  have hitems : (as.map tree).mapM decode = .ok as := by
    rw [mapM_eq_ok_iff, List.forall₂_map_left_iff, List.forall₂_same]
    exact h
  rw [Doc.asList, hitems]
  rfl

/-! ### Objects -/

/-- A member of an object, as it is written and as it is read. -/
structure SpellsMember (member : String × String) (m : Lexeme × Doc) : Prop where
  key : m.1 = .written member.1
  value : Spells (octets member.2) m.2

/-- A member, as it is written. -/
def memberText (member : String × String) : String := stringText member.1 ++ ":" ++ member.2

theorem octets_memberText (member : String × String) : octets (memberText member) =
    octets (stringText member.1) ++ ascii ':' :: octets member.2 := by
  rw [memberText, octets_append, octets_append, List.append_assoc]
  rfl

theorem spellsMembers_commas {member : String × String} {m : Lexeme × Doc}
    {texts : List (String × String)} {ms : List (Lexeme × Doc)} (h : SpellsMember member m)
    (hs : Forall₂ SpellsMember texts ms) :
    SpellsMembers (octets (",".intercalate ((member :: texts).map memberText))) (m :: ms) := by
  induction hs generalizing member m with
  | nil =>
    obtain ⟨key, d⟩ := m
    obtain ⟨rfl, hvalue⟩ := h
    rw [List.map_singleton, octets_commas_singleton, octets_memberText]
    exact .last (spellsKey_stringText _) hvalue
  | cons hnext _ ih =>
    obtain ⟨key, d⟩ := m
    obtain ⟨rfl, hvalue⟩ := h
    rw [List.map_cons, List.map_cons, octets_commas_cons, octets_memberText, List.append_assoc]
    exact .next (spellsKey_stringText _) hvalue (ih hnext)

theorem octets_objectText (members : List (String × String)) : octets (objectText members) =
    ascii '\x7b' :: (octets (",".intercalate (members.map memberText)) ++ [ascii '\x7d']) := by
  rw [objectText, octets_append, octets_append]
  rfl

/-- An object of texts that spell trees. -/
theorem Spells.objectText {texts : List (String × String)} {ms : List (Lexeme × Doc)}
    (h : Forall₂ SpellsMember texts ms) :
    Spells (octets (objectText texts)) (.object ms none) := by
  rw [octets_objectText]
  cases h with
  | nil => exact .emptyObject blank_nil
  | cons h hs => exact .object (spellsMembers_commas h hs)

/-! ### Members -/

/-- The members of an object are read one after the other, and names that are written are read. -/
theorem members_written {σ : Type} (step : σ → String → Doc → Except Fault σ) (init : σ)
    (name : String) (d : Doc) (ms : List (Lexeme × Doc)) (stop : Option Break) :
    Doc.members step init ((.written name, d) :: ms) stop =
      step init name d >>= fun s => Doc.members step s ms stop :=
  Doc.members_cons_of_ok (Lexeme.decode_written name) ms stop

theorem members_written_of_ok {σ : Type} {step : σ → String → Doc → Except Fault σ}
    {init s : σ} {name : String} {d : Doc} (h : step init name d = .ok s)
    (ms : List (Lexeme × Doc)) (stop : Option Break) :
    Doc.members step init ((.written name, d) :: ms) stop = Doc.members step s ms stop := by
  rw [members_written, h]
  rfl

end LabelFilter.Json
