import LabelFilter.Proofs.Sql.Token

/-!
# Skeletons of token rows

What is left of the tokens of a query when everything that a client may choose is erased: the texts
of literals, and the names of columns and tables. The place of a name is known from the token before
it, and what stands there counts as a name only if it is one token, bare or quoted. All other words
and all marks stay.

## Main definitions

* `Sql.skeleton` — the row of forms that is left
* `Sql.Alike` — rows of tokens that leave the same forms, whatever alike rows follow

## Main results

* `Alike.append`, `Alike.intercalate` — alike rows are put together to alike rows
-/

namespace LabelFilter.Sql

/-- What is left of a token. -/
inductive Form where
  | word (w : String)
  | name (s : String)
  /-- A string literal with any text. -/
  | text
  | mark (m : Mark)
  /-- A bare or a quoted name, in a place where any name may stand. -/
  | anyName
  deriving DecidableEq, Repr

namespace Token

/-- What is left of a token in other places than those of names. -/
def form : Token → Form
  | .word w => .word w
  | .name s => .name s
  | .text _ => .text
  | .mark m => .mark m

/-- What is left of a token in the place of a name. -/
def nameForm : Token → Form
  | .word _ | .name _ => .anyName
  | t => t.form

/-- Whether the next token is in the place of a name. -/
def introducesName (t : Token) : Bool :=
  t = .word "as" || t = .word "FROM" || t = .mark .dot

end Token

/-- The forms of a row whose first token is, or is not, in the place of a name. -/
def forms (inName : Bool) : List Token → List Form
  | [] => []
  | t :: ts =>
    if inName then t.nameForm :: forms false ts else t.form :: forms t.introducesName ts

/-- The forms of a row of tokens. -/
def skeleton (ts : List Token) : List Form := forms false ts

/-- Two rows that have the same forms, also in front of rows that have the same forms. -/
def Alike (ts us : List Token) : Prop :=
  ∀ rest rest', skeleton rest = skeleton rest' → skeleton (ts ++ rest) = skeleton (us ++ rest')

namespace Alike

variable {t u u' : Token} {ts us ts' us' : List Token}

theorem skeleton_eq (h : Alike ts us) : skeleton ts = skeleton us := by
  simpa using h [] [] rfl

theorem nil : Alike [] [] := fun _ _ h => h

theorem append (h : Alike ts us) (h' : Alike ts' us') : Alike (ts ++ ts') (us ++ us') := by
  intro rest rest' hrest
  rw [List.append_assoc, List.append_assoc]
  exact h _ _ (h' rest rest' hrest)

/-- A token in front, unless a name follows it. -/
theorem cons (ht : t.introducesName = false) (h : Alike ts us) : Alike (t :: ts) (t :: us) := by
  intro rest rest' hrest
  have := h rest rest' hrest
  simpa [skeleton, forms, ht] using this

/-- Literals are alike. -/
theorem text (s s' : String) : Alike [.text s] [.text s'] :=
  fun _ _ h => congrArg (Form.text :: ·) h

/-- Names are alike in their places. -/
theorem name (ht : t.introducesName = true) (hu : u.nameForm = .anyName)
    (hu' : u'.nameForm = .anyName) (h : Alike ts us) : Alike (t :: u :: ts) (t :: u' :: us) := by
  intro rest rest' hrest
  have := h rest rest' hrest
  simpa [skeleton, forms, ht, hu, hu'] using this

theorem intercalate {sep : List Token} (hsep : Alike sep sep) {tss uss : List (List Token)}
    (h : List.Forall₂ Alike tss uss) : Alike (sep.intercalate tss) (sep.intercalate uss) := by
  induction h with
  | nil => exact nil
  | cons h hs ih =>
    cases hs with
    | nil => simpa using h
    | cons h' hs =>
      rw [List.intercalate_cons_cons, List.intercalate_cons_cons]
      exact (h.append hsep).append ih

end Alike

end LabelFilter.Sql
