import LabelFilter.Json.Document
import LabelFilter.Proofs.Json.Token

/-!
# Whole documents

A tree is whole if the text that it was read from is JSON throughout. A text of a whole tree can be
put into a list or an object: it is read to the same tree there, because the frames around a value
only matter once the value is complete or breaks off.

## Main definitions

* `Doc.Whole` — trees without breaks
* `Position.above` — a position with further frames around it
* `Json.Spells` — texts that are read to a whole tree

## Main results

* `Position.step_above` — one token is read in the same way inside of frames
* `ofTokens_above` — so are all tokens of a whole tree
* `Spells.run` — a text is read to its tree inside of frames, whatever follows it
-/

namespace LabelFilter.Json

/-- Trees without breaks: the text is JSON throughout. What the strings and numbers in it denote is
of no matter. -/
inductive Doc.Whole : Doc → Prop where
  | word (w : Word) : Whole (.word w)
  | number (n : Number) : Whole (.number n)
  | string {s : Lexeme} (h : s.stop = .closed) : Whole (.string s)
  | list {items : List Doc} (h : ∀ d ∈ items, d.Whole) : Whole (.list items none)
  | object {members : List (Lexeme × Doc)} (hkeys : ∀ m ∈ members, m.1.stop = .closed)
      (h : ∀ m ∈ members, m.2.Whole) : Whole (.object members none)

/-- A tree around a break is not whole. -/
theorem not_whole_unwind (b : Break) {d : Doc} (h : ¬ d.Whole) (frames : List Frame) :
    ¬ (b.unwind d frames).Whole := by
  induction frames generalizing d with
  | nil => exact h
  | cons frame frames ih =>
    cases frame with
    | list items => exact ih nofun
    | object members key => exact ih nofun

namespace Position

/-- A position with further frames around it. -/
def above (base : List Frame) : Position → Position
  | .value frames => .value (frames ++ base)
  | .firstItem frames => .firstItem (frames ++ base)
  | .nextItem items frames => .nextItem items (frames ++ base)
  | .afterItem items frames => .afterItem items (frames ++ base)
  | .firstKey frames => .firstKey (frames ++ base)
  | .nextKey members frames => .nextKey members (frames ++ base)
  | .afterKey members key frames => .afterKey members key (frames ++ base)
  | .afterMember members frames => .afterMember members (frames ++ base)
  | .done root => close root base

/-- Whether a tree is complete and not whole. -/
def IsBroken (p : Position) : Prop := ∃ root, p = .done root ∧ ¬ root.Whole

theorem close_above (base : List Frame) (d : Doc) (frames : List Frame) :
    close d (frames ++ base) = (close d frames).above base := by
  cases frames with
  | nil => rfl
  | cons frame frames => cases frame <;> rfl

theorem isBroken_breakValue (b : Break) (frames : List Frame) : (breakValue b frames).IsBroken :=
  ⟨_, rfl, not_whole_unwind b (by nofun) frames⟩

theorem isBroken_breakList (b : Break) (items : List Doc) (frames : List Frame) :
    (breakList b items frames).IsBroken :=
  ⟨_, rfl, not_whole_unwind b (by nofun) frames⟩

theorem isBroken_breakObject (b : Break) (members : List (Lexeme × Doc)) (frames : List Frame) :
    (breakObject b members frames).IsBroken :=
  ⟨_, rfl, not_whole_unwind b (by nofun) frames⟩

/-! ### One token -/

section

variable {t : Token} (frames : List Frame)

theorem step_firstItem (ht : t ≠ .closeList) :
    (firstItem frames).step t = stepValue (.list [] :: frames) t := by
  cases t <;> first | rfl | exact absurd rfl ht

theorem step_nextItem (ht : t ≠ .closeList) (items : List Doc) :
    (nextItem items frames).step t = stepValue (.list items :: frames) t := by
  cases t <;> first | rfl | exact absurd rfl ht

theorem step_firstKey (ht : t ≠ .closeObject) :
    (firstKey frames).step t = stepKey [] frames t := by
  cases t <;> first | rfl | exact absurd rfl ht

theorem step_nextKey (ht : t ≠ .closeObject) (members : List (Lexeme × Doc)) :
    (nextKey members frames).step t = stepKey members frames t := by
  cases t <;> first | rfl | exact absurd rfl ht

end

/-- Where a value is due, a token breaks the tree or is read in the same way inside of frames. -/
theorem stepValue_above (base frames : List Frame) (t : Token) :
    (stepValue frames t).IsBroken ∨
      t.Sound ∧ stepValue (frames ++ base) t = (stepValue frames t).above base := by
  cases t with
  | openList | openObject => exact .inr ⟨trivial, rfl⟩
  | word w => exact .inr ⟨trivial, close_above base _ frames⟩
  | number n => exact .inr ⟨trivial, close_above base _ frames⟩
  | string s =>
    by_cases hs : s.stop = .closed
    · simp only [stepValue, if_pos hs]
      exact .inr ⟨hs, close_above base _ frames⟩
    · simp only [stepValue, if_neg hs]
      have hstring : ¬ (Doc.string s).Whole := by
        rintro ⟨⟩
        contradiction
      exact .inl ⟨_, rfl, not_whole_unwind _ hstring frames⟩
  | _ => exact .inl (isBroken_breakValue _ frames)

/-- Where a key is due, a token breaks the tree or is read in the same way inside of frames. -/
theorem stepKey_above (base : List Frame) (members : List (Lexeme × Doc)) (frames : List Frame)
    (t : Token) :
    (stepKey members frames t).IsBroken ∨
      t.Sound ∧ stepKey members (frames ++ base) t = (stepKey members frames t).above base := by
  cases t with
  | string s =>
    by_cases hs : s.stop = .closed
    · simp only [stepKey, if_pos hs]
      exact .inr ⟨hs, rfl⟩
    · simp only [stepKey, if_neg hs]
      exact .inl (isBroken_breakValue _ _)
  | _ => exact .inl (isBroken_breakObject _ members frames)

/-- **A token breaks the tree or is read in the same way inside of frames.** -/
theorem step_above (base : List Frame) {p : Position} (hp : ∀ root, p ≠ .done root) (t : Token) :
    (p.step t).IsBroken ∨ t.Sound ∧ (p.above base).step t = (p.step t).above base := by
  cases p with
  | value frames => exact stepValue_above base frames t
  | firstItem frames =>
    by_cases ht : t = .closeList
    · exact .inr ⟨ht ▸ trivial, ht ▸ close_above base _ frames⟩
    · rw [above, step_firstItem frames ht, step_firstItem _ ht]
      exact stepValue_above base (.list [] :: frames) t
  | nextItem items frames =>
    by_cases ht : t = .closeList
    · exact .inl (ht ▸ isBroken_breakList _ items frames)
    · rw [above, step_nextItem frames ht, step_nextItem _ ht]
      exact stepValue_above base (.list items :: frames) t
  | afterItem items frames =>
    cases t with
    | comma => exact .inr ⟨trivial, rfl⟩
    | closeList => exact .inr ⟨trivial, close_above base _ frames⟩
    | _ => exact .inl (isBroken_breakList _ items frames)
  | firstKey frames =>
    by_cases ht : t = .closeObject
    · exact .inr ⟨ht ▸ trivial, ht ▸ close_above base _ frames⟩
    · rw [above, step_firstKey frames ht, step_firstKey _ ht]
      exact stepKey_above base [] frames t
  | nextKey members frames =>
    by_cases ht : t = .closeObject
    · exact .inl (ht ▸ isBroken_breakObject _ members frames)
    · rw [above, step_nextKey frames ht, step_nextKey _ ht]
      exact stepKey_above base members frames t
  | afterKey members key frames =>
    cases t with
    | colon => exact .inr ⟨trivial, rfl⟩
    | _ => exact .inl (isBroken_breakValue _ _)
  | afterMember members frames =>
    cases t with
    | comma => exact .inr ⟨trivial, rfl⟩
    | closeObject => exact .inr ⟨trivial, close_above base _ frames⟩
    | _ => exact .inl (isBroken_breakObject _ members frames)
  | done root => exact absurd rfl (hp root)

/-- A text that ends before its tree is complete has a tree with a break. -/
theorem not_whole_finish {p : Position} (hp : ∀ root, p ≠ .done root) : ¬ p.finish.Whole := by
  cases p with
  | done root => exact absurd rfl (hp root)
  | _ => exact not_whole_unwind _ (by nofun) _

theorem above_ne_done {p : Position} (hp : ∀ root, p ≠ .done root) (base : List Frame)
    (root : Doc) : p.above base ≠ .done root := by
  cases p with
  | done root => exact absurd rfl (hp root)
  | _ => nofun

end Position

namespace Document

theorem ofTokens_cons {p : Position} (hp : ∀ root, p ≠ .done root) (t : Token) (ts : List Token) :
    ofTokens p (t :: ts) = ofTokens (p.step t) ts := by
  cases p with
  | done root => exact absurd rfl (hp root)
  | _ => rfl

/-- **The tokens of a whole tree are read in the same way inside of frames**, and they are all
sound. The induction is on the tokens; as long as none of them breaks the tree, the position inside
of the frames is the position without them, with the frames around it. -/
theorem ofTokens_above {p : Position} {ts : List Token} {d : Doc}
    (h : ofTokens p ts = ⟨d, false⟩) (hd : d.Whole) :
    (∀ t ∈ ts, t.Sound) ∧ ∀ base rest,
      ofTokens (p.above base) (ts ++ rest) = ofTokens (.close d base) rest := by
  induction ts generalizing p with
  | nil =>
    have hfinish : p.finish = d := congrArg Document.root h
    by_cases hp : ∀ root, p ≠ .done root
    · exact absurd (hfinish ▸ hd) (Position.not_whole_finish hp)
    · obtain ⟨root, hroot⟩ := not_forall_not.mp hp
      subst hroot
      cases hfinish
      exact ⟨nofun, fun _ _ => rfl⟩
  | cons t ts ih =>
    by_cases hp : ∀ root, p ≠ .done root
    · rw [ofTokens_cons hp] at h
      obtain ⟨hsound, hrun⟩ := ih h
      have hstep : ∀ base, t.Sound ∧ (p.above base).step t = (p.step t).above base := by
        intro base
        rcases p.step_above base hp t with ⟨root, hroot, hbroken⟩ | hstep
        · rw [hroot] at h
          have : root = d := by
            cases ts <;> exact congrArg Document.root h
          exact absurd (this ▸ hd) hbroken
        · exact hstep
      refine ⟨List.forall_mem_cons.mpr ⟨(hstep []).1, hsound⟩, fun base rest => ?_⟩
      rw [List.cons_append, ofTokens_cons (Position.above_ne_done hp base), (hstep base).2]
      exact hrun base rest
    · obtain ⟨root, hroot⟩ := not_forall_not.mp hp
      subst hroot
      cases h

end Document

/-! ### Texts -/

/-- The text is JSON and is read to the tree, and nothing but white space follows. -/
structure Spells (bs : List Octet) (d : Doc) : Prop where
  whole : d.Whole
  document : Document.ofOctets bs = ⟨d, false⟩

namespace Spells

variable {bs : List Octet} {d : Doc}

/-- **A text is read to its tree inside of frames**, whatever follows it. -/
theorem run (h : Spells bs d) (frames : List Frame) {rest : List Octet} (hrest : EndsNumber rest) :
    Document.ofTokens (.value frames) (tokens (bs ++ rest)) =
      Document.ofTokens (.close d frames) (tokens rest) := by
  obtain ⟨hsound, hrun⟩ := Document.ofTokens_above h.document h.whole
  rw [tokens_append hsound hrest]
  exact hrun frames (tokens rest)

end Spells

end LabelFilter.Json
