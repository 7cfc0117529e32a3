import LabelFilter.Filter.Reading
import LabelFilter.Proofs.Json.Depth

/-!
# Filters at another depth

A filter is read to the same whether it is a document of its own or stands inside of one, as long
as the values in it leave room for what is around it.

## Main results

* `Filter.agreeWithin_ofDoc` — reading a filter with more or less room
-/

namespace LabelFilter

open Json (Doc AgreeWithin)

variable {n room room' : Nat}

theorem Operand.agreeWithin_ofDoc (h : n ≤ room) (h' : n ≤ room') :
    AgreeWithin n (Operand.ofDoc room) (Operand.ofDoc room') := by
  refine AgreeWithin.asOptional fun d hd => ?_
  rw [Json.agreeWithin_value h h' d hd]

theorem Item.Fields.read_congr (h : n ≤ room) (h' : n ≤ room') {d : Doc} (hd : d.Within n)
    (fields : Fields) (name : String) : fields.read room name d = fields.read room' name d := by
  unfold Fields.read
  split
  · rfl
  · rw [(Operand.agreeWithin_ofDoc h h').once "value" fields.operand hd]
  · rfl
  · rfl

theorem Item.agreeWithin_ofDoc (h : n ≤ room) (h' : n ≤ room') :
    AgreeWithin (n + 1) (Item.ofDoc room) (Item.ofDoc room') := by
  refine AgreeWithin.asRecord (fun items stop hitems => ?_) (fun ms stop hms => ?_)
  · refine bind_congr_of_ok ?_
    rintro ⟨key, rest⟩ hkey
    have hrest : ∀ d ∈ rest, d.Within n := fun d hd => hitems d (Json.mem_of_nextOr hkey d hd)
    dsimp only
    rw [(Operand.agreeWithin_ofDoc h h').nextOr _ hrest]
  · rw [Json.members_congr fun m hm s name => Fields.read_congr h h' (hms m hm) s name]

/-- **A filter is read to the same with more or less room**, if both have enough for the values in
it and for the lists and objects around them. -/
theorem Filter.agreeWithin_ofDoc (h : n + 3 ≤ room) (h' : n + 3 ≤ room') :
    AgreeWithin (n + 3) (Filter.ofDoc room) (Filter.ofDoc room') := by
  have hitems : AgreeWithin (n + 2) (Doc.asList (Item.ofDoc (room - 3)))
      (Doc.asList (Item.ofDoc (room' - 3))) :=
    (Item.agreeWithin_ofDoc (Nat.le_sub_of_add_le h) (Nat.le_sub_of_add_le h')).asList
  refine AgreeWithin.asRecord (fun fields stop hfields => ?_) (fun ms stop hms => ?_)
  · refine bind_congr_of_ok ?_
    rintro ⟨op, rest⟩ hop
    have hrest : ∀ d ∈ rest, d.Within (n + 2) := fun d hd => hfields d (Json.mem_of_nextOr hop d hd)
    dsimp only
    rw [hitems.nextOr _ hrest]
  · refine congrArg (· >>= _) (Json.members_congr fun m hm slots name => ?_)
    obtain ⟨op, list⟩ := slots
    dsimp only
    split
    · rfl
    · rw [hitems.once "items" list (hms m hm)]
    · rfl

end LabelFilter
