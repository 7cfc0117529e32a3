import Mathlib.Data.Nat.Init
import LabelFilter.Http.Address

/-!
# Addresses are read back

The canonical text of an address is read as that address. An address of version 4 is read octet by
octet. The text of an address of version 6 may leave out a run of zero units, and what is read in
its place are as many zero units as are missing; there is one gap at most, since units that are
written stand between single colons.

## Main definitions

* `Address.digits` — the hexadecimal digits of a unit
* `Address.IsRun` — where a list has a run of zero units

## Main results

* `Address.number?_toDigits` — the digits of a number are read as the number
* `Address.octets?_dotted` — addresses of version 4
* `Address.unitsOf?_colons`, `Address.splitGap_colons_append` — units, and the gap behind them
* `Address.isRun_longestRun` — what is left out is a run of zero units
* `Address.text_v6_cases` — the three ways to write eight units
* `Address.ofText?_text` — canonical texts are read back
-/

namespace LabelFilter.Address

/-! ### Pieces -/

theorem pieces_eq_splitOn (sep : Char) (cs : List Char) : pieces sep cs = cs.splitOn sep := by
  induction cs with
  | nil => rfl
  | cons c cs ih =>
    rw [pieces, ih, List.splitOn_cons_eq_if_modifyHead]
    have hne : cs.splitOn sep ≠ [] := List.splitOn_ne_nil sep cs
    cases hcs : cs.splitOn sep with
    | nil => exact absurd hcs hne
    | cons p ps => simp only [beq_iff_eq, List.modifyHead_cons]

theorem pieces_intercalate {sep : Char} {ps : List (List Char)} (hps : ∀ p ∈ ps, sep ∉ p)
    (hne : ps ≠ []) : pieces sep ([sep].intercalate ps) = ps := by
  rw [pieces_eq_splitOn, List.splitOn_intercalate sep hps hne]

theorem pieces_of_not_mem {sep : Char} {p : List Char} (hp : sep ∉ p) : pieces sep p = [p] := by
  simpa using @pieces_intercalate sep [p] (by simpa using hp) (by simp)

/-! ### Digits -/

section

variable {radix : Nat} {digit? : Char → Option Nat} {cs : List Char} {c : Char} {n d : Nat}

theorem number?_append (hcs : number? radix digit? cs = some n) (hc : digit? c = some d) :
    number? radix digit? (cs ++ [c]) = some (n * radix + d) := by
  obtain ⟨ds, hds, hn⟩ := Option.bind_eq_some_iff.mp hcs
  cases hn
  simp [number?, List.mapM_append, hds, hc]

/-- **The digits of a number** are read as the number. -/
theorem number?_toDigits (hradix : 1 < radix)
    (hdigit : ∀ d < radix, digit? d.digitChar = some d) (n : Nat) :
    number? radix digit? (Nat.toDigits radix n) = some n := by
  induction n using Nat.strongRecOn with
  | ind n ih =>
    rw [Nat.toDigits_eq_if hradix]
    split
    · next hn => simp [number?, hdigit n hn]
    · next hn =>
      have hlt : n / radix < n := Nat.div_lt_self (by omega) hradix
      have hlast : n % radix < radix := Nat.mod_lt n (by omega)
      rw [number?_append (ih _ hlt) (hdigit _ hlast), Nat.div_add_mod']

end

theorem decimal?_digitChar : ∀ d < 10, decimal? d.digitChar = some d := by
  decide

theorem hexadecimal?_digitChar : ∀ d < 16, hexadecimal? d.digitChar = some d := by
  decide

/-- No number but zero begins with a zero. -/
theorem head?_toDigits_ne {n : Nat} (hn : 0 < n) : (Nat.toDigits 10 n).head? ≠ some '0' := by
  induction n using Nat.strongRecOn with
  | ind n ih =>
    rw [Nat.toDigits_eq_if (by decide)]
    split
    · next hlt =>
      have hfirst : ∀ d < 10, 0 < d → [d.digitChar].head? ≠ some '0' := by decide
      exact hfirst n hlt hn
    · next hge =>
      have hrest := ih (n / 10) (Nat.div_lt_self hn (by decide)) (by omega)
      cases hdigits : Nat.toDigits 10 (n / 10) with
      | nil => exact absurd hdigits Nat.toDigits_ne_nil
      | cons c cs =>
        rw [hdigits] at hrest
        exact hrest

/-! ### Version 4 -/

theorem octet?_toDigits (n : UInt8) : octet? (Nat.toDigits 10 n.toNat) = some n := by
  have hn : n.toNat < 256 := n.toNat_lt
  have hlength : (Nat.toDigits 10 n.toNat).length ≤ 3 :=
    (Nat.length_toDigits_le_iff (by decide) (by decide)).mpr (by omega)
  have hform : ¬ (Nat.toDigits 10 n.toNat = [] ∨ 3 < (Nat.toDigits 10 n.toNat).length ∨
      (Nat.toDigits 10 n.toNat).head? = some '0' ∧ 1 < (Nat.toDigits 10 n.toNat).length) := by
    rintro (hnil | hlong | ⟨hlead, hlong⟩)
    · exact Nat.toDigits_ne_nil hnil
    · omega
    · rcases Nat.eq_zero_or_pos n.toNat with hzero | hpos
      · rw [hzero] at hlong
        exact absurd hlong (by decide)
      · exact head?_toDigits_ne hpos hlead
  rw [octet?, if_neg hform, number?_toDigits (by decide) decimal?_digitChar]
  simp [hn, UInt8.size]

theorem toList_dotted (a b c d : UInt8) : (dotted a b c d).toList =
    ['.'].intercalate ([a, b, c, d].map fun n => Nat.toDigits 10 n.toNat) := by
  simp [dotted]

theorem not_mem_octet {c : Char} (hc : c.isDigit = false) (n : UInt8) :
    c ∉ Nat.toDigits 10 n.toNat := by
  intro h
  rw [Nat.isDigit_of_mem_toDigits (by decide) (by decide) h] at hc
  cases hc

theorem not_mem_dotted {c : Char} (hdot : c ≠ '.') (hc : c.isDigit = false) (p q r s : UInt8) :
    c ∉ (dotted p q r s).toList := by
  rw [toList_dotted]
  simp [List.intercalate_cons_cons, not_mem_octet hc, hdot]

/-- **Addresses of version 4** are read octet by octet. -/
theorem octets?_dotted (a b c d : UInt8) :
    octets? (dotted a b c d).toList = some (a, b, c, d) := by
  have hpieces : ∀ p ∈ [a, b, c, d].map fun n => Nat.toDigits 10 n.toNat, '.' ∉ p := by
    simp [not_mem_octet]
  rw [octets?, toList_dotted, pieces_intercalate hpieces (by simp)]
  simp [octet?_toDigits]

/-- Without a dot there are no four octets. -/
theorem octets?_of_not_mem {cs : List Char} (hcs : '.' ∉ cs) : octets? cs = none := by
  rw [octets?, pieces_of_not_mem hcs]

/-! ### Units -/

/-- The hexadecimal digits of a unit. -/
def digits (u : UInt16) : List Char := Nat.toDigits 16 u.toNat

theorem mem_toDigits {radix : Nat} (hradix : 1 < radix) {c : Char} {n : Nat}
    (hc : c ∈ Nat.toDigits radix n) : ∃ d < radix, d.digitChar = c := by
  induction n using Nat.strongRecOn with
  | ind n ih =>
    rw [Nat.toDigits_eq_if hradix] at hc
    split at hc
    · next hn => exact ⟨n, hn, (List.mem_singleton.mp hc).symm⟩
    · next hn =>
      rcases List.mem_append.mp hc with hinit | hlast
      · exact ih _ (Nat.div_lt_self (by omega) hradix) hinit
      · exact ⟨n % radix, Nat.mod_lt n (by omega), (List.mem_singleton.mp hlast).symm⟩

theorem not_mem_digits {c : Char} (hc : ∀ d < 16, d.digitChar ≠ c) (u : UInt16) :
    c ∉ digits u := by
  intro h
  obtain ⟨d, hd, heq⟩ := mem_toDigits (by decide) h
  exact hc d hd heq

theorem colon_not_mem_digits (u : UInt16) : ':' ∉ digits u := not_mem_digits (by decide) u

theorem dot_not_mem_digits (u : UInt16) : '.' ∉ digits u := not_mem_digits (by decide) u

theorem digits_ne_nil (u : UInt16) : digits u ≠ [] := Nat.toDigits_ne_nil

theorem unit?_digits (u : UInt16) : unit? (digits u) = some u := by
  have hu : u.toNat < 16 ^ 4 := u.toNat_lt
  have hlength : (digits u).length ≤ 4 :=
    (Nat.length_toDigits_le_iff (by decide) (by decide)).mpr hu
  have hform : ¬ (digits u = [] ∨ 4 < (digits u).length) := by
    rintro (hnil | hlong)
    · exact digits_ne_nil u hnil
    · omega
  rw [unit?, if_neg hform, digits, number?_toDigits (by decide) hexadecimal?_digitChar]
  simp

theorem units?_digits (mixed : Bool) (us : List UInt16) :
    units? mixed (us.map digits) = some us := by
  induction us with
  | nil => rfl
  | cons u us ih =>
    cases us with
    | nil => simp [units?, octets?_of_not_mem (dot_not_mem_digits u), unit?_digits]
    | cons v us =>
      rw [List.map_cons, List.map_cons] at *
      rw [units?, ih, unit?_digits]
      · rfl
      · simp

theorem toList_colons (us : List UInt16) :
    (colons us).toList = [':'].intercalate (us.map digits) := by
  have hdigits : String.toList ∘ (fun u : UInt16 => String.ofList (Nat.toDigits 16 u.toNat)) =
      digits := funext fun u => String.toList_ofList
  simp [colons, hdigits]

theorem pieces_colons {us : List UInt16} (hus : us ≠ []) :
    pieces ':' (colons us).toList = us.map digits := by
  have hpieces : ∀ p ∈ us.map digits, ':' ∉ p := by simp [colon_not_mem_digits]
  rw [toList_colons, pieces_intercalate hpieces (by simpa using hus)]

/-- **Units with colons between them** are read unit by unit. -/
theorem unitsOf?_colons (mixed : Bool) (us : List UInt16) :
    unitsOf? mixed (colons us).toList = some us := by
  cases us with
  | nil => rfl
  | cons u us =>
    have hpieces := pieces_colons (List.cons_ne_nil u us)
    have htext : (colons (u :: us)).toList ≠ [] := by
      intro hnil
      rw [hnil] at hpieces
      exact digits_ne_nil u (List.cons.inj hpieces).1.symm
    rw [unitsOf?, if_neg htext, hpieces, units?_digits]

theorem intercalate_cons (sep : Char) (p : List Char) (ps : List (List Char)) :
    [sep].intercalate (p :: ps) = p ++ ps.flatMap (sep :: ·) := by
  induction ps generalizing p with
  | nil => simp
  | cons q ps ih => simp [List.intercalate_cons_cons, ih]

/-- Every unit but the first stands behind a colon. -/
theorem toList_colons_cons (u : UInt16) (us : List UInt16) :
    (colons (u :: us)).toList = digits u ++ us.flatMap (':' :: digits ·) := by
  rw [toList_colons, List.map_cons, intercalate_cons, List.flatMap_map]

theorem not_mem_colons {c : Char} (hcolon : c ≠ ':') (hc : ∀ d < 16, d.digitChar ≠ c)
    (us : List UInt16) : c ∉ (colons us).toList := by
  cases us with
  | nil => simp [colons]
  | cons u us => simp [toList_colons_cons, not_mem_digits hc, hcolon]

/-! ### The gap -/

theorem splitGap_append {p : List Char} (hp : ':' ∉ p) (cs : List Char) :
    splitGap (p ++ cs) = (splitGap cs).map fun s => (p ++ s.1, s.2) := by
  induction p with
  | nil => simp
  | cons c p ih =>
    obtain ⟨hc, hp⟩ := not_or.mp (mt List.mem_cons.mpr hp)
    rw [List.cons_append, splitGap, ih hp, Option.map_map]
    · rfl
    · exact fun _ hcolon => absurd hcolon.symm hc

theorem splitGap_colon_digits (u : UInt16) (cs : List Char) :
    splitGap (':' :: digits u ++ cs) =
      (splitGap cs).map fun s => (':' :: digits u ++ s.1, s.2) := by
  have happend := splitGap_append (colon_not_mem_digits u) cs
  obtain ⟨c, rest, hdigits⟩ := List.exists_cons_of_ne_nil (digits_ne_nil u)
  have hc : c ≠ ':' := fun h => colon_not_mem_digits u (by simp [hdigits, h])
  rw [hdigits] at happend ⊢
  rw [List.cons_append, List.cons_append, splitGap, ← List.cons_append, happend, Option.map_map]
  · rfl
  · rintro _ - heq
    exact hc (List.cons.inj heq).1

/-- Units are passed over: a gap behind them is found where it is. -/
theorem splitGap_colons_append (us : List UInt16) (cs : List Char) :
    splitGap ((colons us).toList ++ cs) =
      (splitGap cs).map fun s => ((colons us).toList ++ s.1, s.2) := by
  have hrest : ∀ us : List UInt16, splitGap (us.flatMap (':' :: digits ·) ++ cs) =
      (splitGap cs).map fun s => (us.flatMap (':' :: digits ·) ++ s.1, s.2) := by
    intro us
    induction us with
    | nil => simp
    | cons u us ih =>
      rw [List.flatMap_cons, List.append_assoc, splitGap_colon_digits, ih, Option.map_map]
      simp [Function.comp_def]
  cases us with
  | nil => simp [colons]
  | cons u us =>
    rw [toList_colons_cons, List.append_assoc, splitGap_append (colon_not_mem_digits u), hrest us,
      Option.map_map]
    simp [Function.comp_def]

/-! ### Runs of zero units -/

/-- A list has a run of zero units, which begins and is as long as stated. -/
def IsRun (us : List UInt16) (run : Nat × Nat) : Prop :=
  us.take run.1 ++ List.replicate run.2 0 ++ us.drop (run.1 + run.2) = us

theorem replicate_zeros (us : List UInt16) :
    List.replicate (zeros us) 0 ++ us.drop (zeros us) = us := by
  induction us with
  | nil => rfl
  | cons u us ih =>
    by_cases hu : u = 0
    · subst hu
      simpa [zeros, List.replicate_succ] using ih
    · simp [zeros, hu]

/-- **What is left out** is a run of zero units. -/
theorem isRun_longestRun {front us : List UInt16} {best : Nat × Nat}
    (hbest : IsRun (front ++ us) best) :
    IsRun (front ++ us) (longestRun front.length best us) := by
  induction us generalizing front best with
  | nil => exact hbest
  | cons u us ih =>
    have hhere : IsRun (front ++ u :: us) (front.length, zeros (u :: us)) := by
      simp [IsRun, replicate_zeros]
    have hmove : front ++ u :: us = (front ++ [u]) ++ us := by simp
    have hlength : front.length + 1 = (front ++ [u]).length := by simp
    rw [longestRun, hlength, hmove]
    refine ih ?_
    rw [← hmove]
    split
    · exact hhere
    · exact hbest

/-! ### Version 6 -/

theorem ofUnits?_eq {us : List UInt16} (h : us.length = 8) : ofUnits? us = some (.v6 us h) :=
  dif_pos h

/-- Eight units are read back where none are left out. -/
theorem v6OfChars?_colons {us : List UInt16} (h : us.length = 8) :
    v6OfChars? (colons us).toList = some (.v6 us h) := by
  have hgap : splitGap (colons us).toList = none := by
    simpa [splitGap] using splitGap_colons_append us []
  have hne : us ≠ [] := List.ne_nil_of_length_pos (by omega)
  simp [v6OfChars?, hgap, pieces_colons hne, units?_digits, ofUnits?_eq h]

theorem v6OfChars?_gap {us : List UInt16} {start length : Nat} (h : us.length = 8)
    (hrun : IsRun us (start, length)) (hlength : 0 < length) :
    v6OfChars? (colons (us.take start) ++ "::" ++ colons (us.drop (start + length))).toList =
      some (.v6 us h) := by
  have htext : (colons (us.take start) ++ "::" ++ colons (us.drop (start + length))).toList =
      (colons (us.take start)).toList ++
        ':' :: ':' :: (colons (us.drop (start + length))).toList := by
    simp
  have hgap := splitGap_colons_append (us.take start)
    (':' :: ':' :: (colons (us.drop (start + length))).toList)
  have hcount : (us.take start).length + (length + (us.drop (start + length)).length) = 8 := by
    simpa [h] using congrArg List.length hrun
  have hmissing : 8 - ((us.take start).length + (us.drop (start + length)).length) = length := by
    omega
  rw [v6OfChars?, htext, hgap]
  simp only [splitGap, Option.map_some, List.append_nil, unitsOf?_colons, Option.bind_eq_bind,
    Option.bind_some, hmissing]
  rw [if_pos (by omega), hrun, ofUnits?_eq h]

/-! ### Addresses of version 4 that are mapped into version 6 -/

theorem halves (x : UInt16) :
    (x >>> 8).toUInt8.toUInt16 * 256 + x.toUInt8.toUInt16 = x := by
  apply UInt16.toNat_inj.mp
  have hx : x.toNat < 65536 := x.toNat_lt
  simp [Nat.shiftRight_eq_div_pow]
  omega

theorem octets?_mapped (a b c d : UInt8) :
    octets? ("::ffff:" ++ dotted a b c d).toList = none := by
  have htext : ("::ffff:" ++ dotted a b c d).toList =
      ['.'].intercalate (("::ffff:".toList ++ Nat.toDigits 10 a.toNat) ::
        [b, c, d].map fun n => Nat.toDigits 10 n.toNat) := by
    simp [toList_dotted, List.intercalate_cons_cons]
  have hpieces : ∀ p ∈ ("::ffff:".toList ++ Nat.toDigits 10 a.toNat) ::
      [b, c, d].map fun n => Nat.toDigits 10 n.toNat, '.' ∉ p := by
    simp [not_mem_octet]
  have hlong : octet? ("::ffff:".toList ++ Nat.toDigits 10 a.toNat) = none := by
    rw [octet?, if_pos (.inr (.inl (by simp)))]
  rw [octets?, htext, pieces_intercalate hpieces (by simp)]
  simp only [List.map_cons, List.map_nil, hlong, Option.bind_eq_bind, Option.bind_none]

theorem v6OfChars?_mapped (x y : UInt16) :
    v6OfChars? ("::ffff:" ++
      dotted (x >>> 8).toUInt8 x.toUInt8 (y >>> 8).toUInt8 y.toUInt8).toList =
        some (.v6 [0, 0, 0, 0, 0, 0xffff, x, y] rfl) := by
  generalize hdots : dotted (x >>> 8).toUInt8 x.toUInt8 (y >>> 8).toUInt8 y.toUInt8 = dots
  have hoctets : octets? dots.toList =
      some ((x >>> 8).toUInt8, x.toUInt8, (y >>> 8).toUInt8, y.toUInt8) :=
    hdots ▸ octets?_dotted ..
  have hcolon : ':' ∉ dots.toList := by
    rw [← hdots]
    exact not_mem_dotted (by decide) (by decide) _ _ _ _
  have htail : ("ffff:" ++ dots).toList = [':'].intercalate [digits 0xffff, dots.toList] := by
    have hdigits : digits 0xffff = "ffff".toList := by decide
    simp [hdigits]
  have hpieces : pieces ':' ("ffff:" ++ dots).toList = [digits 0xffff, dots.toList] := by
    rw [htail, pieces_intercalate (by simp [colon_not_mem_digits, hcolon]) (by simp)]
  have hgap : splitGap ("::ffff:" ++ dots).toList = some ([], ("ffff:" ++ dots).toList) := by
    simp [splitGap]
  have htext : ("ffff:" ++ dots).toList ≠ [] := by simp
  rw [v6OfChars?, hgap]
  simp only [unitsOf?, if_neg htext, hpieces, units?, unit?_digits, hoctets, halves]
  rfl

/-! ### Canonical texts -/

/-- What is written of eight units. -/
theorem text_v6_cases {us : List UInt16} (h : us.length = 8) :
    (∃ x y, us = [0, 0, 0, 0, 0, 0xffff, x, y] ∧ text (.v6 us h) =
      "::ffff:" ++ dotted (x >>> 8).toUInt8 x.toUInt8 (y >>> 8).toUInt8 y.toUInt8) ∨
    (∃ start length, IsRun us (start, length) ∧ 0 < length ∧ text (.v6 us h) =
      colons (us.take start) ++ "::" ++ colons (us.drop (start + length))) ∨
    text (.v6 us h) = colons us := by
  have hrun : IsRun us (longestRun 0 (0, 0) us) :=
    @isRun_longestRun [] us (0, 0) (by simp [IsRun])
  unfold text
  dsimp only
  split
  · next x y _ => exact .inl ⟨x, y, rfl, rfl⟩
  · by_cases hlength : 1 < (longestRun 0 (0, 0) us).2
    · exact .inr (.inl ⟨_, _, hrun, Nat.lt_of_succ_lt hlength, if_pos hlength⟩)
    · exact .inr (.inr (if_neg hlength))

/-- A text of version 6 has no brackets in it. -/
theorem not_mem_text_v6 {us : List UInt16} (h : us.length = 8) :
    '[' ∉ (text (.v6 us h)).toList := by
  obtain ⟨x, y, rfl, htext⟩ | ⟨start, length, -, -, htext⟩ | htext := text_v6_cases h
  · simp [htext, not_mem_dotted]
  · simp [htext, not_mem_colons]
  · rw [htext]
    exact not_mem_colons (by decide) (by decide) us

/-- **Canonical texts** are read as the address that they write. -/
theorem ofText?_text (a : Address) : ofText? a.text = some a := by
  cases a with
  | v4 a b c d => simp only [ofText?, text, octets?_dotted]
  | v6 us h =>
    obtain ⟨x, y, rfl, htext⟩ | ⟨start, length, hrun, hlength, htext⟩ | htext := text_v6_cases h
    · simp only [ofText?, htext, octets?_mapped, v6OfChars?_mapped]
    · have hdot : '.' ∉
          (colons (us.take start) ++ "::" ++ colons (us.drop (start + length))).toList := by
        simp [not_mem_colons]
      simp only [ofText?, htext, octets?_of_not_mem hdot, v6OfChars?_gap h hrun hlength]
    · have hdot : '.' ∉ (colons us).toList := not_mem_colons (by decide) (by decide) us
      simp only [ofText?, htext, octets?_of_not_mem hdot, v6OfChars?_colons h]

end LabelFilter.Address
