import LabelFilter.Files.Path
import LabelFilter.Proofs.Text.Spelling

/-!
# Expanded paths

A path is expanded where a user states it, and everything later works on the result. So the result
must not change when it is expanded again, wherever that happens: it begins with a slash, which
leaves it alone at its front, and it has no blank at its end that could be trimmed off.

A tilde with a slash behind it stands for the home directory, and what follows is joined to it. A
path that begins with a slash is not joined but taken as it is, so that one slash more leads away
from home.

## Main definitions

* `Path.NoBlankAtEnd` — paths that trimming leaves alone at their end
* `Path.names` — the names that a path leads along

## Main results

* `Path.expandTilde_cases` — what becomes of a tilde
* `Path.expand_stable` — expanded paths are absolute and stay as they are
* `Path.names_join` — a joined path leads along the names of both
* `Path.expand_below_home_iff` — when a path with a tilde leads below the home directory
-/

namespace LabelFilter.Path

open Text (isBlank trim)

variable {home : Option String} {base directory p q : String}

/-! ### Ends of paths -/

/-- No blank stands at the end of a path. -/
def NoBlankAtEnd (p : String) : Prop := ∀ c ∈ p.toList.getLast?, isBlank c = false

theorem NoBlankAtEnd.append (hq : NoBlankAtEnd q) (hp : NoBlankAtEnd p) :
    NoBlankAtEnd (q ++ p) := by
  intro c hc
  rw [String.toList_append, List.getLast?_append] at hc
  rcases Option.or_eq_some_iff.mp hc with h | ⟨-, h⟩
  · exact hp c h
  · exact hq c h

theorem noBlankAtEnd_slash : NoBlankAtEnd "/" := by
  intro c hc
  obtain rfl : '/' = c := Option.some.inj hc
  decide

theorem noBlankAtEnd_trim (p : String) : NoBlankAtEnd (trim p) := by
  intro c hc
  rw [Text.toList_trim] at hc
  exact Text.getLast?_trimChars _ c hc

/-- What is joined ends as its second part does, or in a slash. -/
theorem NoBlankAtEnd.join (base : String) (hp : NoBlankAtEnd p) :
    NoBlankAtEnd (Path.join base p) := by
  unfold Path.join
  split_ifs with habs hbase
  · exact hp
  · refine NoBlankAtEnd.append ?_ hp
    intro c hc
    rcases hbase with hslash | rfl
    · obtain rfl : '/' = c := Option.some.inj (hslash.symm.trans hc)
      decide
    · cases hc
  · refine NoBlankAtEnd.append ?_ hp
    intro c hc
    rw [String.toList_append, List.getLast?_append] at hc
    exact noBlankAtEnd_slash c hc

/-! ### Tildes -/

/-- A tilde alone is the home directory, and one before a slash is joined to what follows. All else
stays. -/
theorem expandTilde_cases (home : Option String) (p : String) :
    (p = "~" ∧ home = some (expandTilde home p)) ∨
      (∃ h rest, home = some h ∧ p = "~/" ++ rest ∧ expandTilde home p = join h rest) ∨
      expandTilde home p = p := by
  unfold expandTilde
  split
  · next h hp =>
    refine .inl ⟨?_, rfl⟩
    rw [← String.toList_inj, hp]
    rfl
  · next rest h hp =>
    refine .inr (.inl ⟨h, String.ofList rest, rfl, ?_, rfl⟩)
    rw [← String.toList_inj, hp]
    simp
  · exact .inr (.inr rfl)

theorem expandTilde_of_no_tilde (h : p ≠ "~") (hslash : ∀ rest, p ≠ "~/" ++ rest) :
    expandTilde home p = p := by
  obtain ⟨hp, -⟩ | ⟨_, rest, -, hp, -⟩ | hp := expandTilde_cases home p
  · exact absurd hp h
  · exact absurd hp (hslash rest)
  · exact hp

theorem expandTilde_slash (h rest : String) :
    expandTilde (some h) ("~/" ++ rest) = join h rest := by
  have htext : ("~/" ++ rest).toList = '~' :: '/' :: rest.toList := by
    rw [String.toList_append]
    rfl
  simp only [expandTilde, htext, String.ofList_toList]

/-! ### Paths that stay as they are -/

/-- An absolute path without a blank at its end is its own expansion, wherever it is expanded. -/
theorem expand_of_isAbsolute (hp : isAbsolute p = true) (hend : NoBlankAtEnd p)
    (home : Option String) (directory : String) : expand home directory p = p := by
  have hhead : p.toList.head? = some '/' := by simpa [isAbsolute] using hp
  have htrim : trim p = p := by
    rw [trim, Text.trimChars_eq_self ?_ hend, String.ofList_toList]
    intro c hc
    obtain rfl : '/' = c := Option.some.inj (hhead.symm.trans hc)
    decide
  have htilde : expandTilde home p = p := by
    refine expandTilde_of_no_tilde ?_ fun rest => ?_
    · rintro rfl
      cases hhead
    · rintro rfl
      rw [String.toList_append] at hhead
      cases hhead
  rw [expand, htrim, htilde, join, if_pos hp]

/-- An expansion ends as the home directory or the trimmed path does, or in a slash. -/
theorem noBlankAtEnd_expand (hhome : ∀ h ∈ home, NoBlankAtEnd h) (directory p : String) :
    NoBlankAtEnd (expand home directory p) := by
  refine NoBlankAtEnd.join directory ?_
  have htrim := noBlankAtEnd_trim p
  obtain ⟨-, h⟩ | ⟨h, rest, -, hp, hjoin⟩ | h := expandTilde_cases home (trim p)
  · exact hhome _ h
  · rw [hjoin]
    refine NoBlankAtEnd.join h fun c hc => htrim c ?_
    rw [hp, String.toList_append, List.getLast?_append]
    exact Option.or_eq_some_iff.mpr (.inl hc)
  · rwa [h]

/-- **Expanded paths are absolute and stay as they are.** Expanding them again changes nothing, even
in another place. Blanks around a path do not count, and the home directory counts for paths with a
tilde only: one that stands alone or before a slash. -/
theorem expand_stable (home : Option String) (directory p : String)
    (hhome : ∀ h ∈ home, ∀ c ∈ h.toList.getLast?, isBlank c = false)
    (hdirectory : isAbsolute directory = true) :
    isAbsolute (expand home directory p) = true ∧
    (∀ home' directory',
      expand home' directory' (expand home directory p) = expand home directory p) ∧
    (∀ front back : String, (∀ c ∈ front.toList, isBlank c = true) →
      (∀ c ∈ back.toList, isBlank c = true) →
      expand home directory (front ++ p ++ back) = expand home directory p) ∧
    (trim p ≠ "~" → (∀ rest, trim p ≠ "~/" ++ rest) →
      ∀ home', expand home' directory p = expand home directory p) := by
  have habsolute := isAbsolute_expand home hdirectory p
  refine ⟨habsolute, ?_, ?_, ?_⟩
  · exact expand_of_isAbsolute habsolute (noBlankAtEnd_expand hhome directory p)
  · intro front back hfront hback
    have htrim : trim (front ++ p ++ back) = trim p := by
      rw [trim, String.toList_append, String.toList_append,
        Text.trimChars_of_blank_ends hfront hback, trim]
    rw [expand, htrim, expand]
  · intro htilde hslash home'
    rw [expand, expandTilde_of_no_tilde htilde hslash, expand,
      expandTilde_of_no_tilde htilde hslash]

/-- A relative home directory, blanks around the path and behind its tilde, and a slash at its
end. -/
theorem expand_of_relative_home :
    let path := expand (some "rel") "/work" "~/ a/"
    path = "/work/rel/ a/" ∧ isAbsolute path = true ∧
      expand none "/" path = path ∧
      expand (some "rel") "/work" ("\u3000" ++ "~/ a/" ++ "\n") = path ∧
      expand none "/work" "~x" = expand (some "rel") "/work" "~x" := by
  have hhome : ∀ h ∈ some "rel", ∀ c ∈ h.toList.getLast?, isBlank c = false := by
    rintro h ⟨⟩ c ⟨⟩
    decide
  obtain ⟨habsolute, hagain, hblank, -⟩ := expand_stable (some "rel") "/work" "~/ a/" hhome rfl
  have htilde := (expand_stable (some "rel") "/work" "~x" hhome rfl).2.2.2
  refine ⟨by decide +kernel, habsolute, hagain none "/", ?_, ?_⟩
  · exact hblank "\u3000" "\n" (List.forall_mem_singleton.mpr (by decide))
      (List.forall_mem_singleton.mpr (by decide))
  · have htrim : trim "~x" = "~x" := by decide +kernel
    refine htilde (by decide +kernel) (fun rest h => ?_) none
    rw [htrim, ← String.toList_inj, String.toList_append] at h
    cases h

/-! ### Names along a path -/

/-- The names that a path leads along. -/
def names (p : String) : List String := (components p).filter (· ≠ "")

theorem componentsFrom_append_slash (word cs cs' : List Char) :
    componentsFrom word (cs ++ '/' :: cs') = componentsFrom word cs ++ componentsFrom [] cs' := by
  induction cs generalizing word with
  | nil => rfl
  | cons c cs ih =>
    rw [List.cons_append, componentsFrom, componentsFrom, ih, ih]
    split <;> rfl

theorem names_append_slash (p q : String) : names (p ++ "/" ++ q) = names p ++ names q := by
  have htext : (p ++ "/" ++ q).toList = p.toList ++ '/' :: q.toList := by simp
  rw [names, components, htext, componentsFrom_append_slash, List.filter_append]
  rfl

/-- A relative path is put behind the other one with one slash between them. -/
theorem exists_join_eq (hbase : base ≠ "") (hp : isAbsolute p = false) :
    ∃ front, (base = front ∨ base = front ++ "/") ∧ join base p = front ++ "/" ++ p := by
  by_cases hslash : base.toList.getLast? = some '/'
  · obtain ⟨front, hfront⟩ := List.getLast?_eq_some_iff.mp hslash
    have hsplit : base = String.ofList front ++ "/" := by
      rw [← String.toList_inj, hfront, String.toList_append, String.toList_ofList]
      rfl
    refine ⟨String.ofList front, .inr hsplit, ?_⟩
    rw [join, if_neg (by simp [hp]), if_pos (.inl hslash), ← hsplit]
  · refine ⟨base, .inl rfl, ?_⟩
    rw [join, if_neg (by simp [hp]), if_neg (not_or.mpr ⟨hslash, hbase⟩)]

/-- **A joined path leads along the names of both.** -/
theorem names_join (hbase : base ≠ "") (hp : isAbsolute p = false) :
    names (join base p) = names base ++ names p := by
  obtain ⟨front, hfront, hjoin⟩ := exists_join_eq hbase hp
  rw [hjoin, names_append_slash]
  rcases hfront with rfl | rfl
  · rfl
  · have hnames := names_append_slash front ""
    rw [String.append_empty] at hnames
    rw [hnames]
    simp [names, components, componentsFrom]

theorem prefix_join (hp : isAbsolute p = false) : base.toList <+: (join base p).toList := by
  rw [join, if_neg (by simp [hp])]
  split
  · rw [String.toList_append]
    exact List.prefix_append _ _
  · rw [String.toList_append, String.toList_append, List.append_assoc]
    exact List.prefix_append _ _

/-! ### Below the home directory -/

/-- **When a path with a tilde leads below the home directory.** What follows the tilde and its
slash leads on from there if it does not begin with a slash itself. If it does, it is the whole
path. -/
theorem expand_below_home_iff {home rest : String} (hhome : isAbsolute home = true)
    (hp : trim p = "~/" ++ rest) :
    (names (expand (some home) directory p) = names home ++ names rest ↔
      isAbsolute rest = false ∨ names home = []) ∧
    (isAbsolute rest = false → home.toList <+: (expand (some home) directory p).toList) ∧
    (isAbsolute rest = true → expand (some home) directory p = rest) := by
  have hexpand : expand (some home) directory p = join home rest := by
    rw [expand, hp, expandTilde_slash, join, if_pos (isAbsolute_join hhome rest)]
  have hne : home ≠ "" := by
    rintro rfl
    cases hhome
  rw [hexpand]
  cases habs : isAbsolute rest with
  | false => exact ⟨by simp [names_join hne habs], fun _ => prefix_join habs, nofun⟩
  | true =>
    have hjoin : join home rest = rest := by rw [join, if_pos habs]
    rw [hjoin]
    exact ⟨by simp, nofun, fun _ => rfl⟩

/-- Blanks around the path, and a home directory that ends in a slash. -/
theorem expand_below_home_of_dots :
    let path := expand (some "/home/u/") "/work" " ~/../x//y\t"
    path = "/home/u/../x//y" ∧ names path = ["home", "u"] ++ ["..", "x", "y"] ∧
      "/home/u/".toList <+: path.toList := by
  have hbelow := @expand_below_home_iff "/work" " ~/../x//y\t" "/home/u/" "../x//y" rfl
    (by decide +kernel)
  exact ⟨by decide +kernel, hbelow.1.mpr (.inl rfl), hbelow.2.1 rfl⟩

/-- Two slashes behind a tilde lead away from home. -/
theorem expand_of_two_slashes :
    isAbsolute "/home/u" = true ∧ trim "~//etc" = "~/" ++ "/etc" ∧
      expand (some "/home/u") "/work" "~//etc" = "/etc" ∧
      names "/etc" ≠ names "/home/u" ++ names "/etc" ∧
      ¬ "/home/u".toList <+: "/etc".toList := by
  decide +kernel

end LabelFilter.Path
