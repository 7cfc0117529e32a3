import LabelFilter.Proofs.Json.Record
import LabelFilter.Proofs.Settings.Layering

/-!
# Files that settings are loaded from

Loading settings stops at the first file that cannot be read or decoded, whatever the other file and
the options set. Only a file that an option names and that is not there comes before all of them.
Files that have been decoded by then warn of the members that they should not have.

## Main definitions

* `Surroundings.Yields` — what comes of a settings file
* `Surroundings.Loads` — how far files are loaded one after the other
* `Doc.memberNames`, `SettingsDocument.ListsUnknown` — the members that a file should not have

## Main results

* `Surroundings.yields_iff_read` — reading a settings file
* `SettingsDocument.readAll_of_loads` — reading files one after the other
* `SettingsDocument.listsUnknown_of_ofDoc` — the names that a file warns of
* `Settings.load_in_order` — loading settings stops at the first file that is wrong
-/

namespace LabelFilter

open List (Forall₂)
open Json (Doc Document Log Spells octets objectText listText stringText)

/-! ### One file -/

namespace Surroundings

variable {s : Surroundings}

/-- What comes of the settings file that a path leads to: a directory and a file that is no text
cannot be read, and a text is decoded or not. -/
inductive Yields (s : Surroundings) (path : String) : Except LoadError SettingsDocument → Prop where
  | directory (h : s.files.resolve s.directory path = .ok .directory) :
      Yields s path (.error (.unreadable path (.file .isDirectory)))
  | notUtf8 {content : ByteArray} (hfile : s.read path = .ok content)
      (htext : ¬ content.IsValidUTF8) : Yields s path (.error (.unreadable path .notUtf8))
  | malformed {content : ByteArray} {fault : Json.Fault} (hfile : s.read path = .ok content)
      (htext : content.IsValidUTF8)
      (h : decodeText (SettingsDocument.ofDoc Doc.maxDepth) content.toList = .error fault) :
      Yields s path (.error (.malformed path fault))
  | document {content : ByteArray} {doc : SettingsDocument} (hfile : s.read path = .ok content)
      (htext : content.IsValidUTF8)
      (h : decodeText (SettingsDocument.ofDoc Doc.maxDepth) content.toList = .ok doc) :
      Yields s path (.ok doc)

/-- A path that leads somewhere leads to a directory or to a file. -/
theorem directory_or_file {path : String} (h : s.leads path = true) :
    s.files.resolve s.directory path = .ok .directory ∨ ∃ content, s.read path = .ok content := by
  rw [leads, FileTree.leads] at h
  cases hnode : s.files.resolve s.directory path with
  | error e =>
    rw [hnode] at h
    cases h
  | ok node =>
    cases node with
    | directory => exact .inl rfl
    | file content =>
      refine .inr ⟨content, ?_⟩
      rw [read, FileTree.read, hnode]
      rfl

theorem read_of_yields {path : String} {r : Except LoadError SettingsDocument}
    (h : s.Yields path r) : SettingsDocument.read s path = r := by
  have hread : ∀ {content : ByteArray}, s.read path = .ok content → s.readText path =
      if content.validateUTF8 then .ok content else .error .notUtf8 := by
    intro content hfile
    rw [readText, hfile]
    rfl
  have htext : ∀ {content : ByteArray}, s.read path = .ok content → content.IsValidUTF8 →
      SettingsDocument.read s path =
        (decodeText (SettingsDocument.ofDoc Doc.maxDepth) content.toList).mapError
          (.malformed path) := by
    intro content hfile hvalid
    rw [SettingsDocument.read, hread hfile,
      if_pos (ByteArray.validateUTF8_eq_true_iff.mpr hvalid)]
    rfl
  cases h with
  | directory h =>
    -- A directory is found, and only reading it fails.
    have hfile : s.read path = .error .isDirectory := by
      rw [read, FileTree.read, h]
      rfl
    rw [SettingsDocument.read, readText, hfile]
    rfl
  | notUtf8 hfile hinvalid =>
    rw [SettingsDocument.read, hread hfile,
      if_neg fun hvalid => hinvalid (ByteArray.validateUTF8_eq_true_iff.mp hvalid)]
    rfl
  | malformed hfile hvalid h | document hfile hvalid h =>
    rw [htext hfile hvalid, h]
    rfl

theorem exists_yields {path : String} (h : s.leads path = true) : ∃ r, s.Yields path r := by
  rcases directory_or_file h with hdirectory | ⟨content, hfile⟩
  · exact ⟨_, .directory hdirectory⟩
  · by_cases htext : content.IsValidUTF8
    · cases hdoc : decodeText (SettingsDocument.ofDoc Doc.maxDepth) content.toList with
      | error fault => exact ⟨_, .malformed hfile htext hdoc⟩
      | ok doc => exact ⟨_, .document hfile htext hdoc⟩
    · exact ⟨_, .notUtf8 hfile htext⟩

/-- What cannot be read although a path leads to it is a directory. -/
theorem directory_of_read {path : String} (h : s.leads path = true)
    (hread : s.read path = .error .isDirectory) :
    s.files.resolve s.directory path = .ok .directory := by
  rcases directory_or_file h with hdirectory | ⟨content, hfile⟩
  · exact hdirectory
  · cases hread.symm.trans hfile

/-- **What is read where a path leads somewhere is what comes of the file.** -/
theorem yields_iff_read {path : String} (h : s.leads path = true)
    {r : Except LoadError SettingsDocument} :
    s.Yields path r ↔ SettingsDocument.read s path = r := by
  refine ⟨read_of_yields, ?_⟩
  rintro rfl
  obtain ⟨r, hr⟩ := exists_yields h
  rwa [read_of_yields hr]

/-! ### One file after the other -/

/-- How far settings files are loaded one after the other: the documents that come of them, and the
error of the first file of which none comes. No file after that one counts. -/
inductive Loads (s : Surroundings) :
    List String → List SettingsDocument → Option LoadError → Prop where
  | done : Loads s [] [] none
  | failed {path : String} {e : LoadError} (h : s.Yields path (.error e)) (paths : List String) :
      Loads s (path :: paths) [] (some e)
  | loaded {path : String} {doc : SettingsDocument} {paths : List String}
      {docs : List SettingsDocument} {e : Option LoadError} (h : s.Yields path (.ok doc))
      (hs : Loads s paths docs e) : Loads s (path :: paths) (doc :: docs) e

theorem exists_loads {paths : List String} (h : ∀ path ∈ paths, s.leads path = true) :
    ∃ docs e, s.Loads paths docs e := by
  induction paths with
  | nil => exact ⟨_, _, .done⟩
  | cons path paths ih =>
    obtain ⟨hpath, hpaths⟩ := List.forall_mem_cons.mp h
    obtain ⟨r, hr⟩ := exists_yields hpath
    cases r with
    | error e => exact ⟨_, _, .failed hr paths⟩
    | ok doc =>
      obtain ⟨docs, e, hs⟩ := ih hpaths
      exact ⟨_, _, .loaded hr hs⟩

theorem OverlayAt.leads {named overlay : Option String} (h : s.OverlayAt named overlay)
    {path : String} (hpath : overlay = some path) : s.leads path = true := by
  cases h with
  | named h => exact Option.some.inj hpath ▸ h
  | inDirectory h => exact Option.some.inj hpath ▸ h
  | nowhere _ => nomatch hpath

/-- Both files lead somewhere, since they are only loaded if they do. -/
theorem OverlayAt.leads_of_mem {named overlay : Option String} (h : s.OverlayAt named overlay) :
    ∀ path ∈ s.profile.toList ++ overlay.toList, s.leads path = true := by
  intro path hpath
  rcases List.mem_append.mp hpath with hpath | hpath
  · exact (Option.mem_filter_iff.mp (Option.mem_toList.mp hpath)).2
  · exact h.leads (Option.mem_toList.mp hpath)

end Surroundings

namespace SettingsDocument

variable {s : Surroundings}

theorem warning_toList (doc : SettingsDocument) :
    doc.warning.toList = [doc.unknown].filter (· ≠ []) := by
  rw [warning]
  cases doc.unknown <;> rfl

/-- **Files are read one after the other until one is wrong**, and those before it warn. -/
theorem readAll_of_loads {paths : List String} {docs : List SettingsDocument}
    {e : Option LoadError} (h : s.Loads paths docs e) :
    readAll s paths = ((docs.map unknown).filter (· ≠ []),
      e.elim (.ok (docs.map layer)) .error) := by
  induction h with
  | done => rfl
  | failed h paths =>
    rw [readAll, Surroundings.read_of_yields h]
    rfl
  | @loaded path doc paths docs e h _ ih =>
    rw [readAll, Surroundings.read_of_yields h, ih]
    dsimp only
    rw [warning_toList, ← List.filter_append]
    cases e <;> rfl

end SettingsDocument

/-! ### Members that a file should not have -/

/-- The names of the members of an object, in their order. -/
def Json.Doc.memberNames : Doc → List String
  | .object ms _ => Doc.names ms
  | _ => []

/-- Of some members of a settings file, all names but those of the sections are listed, each once
and in the order in which they come first. -/
structure SettingsDocument.ListsUnknown (unknown names : List String) : Prop where
  mem_iff (name : String) : name ∈ unknown ↔ name ∈ names ∧ name ≠ "server" ∧ name ≠ "query"
  inOrder : unknown.Pairwise fun a b => names.idxOf a < names.idxOf b

namespace SettingsDocument

/-- The names that are kept for the warning. -/
def unknownLog : Log Members String :=
  ⟨["server", "query"], Members.unknown, fun name _ kept => kept = name⟩

theorem grownBy_unknown (room : Nat) : unknownLog.GrownBy (Members.read room) where
  own {m m' name d} hname h := by
    unfold Members.read at h
    split at h
    · obtain ⟨_, -, h⟩ := bind_eq_ok_iff.mp h
      cases h
      rfl
    · obtain ⟨_, -, h⟩ := bind_eq_ok_iff.mp h
      cases h
      rfl
    · next hserver hquery =>
      rcases List.mem_pair.mp hname with rfl | rfl
      · exact absurd rfl hserver
      · exact absurd rfl hquery
  other {m m' name d} hname h := by
    unfold Members.read at h
    split at h
    · simp [unknownLog] at hname
    · simp [unknownLog] at hname
    · obtain ⟨_, -, h⟩ := bind_eq_ok_iff.mp h
      cases h
      exact ⟨name, rfl, rfl⟩

/-- **The names that a file warns of.** -/
theorem listsUnknown_of_ofDoc {room : Nat} {d : Doc} {doc : SettingsDocument}
    (h : ofDoc room d = .ok doc) : ListsUnknown doc.unknown d.memberNames := by
  cases d with
  | object ms stop =>
    obtain ⟨m, hm, h⟩ := bind_eq_ok_iff.mp h
    cases h
    have hkept : Forall₂ (fun m kept => ∃ name, m.1.decode = .ok name ∧ kept = name)
        (Doc.others ["server", "query"] ms) m.unknown.reverse :=
      (grownBy_unknown (room - 1)).members rfl hm
    show ListsUnknown m.unknown.reverse.eraseDups _
    rw [Doc.eq_names_of_forall₂ hkept, Doc.names_others]
    refine ⟨fun name => ?_, pairwise_idxOf_eraseDups _ _⟩
    simp [List.mem_eraseDups, Doc.memberNames]
  | _ => exact absurd h Doc.unexpected_ne_ok

end SettingsDocument

namespace Settings

/-- **Loading settings stops at the first file that is wrong.** If the file that an option names is
not there, that is the error and nothing warns. Otherwise the profile and the overlay are loaded in
this order. The first of them that is wrong decides the error; only when none is are the settings in
effect checked. Each file that was loaded before warns of its members that mean nothing, if it has
any. -/
theorem load_in_order (s : Surroundings) (options : Layer) (named : Option String) :
    (∀ p, named = some p → s.leads (s.expand p) = false →
      load s options named = ([], .error (.absent (s.expand p)))) ∧
    (∀ overlay, s.OverlayAt named overlay →
      (∃ docs e, s.Loads (s.profile.toList ++ overlay.toList) docs e) ∧
      ∀ docs e, s.Loads (s.profile.toList ++ overlay.toList) docs e →
        (load s options named).1 = (docs.map SettingsDocument.unknown).filter (· ≠ []) ∧
        (load s options named).2 = match e with
          | some e => .error e
          | none => (options.onTop (docs.foldl (fun lower doc => doc.layer.onTop lower)
              .empty)).settings.mapError .refused) ∧
    ∀ path doc, s.Yields path (.ok doc) → ∃ content, s.read path = .ok content ∧
      SettingsDocument.ListsUnknown doc.unknown
        (Document.ofOctets content.toList).root.memberNames := by
  refine ⟨?_, fun overlay hoverlay => ⟨?_, fun docs e h => ?_⟩, ?_⟩
  · rintro p rfl h
    simp [load, Surroundings.overlay, h]
  · exact Surroundings.exists_loads hoverlay.leads_of_mem
  · rw [load, hoverlay.overlay_eq]
    dsimp only
    rw [SettingsDocument.readAll_of_loads h]
    refine ⟨rfl, ?_⟩
    cases e with
    | some e => rfl
    | none =>
      show (options.onTop ((docs.map SettingsDocument.layer).foldl _ _)).settings.mapError _ = _
      rw [List.foldl_map]
  · rintro path doc (_ | _ | _ | ⟨hfile, -, h⟩)
    exact ⟨_, hfile, SettingsDocument.listsUnknown_of_ofDoc (decodeText_eq_ok_iff.mp h).1⟩

/-- A profile with members that mean nothing, one of them twice, below a directory. -/
theorem load_of_directory_over_profile :
    let profile := objectText [("z", stringText ""), ("server", objectText []), ("y", listText []),
      ("z", listText [])]
    let s : Surroundings := ⟨⟨[(["home", ".labelsql", "labelsql.json"], .file profile.toUTF8),
      (["work", "other.json"], .directory)]⟩, some "/home", "/work"⟩
    load s {} (some "other.json") =
        ([["z", "y"]], .error (.unreadable "/work/other.json" (.file .isDirectory))) ∧
      load s {} (some "none.json") = ([], .error (.absent "/work/none.json")) := by
  intro profile s
  have hpath : s.profile = some "/home/.labelsql/labelsql.json" := by decide +kernel
  have hexpand : s.expand "other.json" = "/work/other.json" := by decide +kernel
  have hexpandNone : s.expand "none.json" = "/work/none.json" := by decide +kernel
  have hoverlay : s.OverlayAt (some "other.json") (some "/work/other.json") :=
    hexpand ▸ .named (by decide +kernel)
  have hspells : Spells (octets profile) (.object [(.written "z", .string (.written "")),
      (.written "server", .object [] none), (.written "y", .list [] none),
      (.written "z", .list [] none)] none) :=
    .objectText <| .cons ⟨rfl, Json.spells_stringText ""⟩ <| .cons ⟨rfl, .objectText .nil⟩ <|
      .cons ⟨rfl, .listText .nil⟩ (.cons ⟨rfl, .listText .nil⟩ .nil)
  have hdocument : decodeText (SettingsDocument.ofDoc Doc.maxDepth) profile.toUTF8.toList =
      .ok ⟨.empty, ["z", "y"]⟩ := by
    rw [Json.toList_toUTF8, decodeText_of_spells hspells]
    decide +kernel
  have hprofile : s.Yields "/home/.labelsql/labelsql.json" (.ok ⟨.empty, ["z", "y"]⟩) :=
    .document (by decide +kernel) profile.isValidUTF8 hdocument
  have hdirectory : s.files.resolve s.directory "/work/other.json" = .ok .directory :=
    Surroundings.directory_of_read (by decide +kernel) (by decide +kernel)
  have hloads : s.Loads (s.profile.toList ++ (some "/work/other.json").toList)
      [⟨.empty, ["z", "y"]⟩] (some (.unreadable "/work/other.json" (.file .isDirectory))) := by
    rw [hpath]
    exact .loaded hprofile (.failed (.directory hdirectory) [])
  have hload := ((load_in_order s {} (some "other.json")).2.1 _ hoverlay).2 _ _ hloads
  refine ⟨Prod.ext hload.1 hload.2, ?_⟩
  exact hexpandNone ▸ (load_in_order s {} (some "none.json")).1 _ rfl (by decide +kernel)

end Settings

end LabelFilter
