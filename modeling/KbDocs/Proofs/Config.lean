/-
What the settings of a run are made of.

A file that holds a section of settings is read setting by setting, and
what is read are texts: the text under one name, the texts of a mapping's
entries, the texts of a list's items (`Section.directoryText`, `kindTexts`,
`sourceKindTexts`). If all of them exist, then each setting depends on its
own texts alone (`OwnTexts`) and is what they say (`AsConfigured`); of
several entries whose keys have one text the last one counts. If some text
does not exist, all settings are the usual ones.

`FallsBack` says that a setting which is missing, or nothing, or of another
shape than it should have, is the usual one. That is so for the kinds and
for the kinds with source code. It is not for the directory: nothing and
collections have texts too, and none of these is the usual directory
(`text?_ne_usual`). `fallsBack_iff_scalar`: the settings of a file fall back
exactly if the directory is missing or a scalar.

What a loader makes of a file and how it writes values is up to the loader;
all that counts is that nothing and collections are not written like paths
(`Loader.Spells`).
-/
import KbDocs.Config
import Mathlib.Data.List.Basic

namespace KbDocs

open Export Files Yaml

-- =============================================================== kinds

namespace Export.KindMap

theorem lookup_cons_ite (i j kind : String) (kinds : KindMap) :
    List.lookup i ((j, kind) :: kinds) = if i = j then some kind else kinds.lookup i := by
  rw [List.lookup_cons]
  by_cases hi : i = j
  · rw [beq_iff_eq.mpr hi, if_pos hi]
  · rw [beq_eq_false_iff_ne.mpr hi, if_neg hi]

/-- Replacing the kind of an identifier replaces what is found under
it. -/
theorem lookup_replaced (kinds : KindMap) (id kind i : String) :
    (kinds.map fun (j, k) => if j == id then (j, kind) else (j, k)).lookup i
      = if i = id then (kinds.lookup i).map fun _ => kind else kinds.lookup i := by
  induction kinds with
  | nil => simp
  | cons e kinds ih =>
      obtain ⟨j, k⟩ := e
      have hhead : (if j == id then (j, kind) else (j, k))
          = (j, if j = id then kind else k) := by
        by_cases hj : j = id <;> simp [hj]
      rw [List.map_cons]
      dsimp only
      rw [hhead, lookup_cons_ite, lookup_cons_ite, ih]
      by_cases hi : i = j
      · subst hi
        by_cases hid : i = id <;> simp [hid]
      · simp only [if_neg hi]

theorem lookup_insert (kinds : KindMap) (id kind i : String) :
    (kinds.insert id kind).lookup i = if i = id then some kind else kinds.lookup i := by
  rw [KindMap.insert]
  by_cases hknown : kinds.any (·.1 == id) = true
  · rw [if_pos hknown, lookup_replaced]
    by_cases hi : i = id
    · subst hi
      obtain ⟨e, he, hkey⟩ := List.any_eq_true.mp hknown
      have hfound : (kinds.lookup i).isSome := by
        rw [List.lookup_isSome_iff]
        exact ⟨e, he, beq_iff_eq.mpr (beq_iff_eq.mp hkey).symm⟩
      obtain ⟨k, hk⟩ := Option.isSome_iff_exists.mp hfound
      rw [if_pos rfl, if_pos rfl, hk, Option.map_some]
    · rw [if_neg hi, if_neg hi]
  · rw [if_neg hknown, List.lookup_append, lookup_cons_ite]
    by_cases hi : i = id
    · subst hi
      have habsent : kinds.lookup i = none := by
        rw [List.lookup_eq_none_iff]
        intro e he
        rw [bne_iff_ne]
        intro hkey
        exact hknown (List.any_eq_true.mpr ⟨e, he, beq_iff_eq.mpr hkey.symm⟩)
      rw [habsent, if_pos rfl, if_pos rfl, Option.none_or]
    · rw [if_neg hi, if_neg hi, List.lookup_nil, Option.or_none]

/-- Of several kinds for one identifier the last one counts. -/
theorem lookup_foldl_insert (added kinds : KindMap) (i : String) :
    (added.foldl (fun m (id, kind) => m.insert id kind) kinds).lookup i
      = (added.reverse.lookup i).or (kinds.lookup i) := by
  induction added generalizing kinds with
  | nil => rfl
  | cons e added ih =>
      obtain ⟨id, kind⟩ := e
      rw [List.foldl_cons, ih, lookup_insert, List.reverse_cons, List.lookup_append,
        Option.or_assoc, lookup_cons_ite]
      by_cases hi : i = id
      · rw [if_pos hi, if_pos hi, Option.some_or]
      · rw [if_neg hi, if_neg hi, List.lookup_nil, Option.none_or]

end Export.KindMap

-- ============================================================= loaders

namespace Yaml

/-- How a loader writes values that are no scalars: nothing by its name, and
a collection with a bracket at the beginning, or with the name of sets if it
is an empty one. -/
structure Loader.Spells (loader : Loader) : Prop where
  nothing : ∀ d, loader.text? d .null = some "None"
  collection : ∀ d n t, loader.text? d (.collection n) = some t →
    t.toList.head? ∈ [some '[', some '(', some '\x7b', some 's']

/-- The text of a collection begins with a bracket, or is that of the
empty set. -/
theorem head_text?_collection {c : Collection} {inner? : Value → Option String}
    {t : String} (h : c.text? inner? = some t) :
    t.toList.head? ∈ [some '[', some '(', some '\x7b', some 's'] := by
  cases c with
  | list items =>
      obtain ⟨parts, -, h⟩ := Option.bind_eq_some_iff.mp h
      rw [← Option.some.inj h]
      simp [Collection.bracketed]
  | pair a b =>
      obtain ⟨first, -, h⟩ := Option.bind_eq_some_iff.mp h
      obtain ⟨second, -, h⟩ := Option.bind_eq_some_iff.mp h
      rw [← Option.some.inj h]
      simp [Collection.bracketed]
  | set members =>
      cases members with
      | nil =>
          rw [← Option.some.inj h]
          decide
      | cons m members =>
          obtain ⟨parts, -, h⟩ := Option.bind_eq_some_iff.mp h
          rw [← Option.some.inj h]
          simp [Collection.bracketed]
  | map entries =>
      obtain ⟨parts, -, h⟩ := Option.bind_eq_some_iff.mp h
      rw [← Option.some.inj h]
      simp [Collection.bracketed]

/-- A collection that is not inside of itself is written with what it
holds. -/
theorem exists_text?_of_inner? {d : Document} {bound n : Nat} {t : String}
    (h : d.inner? bound [] (.collection n) = some t) :
    ∃ c inner?, Collection.text? inner? c = some t := by
  rw [Document.inner?] at h
  obtain ⟨c, -, h⟩ := Option.bind_eq_some_iff.mp h
  cases bound with
  | zero => cases h
  | succ bound => exact ⟨c, _, h⟩

/-- The loader in use does so. -/
theorem spells_basic : Loader.basic.Spells where
  nothing d := by
    simp [Loader.basic, Document.text?, Document.inner?, Value.scalarText?]
  collection d n t h := by
    obtain ⟨c, inner?, hc⟩ := exists_text?_of_inner? h
    exact head_text?_collection hc

end Yaml

namespace Config

-- =============================================================== texts

/-- The section of settings that a loader finds in the file at a path, if
there is one. -/
def sectionAt? (tree : FileTree) (path : FilePath) (loader : Loader := .basic) :
    Option Section :=
  match tree.look path with
  | .ok (some (.file bytes)) => do
      Section.ofDocument? loader (← loader.load? (← String.fromUTF8? ⟨bytes.toArray⟩))
  | _ => none

namespace Section

/-- The text under the name of the directory, if something is there. -/
def directoryText (s : Section) : Option (Option String) :=
  (s.get? "output_dir").map s.text?

/-- The texts of the entries under the name of the kinds, if a mapping is
there. -/
def kindTexts (s : Section) : Option (List (Option String × Option String)) :=
  (s.mapping? "object_kinds").map (·.map fun e => (s.text? e.1, s.text? e.2))

/-- The texts of the items under the name of the kinds with source code,
if a list is there. -/
def sourceKindTexts (s : Section) : Option (List (Option String)) :=
  (s.list? "source_kinds").map (·.map s.text?)

/-- The last kind given for an identifier. -/
def lastKind? (s : Section) (id : String) : Option String :=
  ((s.kindTexts.getD []).reverse.find? (·.1 == some id)).bind (·.2)

/-- Whether every text that is read exists. -/
structure Readable (s : Section) : Prop where
  directory : ∀ t ∈ s.directoryText, t.isSome
  kinds : ∀ t ∈ s.kindTexts.getD [], t.1.isSome ∧ t.2.isSome
  sourceKinds : ∀ t ∈ s.sourceKindTexts.getD [], t.isSome

instance (s : Section) : Decidable s.Readable :=
  decidable_of_iff
    ((∀ t ∈ s.directoryText, t.isSome)
      ∧ (∀ t ∈ s.kindTexts.getD [], t.1.isSome ∧ t.2.isSome)
      ∧ ∀ t ∈ s.sourceKindTexts.getD [], t.isSome)
    ⟨fun h => ⟨h.1, h.2.1, h.2.2⟩, fun h => ⟨h.1, h.2, h.3⟩⟩

end Section

-- ============================================== settings from texts

section Texts

variable {α β : Type} {f : α → Option β} {xs : List α} {ys : List β}

theorem mapM_eq_some_iff : xs.mapM f = some ys ↔ xs.map f = ys.map some := by
  induction xs generalizing ys with
  | nil => cases ys <;> simp
  | cons x xs ih =>
      rw [List.mapM_cons, List.map_cons]
      constructor
      · intro h
        obtain ⟨y, hy, h⟩ := Option.bind_eq_some_iff.mp h
        obtain ⟨rest, hrest, h⟩ := Option.bind_eq_some_iff.mp h
        obtain rfl : y :: rest = ys := Option.some.inj h
        rw [hy, ih.mp hrest, List.map_cons]
      · intro h
        cases ys with
        | nil => cases h
        | cons y ys =>
            obtain ⟨hy, hrest⟩ := List.cons.inj h
            rw [hy, ih.mpr hrest]
            rfl

theorem isSome_mapM_iff : (xs.mapM f).isSome ↔ ∀ x ∈ xs, (f x).isSome := by
  induction xs with
  | nil => simp
  | cons x xs ih =>
      rw [List.mapM_cons, List.forall_mem_cons, ← ih]
      cases f x <;> cases xs.mapM f <;> simp

end Texts

/-- An identifier and its kind, if both texts exist. -/
def both? (t : Option String × Option String) : Option (String × String) := do
  return (← t.1, ← t.2)

theorem isSome_both?_iff (t : Option String × Option String) :
    (both? t).isSome ↔ t.1.isSome ∧ t.2.isSome := by
  obtain ⟨_ | id, _ | kind⟩ := t <;> simp [both?]

namespace Section

variable (s : Section)

theorem outputDirectory?_eq :
    s.outputDirectory? = s.directoryText.getD (some ({} : Config).outputDirectory) := by
  rw [outputDirectory?, directoryText]
  cases s.get? "output_dir" <;> rfl

theorem kinds?_eq :
    s.kinds? = match s.kindTexts with
      | some texts => (texts.mapM both?).map
          (·.foldl (fun m (id, kind) => m.insert id kind) builtinKinds)
      | none => some builtinKinds := by
  rw [kinds?, kindTexts]
  cases s.mapping? "object_kinds" with
  | none => rfl
  | some entries =>
      rw [Option.map_some]
      dsimp only
      rw [List.mapM_map, Option.map_eq_bind]
      rfl

theorem sourceKinds?_eq :
    s.sourceKinds? = match s.sourceKindTexts with
      | some texts => texts.mapM id
      | none => some builtinSourceKinds := by
  rw [sourceKinds?, sourceKindTexts]
  cases s.list? "source_kinds" with
  | none => rfl
  | some items =>
      rw [Option.map_some]
      dsimp only
      rw [List.mapM_map]
      rfl

end Section

theorem ofSection?_eq_some_iff {s : Section} {config : Config} :
    ofSection? s = some config
      ↔ s.outputDirectory? = some config.outputDirectory ∧ s.kinds? = some config.kinds
        ∧ s.sourceKinds? = some config.sourceKinds := by
  obtain ⟨directory, kinds, sourceKinds⟩ := config
  rw [ofSection?]
  cases s.outputDirectory? <;> cases s.kinds? <;> cases s.sourceKinds? <;> simp

/-- A section gives settings exactly if every text that is read
exists. -/
theorem isSome_ofSection?_iff (s : Section) : (ofSection? s).isSome ↔ s.Readable := by
  have hdirectory : s.outputDirectory?.isSome ↔ ∀ t ∈ s.directoryText, t.isSome := by
    rw [s.outputDirectory?_eq]
    cases s.directoryText <;> simp
  have hkinds : s.kinds?.isSome
      ↔ ∀ t ∈ s.kindTexts.getD [], t.1.isSome ∧ t.2.isSome := by
    rw [s.kinds?_eq]
    cases s.kindTexts with
    | none => simp
    | some texts =>
        simp only [Option.isSome_map, isSome_mapM_iff, isSome_both?_iff, Option.getD_some]
  have hsourceKinds : s.sourceKinds?.isSome
      ↔ ∀ t ∈ s.sourceKindTexts.getD [], t.isSome := by
    rw [s.sourceKinds?_eq]
    cases s.sourceKindTexts with
    | none => simp
    | some texts => simp only [isSome_mapM_iff, id, Option.getD_some]
  have hall : (ofSection? s).isSome
      ↔ s.outputDirectory?.isSome ∧ s.kinds?.isSome ∧ s.sourceKinds?.isSome := by
    rw [ofSection?]
    cases s.outputDirectory? <;> cases s.kinds? <;> cases s.sourceKinds? <;> simp
  rw [hall, hdirectory, hkinds, hsourceKinds]
  exact ⟨fun h => ⟨h.1, h.2.1, h.2.2⟩, fun h => ⟨h.1, h.2, h.3⟩⟩

-- =========================================================== the kinds

/-- Looking for an identifier among texts that exist is looking it up. -/
theorem lookup_eq_find? (kinds : KindMap) (id : String) :
    kinds.lookup id
      = ((kinds.map fun p => (some p.1, some p.2)).find? (·.1 == some id)).bind (·.2) := by
  induction kinds with
  | nil => rfl
  | cons p kinds ih =>
      obtain ⟨j, kind⟩ := p
      rw [KindMap.lookup_cons_ite, List.map_cons, List.find?_cons]
      by_cases hid : id = j
      · simp [hid]
      · have hne : (some j == some id) = false := by simp [Ne.symm hid]
        rw [if_neg hid, ih, hne]

theorem eq_map_of_mapM_both? {texts : List (Option String × Option String)}
    {kinds : KindMap} (h : texts.mapM both? = some kinds) :
    texts = kinds.map fun p => (some p.1, some p.2) := by
  have hmap : texts.map both? = kinds.map some := mapM_eq_some_iff.mp h
  clear h
  induction texts generalizing kinds with
  | nil => cases kinds <;> simp at hmap ⊢
  | cons t texts ih =>
      cases kinds with
      | nil => cases hmap
      | cons p kinds =>
          obtain ⟨hhead, hrest⟩ := List.cons.inj hmap
          obtain ⟨_ | id, _ | kind⟩ := t
          all_goals cases hhead
          rw [List.map_cons, ih hrest]

/-- The kind of every identifier is the last one given for it, or else the
one that is known. -/
theorem lookup_kinds {s : Section} {kinds : KindMap} (h : s.kinds? = some kinds)
    (id : String) :
    kinds.lookup id = (s.lastKind? id).or (builtinKinds.lookup id) := by
  rw [s.kinds?_eq] at h
  rw [Section.lastKind?]
  cases htexts : s.kindTexts with
  | none =>
      rw [htexts] at h
      rw [← Option.some.inj h]
      rfl
  | some texts =>
      rw [htexts] at h
      obtain ⟨added, hadded, rfl⟩ := Option.map_eq_some_iff.mp h
      rw [KindMap.lookup_foldl_insert, lookup_eq_find?, List.map_reverse,
        ← eq_map_of_mapM_both? hadded, Option.getD_some]

-- ============================================== texts of other shapes

/-- Whether a value is a scalar, and not nothing. -/
def isScalar : Value → Bool
  | .null => false
  | .collection _ => false
  | _ => true

theorem eq_null_of_sameKey {v : Value} (h : v.sameKey .null = true) : v = .null := by
  cases v <;> simp [Value.sameKey, Value.number?] at h ⊢

/-- No value but a scalar has the text of the usual directory. -/
theorem text?_ne_usual {loader : Loader} (hloader : loader.Spells) {d : Document} {v : Value}
    (h : isScalar v = false) : loader.text? d v ≠ some ({} : Config).outputDirectory := by
  cases v with
  | null =>
      rw [hloader.nothing]
      decide
  | collection n =>
      intro htext
      exact absurd (hloader.collection d n _ htext) (by decide)
  | _ => cases h

-- ======================================================= a file's settings

/-- Settings that are what a section says about each. -/
structure AsConfigured (s : Section) (config : Config) : Prop where
  directory : ∀ v, s.get? "output_dir" = some v → s.text? v = some config.outputDirectory
  noDirectory : s.get? "output_dir" = none → config.outputDirectory = "./docs"
  kinds : ∀ id, config.kinds.lookup id = (s.lastKind? id).or (builtinKinds.lookup id)
  noKinds : s.mapping? "object_kinds" = none → config.kinds = builtinKinds
  sourceKinds : ∀ items, s.list? "source_kinds" = some items →
    items.map s.text? = config.sourceKinds.map some
  noSourceKinds : s.list? "source_kinds" = none → config.sourceKinds = builtinSourceKinds

/-- Settings of which each is the same in two files if the texts for it
are. -/
structure OwnTexts (s : Section) (config : Config) (s' : Section) (config' : Config) :
    Prop where
  directory : s.directoryText = s'.directoryText →
    config.outputDirectory = config'.outputDirectory
  kinds : s.kindTexts = s'.kindTexts → config.kinds = config'.kinds
  sourceKinds : s.sourceKindTexts = s'.sourceKindTexts →
    config.sourceKinds = config'.sourceKinds

/-- Settings of which each is the usual one where it is missing, nothing,
or of another shape than it should have. -/
structure FallsBack (s : Section) (config : Config) : Prop where
  directory : (∀ v, s.get? "output_dir" = some v → isScalar v = false) →
    config.outputDirectory = "./docs"
  kinds : s.mapping? "object_kinds" = none → config.kinds = builtinKinds
  sourceKinds : s.list? "source_kinds" = none → config.sourceKinds = builtinSourceKinds

section Sections

variable {s s' : Section} {config config' : Config}

theorem asConfigured_of_ofSection? (h : ofSection? s = some config) :
    AsConfigured s config := by
  obtain ⟨hdirectory, hkinds, hsourceKinds⟩ := ofSection?_eq_some_iff.mp h
  refine ⟨?_, ?_, lookup_kinds hkinds, ?_, ?_, ?_⟩
  · intro v hv
    rw [Section.outputDirectory?, hv] at hdirectory
    exact hdirectory
  · intro hnone
    rw [Section.outputDirectory?, hnone] at hdirectory
    exact (Option.some.inj hdirectory).symm
  · intro hnone
    rw [Section.kinds?, hnone] at hkinds
    exact (Option.some.inj hkinds).symm
  · intro items hitems
    rw [Section.sourceKinds?, hitems] at hsourceKinds
    exact mapM_eq_some_iff.mp hsourceKinds
  · intro hnone
    rw [Section.sourceKinds?, hnone] at hsourceKinds
    exact (Option.some.inj hsourceKinds).symm

theorem ownTexts_of_ofSection? (h : ofSection? s = some config)
    (h' : ofSection? s' = some config') : OwnTexts s config s' config' := by
  obtain ⟨hdirectory, hkinds, hsourceKinds⟩ := ofSection?_eq_some_iff.mp h
  obtain ⟨hdirectory', hkinds', hsourceKinds'⟩ := ofSection?_eq_some_iff.mp h'
  refine ⟨?_, ?_, ?_⟩
  · intro htext
    rw [Section.outputDirectory?_eq, htext, ← Section.outputDirectory?_eq, hdirectory']
      at hdirectory
    exact (Option.some.inj hdirectory).symm
  · intro htexts
    rw [Section.kinds?_eq, htexts, ← Section.kinds?_eq, hkinds'] at hkinds
    exact (Option.some.inj hkinds).symm
  · intro htexts
    rw [Section.sourceKinds?_eq, htexts, ← Section.sourceKinds?_eq, hsourceKinds']
      at hsourceKinds
    exact (Option.some.inj hsourceKinds).symm

/-- Where the directory is neither missing nor a scalar, its text is not
the usual directory, and otherwise nothing has to fall back. -/
theorem fallsBack_iff (h : AsConfigured s config)
    (hspells : ∀ v, isScalar v = false → s.text? v ≠ some "./docs") :
    FallsBack s config ↔ ∀ v, s.get? "output_dir" = some v → isScalar v = true := by
  constructor
  · intro hfalls v hv
    by_contra hscalar
    rw [Bool.not_eq_true] at hscalar
    have husual : config.outputDirectory = "./docs" := by
      refine hfalls.directory fun w hw => ?_
      obtain rfl : v = w := Option.some.inj (hv.symm.trans hw)
      exact hscalar
    have htext : s.text? v = some config.outputDirectory := h.directory v hv
    rw [husual] at htext
    exact hspells v hscalar htext
  · intro hscalar
    refine ⟨fun hnone => h.noDirectory ?_, h.noKinds, h.noSourceKinds⟩
    cases hv : s.get? "output_dir" with
    | none => rfl
    | some v =>
        have hfalse : isScalar v = false := hnone v hv
        rw [hscalar v hv] at hfalse
        cases hfalse

theorem load_of_sectionAt? {loader : Loader} {tree : FileTree} {path : FilePath}
    (h : sectionAt? tree path loader = some s) :
    load tree path loader = .ok ((ofSection? s).getD {}) := by
  rw [sectionAt?] at h
  rw [load]
  split at h
  · rename_i bytes hlook
    obtain ⟨text, htext, h⟩ := Option.bind_eq_some_iff.mp h
    obtain ⟨d, hd, h⟩ := Option.bind_eq_some_iff.mp h
    rw [hlook]
    dsimp only
    rw [ofBytes, htext]
    dsimp only
    rw [hd, Option.map_some, Option.getD_some, ofDocument, h, Option.bind_some]
  · cases h

/-- The values of a section are written as the loader writes them. -/
theorem text?_of_sectionAt? {loader : Loader} {tree : FileTree} {path : FilePath}
    (h : sectionAt? tree path loader = some s) : ∃ d, s.text? = loader.text? d := by
  rw [sectionAt?] at h
  split at h
  · obtain ⟨text, -, h⟩ := Option.bind_eq_some_iff.mp h
    obtain ⟨d, -, h⟩ := Option.bind_eq_some_iff.mp h
    obtain ⟨entries, -, h⟩ := Option.bind_eq_some_iff.mp h
    obtain ⟨v, -, h⟩ := Option.bind_eq_some_iff.mp h
    obtain ⟨inner, -, h⟩ := Option.bind_eq_some_iff.mp h
    obtain rfl := Option.some.inj h
    exact ⟨d, rfl⟩
  · cases h

end Sections

/-- A file with a section of settings gives settings. If every text that
is read exists, each of them depends on the texts for it alone and is what
these say, where the last of several kinds for an identifier counts; and
they fall back exactly if the directory is missing or a scalar. If some
text does not exist, they are the usual ones altogether. All this holds
whatever the loader finds in files. -/
theorem fallsBack_iff_scalar {loader : Loader} (hloader : loader.Spells) {tree : FileTree}
    {path : FilePath} {s : Section} (h : sectionAt? tree path loader = some s) :
    ∃ config, load tree path loader = .ok config
      ∧ (¬ s.Readable → config = {})
      ∧ (s.Readable →
          AsConfigured s config
          ∧ (∀ tree' path' s' config', sectionAt? tree' path' loader = some s' → s'.Readable →
              load tree' path' loader = .ok config' → OwnTexts s config s' config')
          ∧ (FallsBack s config
              ↔ ∀ v, s.get? "output_dir" = some v → isScalar v = true)) := by
  refine ⟨(ofSection? s).getD {}, load_of_sectionAt? h, ?_, ?_⟩
  · intro hunreadable
    rw [← isSome_ofSection?_iff, Option.not_isSome_iff_eq_none] at hunreadable
    rw [hunreadable, Option.getD_none]
  · intro hreadable
    obtain ⟨config, hconfig⟩ :=
      Option.isSome_iff_exists.mp ((isSome_ofSection?_iff s).mpr hreadable)
    have hspells : ∀ v, isScalar v = false → s.text? v ≠ some "./docs" := by
      obtain ⟨d, hd⟩ := text?_of_sectionAt? h
      intro v hv
      rw [hd]
      exact text?_ne_usual hloader hv
    rw [hconfig, Option.getD_some]
    refine ⟨asConfigured_of_ofSection? hconfig, ?_,
      fallsBack_iff (asConfigured_of_ofSection? hconfig) hspells⟩
    intro tree' path' s' config' hs' hreadable' hload'
    obtain ⟨other, hother⟩ :=
      Option.isSome_iff_exists.mp ((isSome_ofSection?_iff s').mpr hreadable')
    rw [load_of_sectionAt? hs', hother, Option.getD_some] at hload'
    rw [← Except.ok.inj hload']
    exact ownTexts_of_ofSection? hconfig hother

/-- A directory with nothing in it but settings. -/
def settingsTree (text : String) : FileTree :=
  ⟨[([fileName], .file text.toUTF8.toList)]⟩

/-- The path to the settings. -/
def settingsPath : FilePath :=
  ⟨"", [fileName]⟩

/-- A number as directory, two spellings of one identifier, and no list of
kinds with source code. -/
def sparseSettings : String :=
  "generator:\n  output_dir: 7\n  object_kinds: \x7b1: A, '1': B\x7d\n  source_kinds: Procedure\n"

/-- The same kinds beside other settings. -/
def otherSettings : String :=
  "generator:\n  object_kinds: \x7b0x1: A, '1': B\x7d\n  source_kinds: [Task, 1]\n"

/-- A property of the section in a file, by evaluation. -/
theorem exists_sectionAt? {tree : FileTree} {path : FilePath} {P : Section → Prop}
    [DecidablePred P] (h : (sectionAt? tree path).any (fun s => decide (P s)) = true) :
    ∃ s, sectionAt? tree path = some s ∧ P s := by
  obtain ⟨s, hs, hP⟩ := (Option.any_eq_true _ _).mp h
  exact ⟨s, hs, of_decide_eq_true hP⟩

/-- With a scalar as directory the settings fall back, and another file
with the same kinds has the same kinds. -/
theorem fallsBack_sparse :
    ∃ s config, sectionAt? (settingsTree sparseSettings) settingsPath = some s
      ∧ s.Readable
      ∧ load (settingsTree sparseSettings) settingsPath = .ok config
      ∧ config.outputDirectory = "7"
      ∧ config.kinds.lookup "1" = some "B"
      ∧ config.kinds.lookup procedureId = some procedureKind
      ∧ FallsBack s config
      ∧ ∀ config', load (settingsTree otherSettings) settingsPath = .ok config' →
          config.kinds = config'.kinds := by
  obtain ⟨s, hs, hreadable, hdirectory, hkinds, hscalar⟩ : ∃ s,
      sectionAt? (settingsTree sparseSettings) settingsPath = some s
      ∧ s.Readable ∧ s.directoryText = some (some "7")
      ∧ s.kindTexts = some [(some "1", some "A"), (some "1", some "B")]
      ∧ ∀ v ∈ s.get? "output_dir", isScalar v = true :=
    exists_sectionAt? (by decide +kernel)
  obtain ⟨s', hs', hreadable', hkinds'⟩ : ∃ s',
      sectionAt? (settingsTree otherSettings) settingsPath = some s'
      ∧ s'.Readable ∧ s'.kindTexts = some [(some "1", some "A"), (some "1", some "B")] :=
    exists_sectionAt? (by decide +kernel)
  obtain ⟨config, hload, -, hsettings⟩ := fallsBack_iff_scalar spells_basic hs
  obtain ⟨hconfigured, hown, hfalls⟩ := hsettings hreadable
  refine ⟨s, config, hs, hreadable, hload, ?_, ?_, ?_, hfalls.mpr hscalar, ?_⟩
  · obtain ⟨v, hv, htext⟩ := Option.map_eq_some_iff.mp hdirectory
    exact Option.some.inj ((hconfigured.directory v hv).symm.trans htext)
  · rw [hconfigured.kinds, Section.lastKind?, hkinds]
    decide
  · rw [hconfigured.kinds, Section.lastKind?, hkinds]
    decide
  · intro config' hload'
    exact (hown _ _ s' config' hs' hreadable' hload').kinds (hkinds.trans hkinds'.symm)

/-- With nothing as directory they do not: pages go to a directory that is
called after the text of nothing. -/
theorem not_fallsBack_nothing :
    ∃ s config, sectionAt? (settingsTree "generator:\n  output_dir:\n") settingsPath = some s
      ∧ s.get? "output_dir" = some .null
      ∧ load (settingsTree "generator:\n  output_dir:\n") settingsPath = .ok config
      ∧ config.outputDirectory = "None"
      ∧ ¬ FallsBack s config := by
  obtain ⟨s, hs, hnull, hdirectory⟩ : ∃ s,
      sectionAt? (settingsTree "generator:\n  output_dir:\n") settingsPath = some s
      ∧ (s.get? "output_dir").any (·.sameKey .null) = true
      ∧ (ofSection? s).map (·.outputDirectory) = some "None" :=
    exists_sectionAt? (by decide +kernel)
  obtain ⟨v, hv, hsame⟩ := (Option.any_eq_true _ _).mp hnull
  obtain rfl : v = .null := eq_null_of_sameKey hsame
  obtain ⟨config, hconfig, hnone⟩ := Option.map_eq_some_iff.mp hdirectory
  refine ⟨s, config, hs, hv, ?_, hnone, ?_⟩
  · rw [load_of_sectionAt? hs, hconfig, Option.getD_some]
  · intro hfalls
    have husual : config.outputDirectory = "./docs" := by
      refine hfalls.directory fun w hw => ?_
      obtain rfl : .null = w := Option.some.inj (hv.symm.trans hw)
      rfl
    rw [hnone] at husual
    exact absurd husual (by decide)

end Config

end KbDocs
