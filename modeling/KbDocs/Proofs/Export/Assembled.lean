/-
Which elements the objects of a document come from.

A document lists objects in groups, and an object counts by where its
element stands: within a group directly below the root, under the name
and the kind identifier in its attributes. `Listed` says so by place, and
`Keeps` which of the listed objects are documented: all those that no
earlier one shares its key with, in document order. Both speak of the
tree alone. There is only one list of objects that a document keeps
(`Keeps.unique`), and assembling is resolving that list.

# The walk by places

The candidates of a document are its listed objects without their places
(`map_candidate_listings`). Since places increase along the list, that a
candidate is the first of its key is the same as that no listed object at
a smaller place has its key; the induction goes from the end of the list,
where a new last object cannot matter to those before it
(`firsts_map_candidate`).
-/
import KbDocs.Proofs.Export.FirstWins
import KbDocs.Proofs.Xml.DocumentOrder
import Mathlib.Data.List.Induction
import Mathlib.Data.List.Sort

namespace KbDocs.Export

open KbDocs.Xml

-- ====================================================== listed objects

/-- The name and the kind identifier of an object's element. -/
def keyOf (object : Element) : String × String :=
  (object.attributeD "name", object.attributeD "type")

/-- An object in a document: where its element stands, and its kind. -/
structure Listing where
  place : Location
  element : Element
  kind : String

/-- The object that a listing is resolved to. -/
def Listing.resolved (sourceKinds : List String) (l : Listing) : KbObject :=
  resolveObject l.element l.kind sourceKinds

/-- A document lists an object: in a group below the root, under the
identifier of a kind other than that of folders. -/
structure Listed (root : Element) (kinds : KindMap) (l : Listing) : Prop where
  grouped : ∃ i j group, l.place = [i, j] ∧ root.at? [i] = some group ∧ group.tag = "Objects"
  stands : root.at? l.place = some l.element
  tag : l.element.tag = "Object"
  known : kinds.lookup (l.element.attributeD "type") = some l.kind
  not_folder : l.kind ≠ folderKind

/-- The listed objects that a document keeps, in document order and each
once: those whose key no earlier one has. -/
structure Keeps (root : Element) (kinds : KindMap) (ls : List Listing) : Prop where
  ordered : ls.Pairwise (·.place < ·.place)
  complete : ∀ l, l ∈ ls ↔ Listed root kinds l
    ∧ ∀ e, Listed root kinds e → e.place < l.place → keyOf e.element ≠ keyOf l.element

/-- A document keeps one list of objects. -/
theorem Keeps.unique {root : Element} {kinds : KindMap} {ls ls' : List Listing}
    (h : Keeps root kinds ls) (h' : Keeps root kinds ls') : ls = ls' := by
  have : Std.Irrefl fun a b : Listing => a.place < b.place := ⟨fun l => List.lt_irrefl l.place⟩
  have : Std.Antisymm fun a b : Listing => a.place < b.place :=
    ⟨fun a b hab hba => absurd hba (List.lt_asymm hab)⟩
  refine List.Pairwise.eq_of_mem_iff h.ordered h'.ordered fun l => ?_
  rw [h.complete, h'.complete]

/-- No two of them have one key. -/
theorem Keeps.nodup_keys {root : Element} {kinds : KindMap} {ls : List Listing}
    (h : Keeps root kinds ls) : (ls.map fun l => keyOf l.element).Nodup := by
  refine List.pairwise_map.mpr (h.ordered.imp_of_mem ?_)
  intro a b ha hb hlt
  exact ((h.complete b).mp hb).2 a ((h.complete a).mp ha).1 hlt

-- =========================================================== elements

/-- The elements of a document that stand for objects. -/
def objectElements (root : Element) : List Element :=
  (root.childrenNamed "Objects").flatMap (·.childrenNamed "Object")

/-- The candidate that an element is, if its kind is known and not that
of folders. -/
def candidate? (kinds : KindMap) (object : Element) : Option Candidate :=
  match kinds.lookup (object.attributeD "type") with
  | none => none
  | some kind => if kind = folderKind then none else some ⟨object, kind, keyOf object⟩

theorem candidates_eq (root : Element) (kinds : KindMap) :
    candidates root kinds = (objectElements root).filterMap (candidate? kinds) := rfl

theorem candidate?_eq_some_iff {kinds : KindMap} {object : Element} {c : Candidate} :
    candidate? kinds object = some c
      ↔ kinds.lookup (object.attributeD "type") = some c.kind ∧ c.kind ≠ folderKind
        ∧ c = ⟨object, c.kind, keyOf object⟩ := by
  unfold candidate?
  cases kinds.lookup (object.attributeD "type") with
  | none => simp
  | some kind =>
      dsimp only
      split
      case isTrue hfolder =>
        constructor
        · intro h
          cases h
        · intro ⟨hlookup, hkind, _⟩
          rw [← Option.some.inj hlookup] at hkind
          exact absurd hfolder hkind
      case isFalse hkind =>
        constructor
        · intro h
          cases h
          exact ⟨rfl, hkind, rfl⟩
        · intro ⟨hlookup, _, hc⟩
          rw [hc, Option.some.inj hlookup]

-- ============================================================= places

/-- The places of the elements that stand for objects. -/
def objectPlaces (root : Element) : List Location :=
  (childPlaces root "Objects" []).flatMap (childPlaces root "Object")

theorem mem_objectPlaces {root : Element} {p : Location} :
    p ∈ objectPlaces root
      ↔ ∃ i j group d, p = [i, j] ∧ root.at? [i] = some group ∧ group.tag = "Objects"
        ∧ root.at? p = some d ∧ d.tag = "Object" := by
  unfold objectPlaces
  rw [List.mem_flatMap]
  constructor
  · intro ⟨q, hq, hp⟩
    obtain ⟨i, group, hqi, hgroup, htag⟩ :=
      (mem_childPlaces root (by decide) (by decide)).mp hq
    obtain ⟨j, d, hpj, hd, hobject⟩ := (mem_childPlaces root (by decide) (by decide)).mp hp
    rw [List.nil_append] at hqi
    subst hqi
    exact ⟨i, j, group, d, hpj, hgroup, htag, hd, hobject⟩
  · intro ⟨i, j, group, d, hp, hgroup, htag, hd, hobject⟩
    refine ⟨[i], ?_, ?_⟩
    · exact (mem_childPlaces root (by decide) (by decide)).mpr ⟨i, group, rfl, hgroup, htag⟩
    · exact (mem_childPlaces root (by decide) (by decide)).mpr ⟨j, d, hp, hd, hobject⟩

theorem pairwise_objectPlaces (root : Element) : (objectPlaces root).Pairwise (· < ·) := by
  unfold objectPlaces
  rw [List.pairwise_flatMap]
  refine ⟨fun p _ => pairwise_childPlaces root "Object" p, ?_⟩
  refine (pairwise_childPlaces root "Objects" []).imp_of_mem ?_
  intro p q hp hq hlt a ha b hb
  obtain ⟨i, -, rfl, -⟩ := (mem_childPlaces root (by decide) (by decide)).mp hp
  obtain ⟨j, -, rfl, -⟩ := (mem_childPlaces root (by decide) (by decide)).mp hq
  obtain ⟨k, -, rfl, -⟩ := (mem_childPlaces root (by decide) (by decide)).mp ha
  obtain ⟨l, -, rfl, -⟩ := (mem_childPlaces root (by decide) (by decide)).mp hb
  -- the groups are told apart by the first number already
  rcases List.cons_lt_cons_iff.mp (show [i] < [j] from hlt) with hij | ⟨-, hnil⟩
  · exact List.cons_lt_cons_iff.mpr (Or.inl hij)
  · exact absurd hnil (List.not_lt_nil [])

theorem filterMap_objectPlaces (root : Element) :
    (objectPlaces root).filterMap root.at? = objectElements root :=
  filterMap_groupedPlaces root (by decide) (by decide) (by decide) (by decide)

/-- The path of the format leads to these elements. -/
theorem findAll_objects (root : Element) :
    root.findAll "Objects/Object" = .ok (objectElements root) :=
  findAll_grouped root (by decide) (by decide) (by decide) (by decide) rfl

-- ================================================= the walk by places

/-- A listed object without its place. -/
def Listing.candidate (l : Listing) : Candidate :=
  ⟨l.element, l.kind, keyOf l.element⟩

/-- The object that stands at a place, if its kind is known and not that
of folders. -/
def listingAt? (root : Element) (kinds : KindMap) (p : Location) : Option Listing :=
  ((root.at? p).bind (candidate? kinds)).map fun c => ⟨p, c.element, c.kind⟩

/-- The listed objects of a document. -/
def listings (root : Element) (kinds : KindMap) : List Listing :=
  (objectPlaces root).filterMap (listingAt? root kinds)

section Walk

variable {root : Element} {kinds : KindMap}

theorem listingAt?_eq_some_iff {p : Location} {l : Listing} :
    listingAt? root kinds p = some l
      ↔ l.place = p ∧ root.at? p = some l.element
        ∧ kinds.lookup (l.element.attributeD "type") = some l.kind ∧ l.kind ≠ folderKind := by
  unfold listingAt?
  rw [Option.map_eq_some_iff]
  constructor
  · intro ⟨c, hc, hl⟩
    obtain ⟨object, hobject, hc⟩ := Option.bind_eq_some_iff.mp hc
    obtain ⟨hkind, hfolder, hc⟩ := candidate?_eq_some_iff.mp hc
    rw [hc] at hl
    subst hl
    exact ⟨rfl, hobject, hkind, hfolder⟩
  · intro ⟨hp, hat, hkind, hfolder⟩
    refine ⟨l.candidate, ?_, by rw [← hp]; rfl⟩
    rw [hat]
    exact candidate?_eq_some_iff.mpr ⟨hkind, hfolder, rfl⟩

theorem mem_listings {l : Listing} : l ∈ listings root kinds ↔ Listed root kinds l := by
  unfold listings
  rw [List.mem_filterMap]
  constructor
  · intro ⟨p, hp, hl⟩
    obtain ⟨rfl, hat, hkind, hfolder⟩ := listingAt?_eq_some_iff.mp hl
    obtain ⟨i, j, group, d, hplace, hgroup, htag, hd, hobject⟩ := mem_objectPlaces.mp hp
    rw [hat] at hd
    cases hd
    exact ⟨⟨i, j, group, hplace, hgroup, htag⟩, hat, hobject, hkind, hfolder⟩
  · intro h
    obtain ⟨i, j, group, hplace, hgroup, htag⟩ := h.grouped
    refine ⟨l.place, ?_, listingAt?_eq_some_iff.mpr ⟨rfl, h.stands, h.known, h.not_folder⟩⟩
    exact mem_objectPlaces.mpr ⟨i, j, group, l.element, hplace, hgroup, htag, h.stands, h.tag⟩

theorem pairwise_listings (root : Element) (kinds : KindMap) :
    (listings root kinds).Pairwise (·.place < ·.place) := by
  refine List.Pairwise.filterMap _ ?_ (pairwise_objectPlaces root)
  intro p q hlt l hl m hm
  rw [(listingAt?_eq_some_iff.mp hl).1, (listingAt?_eq_some_iff.mp hm).1]
  exact hlt

/-- The candidates of a document are its listed objects. -/
theorem map_candidate_listings (root : Element) (kinds : KindMap) :
    (listings root kinds).map Listing.candidate = candidates root kinds := by
  unfold listings
  rw [candidates_eq, ← filterMap_objectPlaces, List.filterMap_filterMap, List.map_filterMap]
  refine List.filterMap_congr fun p _ => ?_
  cases hobject : root.at? p with
  | none => simp [listingAt?, hobject]
  | some object =>
      cases hc : candidate? kinds object with
      | none => simp [listingAt?, hobject, hc]
      | some c =>
          obtain ⟨-, -, hc'⟩ := candidate?_eq_some_iff.mp hc
          have hlisting : listingAt? root kinds p = some ⟨p, c.element, c.kind⟩ := by
            simp [listingAt?, hobject, hc]
          rw [hlisting, Option.bind_some, hc, hc']
          rfl

end Walk

/-- No object of a list at a smaller place has the key of this one. -/
def Fresh (ls : List Listing) (l : Listing) : Prop :=
  ∀ e ∈ ls, e.place < l.place → keyOf e.element ≠ keyOf l.element

instance (ls : List Listing) : DecidablePred (Fresh ls) :=
  fun l => inferInstanceAs
    (Decidable (∀ e ∈ ls, e.place < l.place → keyOf e.element ≠ keyOf l.element))

/-- An object that stands behind another is nothing to it. -/
theorem fresh_concat_of_lt {ls : List Listing} {l x : Listing} (h : x.place < l.place) :
    Fresh (ls ++ [l]) x ↔ Fresh ls x := by
  unfold Fresh
  rw [List.forall_mem_append]
  have hnot : ¬ l.place < x.place := List.lt_asymm h
  simp [hnot]

/-- The last object is fresh if none of the others has its key. -/
theorem fresh_concat_last {ls : List Listing} {l : Listing} (h : ∀ x ∈ ls, x.place < l.place) :
    Fresh (ls ++ [l]) l ↔ l.candidate.key ∉ (ls.map Listing.candidate).map (·.key) := by
  rw [List.map_map]
  constructor
  · intro hnew hmem
    obtain ⟨e, he, hkey⟩ := List.mem_map.mp hmem
    exact hnew e (List.mem_append_left _ he) (h e he) hkey
  · intro hnew e he hlt hkey
    rcases List.mem_append.mp he with he | he
    · exact hnew (List.mem_map.mpr ⟨e, he, hkey⟩)
    · rw [List.mem_singleton.mp he] at hlt
      exact List.lt_irrefl _ hlt

/-- Among listed objects in order, the first of each key are the fresh
ones. -/
theorem firsts_map_candidate {ls : List Listing} (h : ls.Pairwise (·.place < ·.place)) :
    firsts (ls.map Listing.candidate) = (ls.filter (Fresh ls)).map Listing.candidate := by
  induction ls using List.reverseRecOn with
  | nil => rfl
  | append_singleton ls l ih =>
      obtain ⟨hls, -, hlast⟩ := List.pairwise_append.mp h
      have hbefore : ∀ x ∈ ls, x.place < l.place := fun x hx =>
        hlast x hx l (List.mem_singleton.mpr rfl)
      have hfront : ls.filter (Fresh (ls ++ [l])) = ls.filter (Fresh ls) := by
        refine List.filter_congr fun x hx => ?_
        rw [decide_eq_decide]
        exact fresh_concat_of_lt (hbefore x hx)
      have hsingle : firsts [l.candidate] = [l.candidate] := rfl
      rw [List.map_append, List.map_singleton, firsts_append, ih hls, List.filter_append, hfront,
        List.map_append, hsingle]
      congr 1
      rw [List.filter_singleton, List.filter_singleton,
        decide_eq_decide.mpr (fresh_concat_last hbefore)]
      cases decide (l.candidate.key ∉ (ls.map Listing.candidate).map (·.key)) <;> rfl

/-- The listed objects that a document keeps. -/
def kept (root : Element) (kinds : KindMap) : List Listing :=
  (listings root kinds).filter (Fresh (listings root kinds))

theorem keeps_kept (root : Element) (kinds : KindMap) : Keeps root kinds (kept root kinds) := by
  refine ⟨(pairwise_listings root kinds).filter _, fun l => ?_⟩
  unfold kept
  rw [List.mem_filter, decide_eq_true_eq]
  simp only [Fresh, mem_listings]

theorem map_candidate_kept (root : Element) (kinds : KindMap) :
    (kept root kinds).map Listing.candidate = firsts (candidates root kinds) := by
  rw [← map_candidate_listings, firsts_map_candidate (pairwise_listings root kinds)]
  rfl

theorem mem_keys_kept {root : Element} {kinds : KindMap} {key : String × String} :
    key ∈ (kept root kinds).map (fun l => keyOf l.element)
      ↔ key ∈ (candidates root kinds).map (·.key) := by
  rw [← mem_keys_firsts, ← map_candidate_kept, List.map_map]
  rfl

/-- Assembling is resolving what a document keeps. -/
theorem assemble_eq_map_kept (root : Element) (kinds : KindMap) (sourceKinds : List String) :
    assemble root kinds sourceKinds = (kept root kinds).map (Listing.resolved sourceKinds) := by
  unfold assemble
  rw [← map_candidate_kept, List.map_map]
  rfl

-- ===================================================== two documents

/-- Which objects are documented, and of which kind, depends on their
keys. -/
theorem candidate?_congr {kinds : KindMap} {object other : Element}
    (h : keyOf other = keyOf object) :
    candidate? kinds other
      = (candidate? kinds object).map fun c => ⟨other, c.kind, c.key⟩ := by
  have htype : other.attributeD "type" = object.attributeD "type" := congrArg Prod.snd h
  unfold candidate?
  rw [htype]
  cases kinds.lookup (object.attributeD "type") with
  | none => rfl
  | some kind =>
      dsimp only
      split
      · rfl
      · rw [h]
        rfl

/-- A candidate is kept or left out for its key alone, and so are those
behind it. -/
theorem firsts_replace (before after : List Candidate) (key : String × String) :
    ∃ (front back : List Candidate) (stays : Bool), ∀ c : Candidate, c.key = key →
      firsts (before ++ c :: after) = front ++ (if stays then [c] else []) ++ back := by
  refine ⟨firsts before, (firsts after).filter (·.key ∉ before.map (·.key) ++ [key]),
    decide (key ∉ before.map (·.key)), fun c hc => ?_⟩
  have hsingle : firsts [c] = [c] := rfl
  rw [List.append_cons, firsts_append, firsts_append, hsingle, List.map_append,
    List.map_singleton, List.filter_cons, List.filter_nil, hc]

/-- Objects are resolved on their own: another element with the same key
gives another object in the same place, and all else is as it was. -/
theorem assemble_replace {root other : Element} {before after : List Element}
    {object object' : Element} (hroot : objectElements root = before ++ object :: after)
    (hother : objectElements other = before ++ object' :: after)
    (hkey : keyOf object' = keyOf object) (kinds : KindMap) (sourceKinds : List String) :
    ∃ (front back : List KbObject) (kind? : Option String),
      assemble root kinds sourceKinds
        = front ++ kind?.toList.map (resolveObject object · sourceKinds) ++ back
      ∧ assemble other kinds sourceKinds
        = front ++ kind?.toList.map (resolveObject object' · sourceKinds) ++ back := by
  unfold assemble
  rw [candidates_eq, candidates_eq, hroot, hother, List.filterMap_append, List.filterMap_append,
    List.filterMap_cons, List.filterMap_cons, candidate?_congr hkey]
  cases hc : candidate? kinds object with
  | none =>
      -- neither of the two elements stands for a documented object
      refine ⟨(firsts (before.filterMap (candidate? kinds)
        ++ after.filterMap (candidate? kinds))).map
          fun c => resolveObject c.element c.kind sourceKinds, [], none, ?_, ?_⟩
      · simp
      · simp
  | some c =>
      obtain ⟨-, -, hc'⟩ := candidate?_eq_some_iff.mp hc
      obtain ⟨front, back, stays, hfirsts⟩ := firsts_replace
        (before.filterMap (candidate? kinds)) (after.filterMap (candidate? kinds)) c.key
      dsimp only [Option.map_some]
      rw [hfirsts c rfl, hfirsts ⟨object', c.kind, c.key⟩ rfl]
      refine ⟨front.map fun c => resolveObject c.element c.kind sourceKinds,
        back.map fun c => resolveObject c.element c.kind sourceKinds,
        if stays then some c.kind else none, ?_, ?_⟩
      · rw [List.map_append, List.map_append, hc']
        cases stays <;> rfl
      · rw [List.map_append, List.map_append]
        cases stays <;> rfl

/-- The objects of a document that lists those of two others one after
another. -/
theorem assemble_append {root a b : Element} {as bs : List Listing} {kinds : KindMap}
    (hroot : objectElements root = objectElements a ++ objectElements b)
    (ha : Keeps a kinds as) (hb : Keeps b kinds bs) (sourceKinds : List String) :
    assemble root kinds sourceKinds
      = assemble a kinds sourceKinds
        ++ (bs.filter fun l => keyOf l.element ∉ as.map fun l => keyOf l.element).map
          (Listing.resolved sourceKinds) := by
  have hcandidates : candidates root kinds = candidates a kinds ++ candidates b kinds := by
    rw [candidates_eq, hroot, List.filterMap_append]
    rfl
  have hfilter : ((kept b kinds).map Listing.candidate).filter
        (·.key ∉ (candidates a kinds).map (·.key))
      = ((kept b kinds).filter fun l =>
          keyOf l.element ∉ (kept a kinds).map fun l => keyOf l.element).map
        Listing.candidate := by
    rw [List.filter_map]
    congr 1
    refine List.filter_congr fun l _ => ?_
    rw [Function.comp_apply, decide_eq_decide, mem_keys_kept]
    rfl
  obtain rfl := ha.unique (keeps_kept a kinds)
  obtain rfl := hb.unique (keeps_kept b kinds)
  unfold assemble
  rw [hcandidates, firsts_append, List.map_append, ← map_candidate_kept b, hfilter, List.map_map]
  rfl

/-- A document is assembled from the objects that it keeps: of those that
it lists under known kinds other than folders, the ones whose name and
kind identifier no earlier one has, in document order. Their keys are
distinct; each is resolved from its own element, so that another element
with the same key changes nothing but its own object; and objects listed
behind those of another document add what has a new key. -/
theorem assemble_keeps (root : Element) (kinds : KindMap) (sourceKinds : List String) :
    root.findAll "Objects/Object" = .ok (objectElements root)
    ∧ (∃ ls, Keeps root kinds ls ∧ (ls.map fun l => keyOf l.element).Nodup
      ∧ assemble root kinds sourceKinds = ls.map (Listing.resolved sourceKinds))
    ∧ (∀ other before object object' after,
      objectElements root = before ++ object :: after →
      objectElements other = before ++ object' :: after → keyOf object' = keyOf object →
      ∃ (front back : List KbObject) (kind? : Option String),
        assemble root kinds sourceKinds
          = front ++ kind?.toList.map (resolveObject object · sourceKinds) ++ back
        ∧ assemble other kinds sourceKinds
          = front ++ kind?.toList.map (resolveObject object' · sourceKinds) ++ back)
    ∧ ∀ a b as bs, objectElements root = objectElements a ++ objectElements b →
      Keeps a kinds as → Keeps b kinds bs →
      assemble root kinds sourceKinds
        = assemble a kinds sourceKinds
          ++ (bs.filter fun l => keyOf l.element ∉ as.map fun l => keyOf l.element).map
            (Listing.resolved sourceKinds) := by
  refine ⟨findAll_objects root, ?_, ?_, ?_⟩
  · exact ⟨kept root kinds, keeps_kept root kinds, (keeps_kept root kinds).nodup_keys,
      assemble_eq_map_kept root kinds sourceKinds⟩
  · intro other before object object' after hroot hother hkey
    exact assemble_replace hroot hother hkey kinds sourceKinds
  · intro a b as bs hroot ha hb
    exact assemble_append hroot ha hb sourceKinds

-- ========================================================= a document

/-- An object's element with a name and a kind identifier. -/
def objectElement (name id : String) : Element :=
  .node "Object" [("name", name), ("type", id)] "" [] ""

/-- A document with one group of objects. -/
def groupDocument (objects : List Element) : Element :=
  .node "E" [] "" [.node "Objects" [] "" objects ""] ""

/-- Two documents that share an object, listed in two groups of a third:
a folder, an unknown kind and what repeats a key are left out, also where
the key is padded, and an object of another kind under a known name is
not. -/
theorem assemble_keeps_groups :
    (assemble
        (.node "E" [] ""
          [.node "Objects" [] "" [objectElement "P" "1", objectElement " P" "1 ",
              objectElement "D" "3", objectElement "Q" "4"] "",
            .node "Objects" [] "" [objectElement "P" "2", objectElement "P" "1",
              objectElement "" "2"] ""] "")
        [("1", "Task"), ("2", "Page"), ("3", folderKind)] []).map (fun o => (o.path, o.kind))
      = [("P", "Task")] ++ [("P", "Page"), ("", "Page")] := by
  have hb := keeps_kept
    (groupDocument [objectElement "P" "2", objectElement "P" "1", objectElement "" "2"])
    [("1", "Task"), ("2", "Page"), ("3", folderKind)]
  have ha := keeps_kept
    (groupDocument [objectElement "P" "1", objectElement " P" "1 ", objectElement "D" "3",
      objectElement "Q" "4"])
    [("1", "Task"), ("2", "Page"), ("3", folderKind)]
  rw [(assemble_keeps _ _ []).2.2.2 _ _ _ _ rfl ha hb, List.map_append]
  decide +kernel

end KbDocs.Export
