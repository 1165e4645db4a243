/-
Document order. An element below another is told by its place, the list
of child numbers that lead to it; equal elements may stand at several
places. Places are compared number by number, and a place comes before
those below it, so document order is the lexicographic order of `<` on
lists.

# The walk

`Element.descendants` and the `//` step of a path walk the tree in two
ways, one by structure and one by places. The places of the walk are
strictly increasing and are all the places there are
(`pairwise_places`, `mem_places`), and the elements at them are the
descendants (`filterMap_places`). So neither walk passes over an element
or meets one twice.

# What is read off it

- `FirstBelow`, `LastBelow`: the first and the last element below
  another of which something holds, in terms of places alone.
- `Traversed`: all the places at which something holds, in order. There
  is one such list only.
- A path that asks for the descendants with a tag, and perhaps with an
  attribute, gives the descendants with that tag and attribute
  (`findAll_tagged`, `findAll_attributed`).
- A step to the children with a tag gives them by place, in order
  (`mem_childPlaces`, `pairwise_childPlaces`). Two such steps lead to the
  children of children, group after group (`findAll_grouped`), and the
  text at one step is that of the first child (`textAt_tag`).
-/
import KbDocs.Xml.Path
import Mathlib.Data.List.Lex
import Mathlib.Data.List.Forall2

namespace KbDocs.Xml

-- ======================================================= single places

theorem Element.at?_cons (e : Element) (i : Nat) (p : Location) :
    e.at? (i :: p) = e.children[i]?.bind (·.at? p) := by
  rw [Element.at?]
  cases e.children[i]? <;> rfl

/-- A place is reached through any place above it. -/
theorem Element.at?_append (e : Element) (p q : Location) :
    e.at? (p ++ q) = (e.at? p).bind (·.at? q) := by
  induction p generalizing e with
  | nil => rfl
  | cons i p ih =>
      rw [List.cons_append, at?_cons, at?_cons]
      cases e.children[i]? with
      | none => rfl
      | some c => exact ih c

/-- The place of a child. -/
theorem Element.at?_child {root e : Element} {place : Location}
    (h : root.at? place = some e) (i : Nat) : root.at? (place ++ [i]) = e.children[i]? := by
  rw [at?_append, h, Option.bind_some, at?_cons]
  cases e.children[i]? <;> rfl

theorem childLocations_of_at? {root e : Element} {place : Location}
    (h : root.at? place = some e) :
    childLocations root place = (List.range e.children.length).map (place ++ [·]) := by
  unfold childLocations
  rw [h]

/-- A child has fewer levels than its parent. -/
theorem Element.depth_child_lt {e c : Element} (h : c ∈ e.children) : c.depth < e.depth := by
  obtain ⟨tag, attributes, text, children, tail⟩ := e
  have hmax : ∀ (l : List Nat) (b : Nat), b ≤ l.foldl max b ∧ ∀ n ∈ l, n ≤ l.foldl max b := by
    intro l
    induction l with
    | nil => simp
    | cons a l ih =>
        intro b
        obtain ⟨hb, hl⟩ := ih (max b a)
        simp only [List.foldl_cons, List.forall_mem_cons]
        exact ⟨by omega, by omega, hl⟩
  have hle := (hmax (children.attach.map fun child => child.1.depth) 0).2 c.depth
    (List.mem_map.mpr ⟨⟨c, h⟩, List.mem_attach _ _, rfl⟩)
  rw [depth]
  exact Nat.lt_one_add_iff.mpr hle

-- ============================================================ the walk

/-- The walk only goes down. -/
theorem exists_of_mem_descendantLocations {root : Element} {depth : Nat} {place p : Location}
    (h : p ∈ descendantLocations root depth place) : ∃ i q, p = place ++ i :: q := by
  induction depth generalizing place with
  | zero => cases h
  | succ depth ih =>
      rw [descendantLocations, List.mem_flatMap] at h
      obtain ⟨child, hchild, hp⟩ := h
      obtain ⟨i, rfl⟩ : ∃ i, child = place ++ [i] := by
        unfold childLocations at hchild
        split at hchild
        · obtain ⟨i, -, rfl⟩ := List.mem_map.mp hchild
          exact ⟨i, rfl⟩
        · cases hchild
      rcases List.mem_cons.mp hp with rfl | hp
      · exact ⟨i, [], rfl⟩
      · obtain ⟨j, q, rfl⟩ := ih hp
        exact ⟨i, j :: q, by simp⟩

/-- The walk meets places in document order, no place twice. -/
theorem pairwise_descendantLocations (root : Element) (depth : Nat) (place : Location) :
    (descendantLocations root depth place).Pairwise (· < ·) := by
  induction depth generalizing place with
  | zero => exact List.Pairwise.nil
  | succ depth ih =>
      rw [descendantLocations, List.pairwise_flatMap]
      refine ⟨fun child _ => List.pairwise_cons.mpr ⟨?_, ih child⟩, ?_⟩
      · intro p hp
        obtain ⟨i, q, rfl⟩ := exists_of_mem_descendantLocations hp
        have hlt : child ++ [] < child ++ i :: q := List.append_left_lt (List.nil_lt_cons i q)
        rwa [List.append_nil] at hlt
      · -- what is below a child begins with the number of the child
        have hbegins : ∀ (i : Nat) (p : Location),
            p ∈ (place ++ [i]) :: descendantLocations root depth (place ++ [i]) →
            ∃ q, p = place ++ i :: q := by
          intro i p hp
          rcases List.mem_cons.mp hp with rfl | hp
          · exact ⟨[], rfl⟩
          · obtain ⟨j, q, rfl⟩ := exists_of_mem_descendantLocations hp
            exact ⟨j :: q, by simp⟩
        unfold childLocations
        split
        · refine List.pairwise_map.mpr (List.pairwise_lt_range.imp ?_)
          intro i j hij p hp q hq
          obtain ⟨p, rfl⟩ := hbegins i p hp
          obtain ⟨q, rfl⟩ := hbegins j q hq
          exact List.append_left_lt (List.cons_lt_cons_iff.mpr (Or.inl hij))
        · exact List.Pairwise.nil

/-- The walk meets all the places below where it starts, if it goes deep
enough. -/
theorem mem_descendantLocations {root e : Element} {depth : Nat} {place p : Location}
    (h : root.at? place = some e) (hdepth : e.depth ≤ depth) :
    p ∈ descendantLocations root depth place
      ↔ ∃ i q d, p = place ++ i :: q ∧ e.at? (i :: q) = some d := by
  induction depth generalizing e place with
  | zero =>
      obtain ⟨tag, attributes, text, children, tail⟩ := e
      rw [Element.depth] at hdepth
      omega
  | succ depth ih =>
      have hchild : ∀ i c, e.children[i]? = some c →
          root.at? (place ++ [i]) = some c ∧ c.depth ≤ depth := by
        intro i c hc
        have := Element.depth_child_lt (List.mem_of_getElem? hc)
        exact ⟨(Element.at?_child h i).trans hc, by omega⟩
      rw [descendantLocations, childLocations_of_at? h, List.flatMap_map, List.mem_flatMap]
      constructor
      · rintro ⟨i, hi, hp⟩
        obtain ⟨c, hc⟩ : ∃ c, e.children[i]? = some c :=
          ⟨_, List.getElem?_eq_getElem (List.mem_range.mp hi)⟩
        obtain ⟨hat, hle⟩ := hchild i c hc
        rcases List.mem_cons.mp hp with rfl | hp
        · exact ⟨i, [], c, rfl, by rw [Element.at?_cons, hc]; rfl⟩
        · obtain ⟨j, q, d, rfl, hd⟩ := (ih hat hle).mp hp
          exact ⟨i, j :: q, d, by simp, by rw [Element.at?_cons, hc]; exact hd⟩
      · rintro ⟨i, q, d, rfl, hd⟩
        rw [Element.at?_cons, Option.bind_eq_some_iff] at hd
        obtain ⟨c, hc, hd⟩ := hd
        obtain ⟨hat, hle⟩ := hchild i c hc
        refine ⟨i, List.mem_range.mpr (List.getElem?_eq_some_iff.mp hc).1, ?_⟩
        cases q with
        | nil => exact List.mem_cons_self
        | cons j q =>
            refine List.mem_cons_of_mem _ ((ih hat hle).mpr ⟨j, q, d, by simp, hd⟩)

/-- A list is read off its positions. -/
private theorem flatMap_positions {α β : Type} (l : List α) (f : α → List β) :
    (List.range l.length).flatMap (fun i => l[i]?.toList.flatMap f) = l.flatMap f := by
  induction l with
  | nil => rfl
  | cons a l ih =>
      rw [List.length_cons, List.range_succ_eq_map, List.flatMap_cons, List.flatMap_map]
      simpa using ih

/-- The elements that the walk meets are the descendants. -/
theorem filterMap_descendantLocations {root e : Element} {depth : Nat} {place : Location}
    (h : root.at? place = some e) (hdepth : e.depth ≤ depth) :
    (descendantLocations root depth place).filterMap root.at? = e.descendants := by
  induction depth generalizing e place with
  | zero =>
      obtain ⟨tag, attributes, text, children, tail⟩ := e
      rw [Element.depth] at hdepth
      omega
  | succ depth ih =>
      have hstep : ∀ i ∈ List.range e.children.length,
          ((place ++ [i]) :: descendantLocations root depth (place ++ [i])).filterMap root.at?
            = (e.children[i]?.toList).flatMap fun c => c :: c.descendants := by
        intro i hi
        obtain ⟨c, hc⟩ : ∃ c, e.children[i]? = some c :=
          ⟨_, List.getElem?_eq_getElem (List.mem_range.mp hi)⟩
        have hat : root.at? (place ++ [i]) = some c := (Element.at?_child h i).trans hc
        have hlt := Element.depth_child_lt (List.mem_of_getElem? hc)
        rw [List.filterMap_cons_some hat, ih hat (by omega), hc]
        simp
      rw [descendantLocations, childLocations_of_at? h, List.flatMap_map, List.filterMap_flatMap,
        List.flatMap_congr hstep, flatMap_positions]
      obtain ⟨tag, attributes, text, children, tail⟩ := e
      exact (Element.descendants_node tag attributes text children tail).symm

namespace Element

/-- The places below an element, in document order. -/
def places (e : Element) : List Location :=
  descendantLocations e e.depth []

theorem mem_places {e : Element} {p : Location} :
    p ∈ e.places ↔ p ≠ [] ∧ ∃ d, e.at? p = some d := by
  rw [places, mem_descendantLocations (show e.at? [] = some e from rfl) (Nat.le_refl _)]
  constructor
  · rintro ⟨i, q, d, rfl, hd⟩
    exact ⟨by simp, d, hd⟩
  · rintro ⟨hne, d, hd⟩
    obtain ⟨i, q, rfl⟩ := List.exists_cons_of_ne_nil hne
    exact ⟨i, q, d, rfl, hd⟩

theorem pairwise_places (e : Element) : e.places.Pairwise (· < ·) :=
  pairwise_descendantLocations e e.depth []

theorem filterMap_places (e : Element) : e.places.filterMap e.at? = e.descendants :=
  filterMap_descendantLocations rfl (Nat.le_refl _)

/-- The descendants stand at the places below. -/
theorem mem_descendants {e d : Element} :
    d ∈ e.descendants ↔ ∃ p, p ≠ [] ∧ e.at? p = some d := by
  rw [← filterMap_places, List.mem_filterMap]
  constructor
  · rintro ⟨p, hp, hd⟩
    exact ⟨p, (mem_places.mp hp).1, hd⟩
  · rintro ⟨p, hne, hd⟩
    exact ⟨p, mem_places.mpr ⟨hne, d, hd⟩, hd⟩

-- ================================================= told by their places

/-- The first element below another, in document order, of which
something holds. -/
def FirstBelow (e : Element) (P : Element → Prop) (d : Element) : Prop :=
  ∃ p, p ≠ [] ∧ e.at? p = some d ∧ P d
    ∧ ∀ q d', q ≠ [] → q < p → e.at? q = some d' → ¬ P d'

/-- The last element below another, in document order, of which something
holds. -/
def LastBelow (e : Element) (P : Element → Prop) (d : Element) : Prop :=
  ∃ p, p ≠ [] ∧ e.at? p = some d ∧ P d
    ∧ ∀ q d', p < q → e.at? q = some d' → ¬ P d'

/-- All the places below an element at which something holds, in document
order and each once. -/
structure Traversed (e : Element) (P : Element → Prop) (places : List Location) : Prop where
  ordered : places.Pairwise (· < ·)
  complete : ∀ p, p ∈ places ↔ p ≠ [] ∧ ∃ d, e.at? p = some d ∧ P d

/-- In a list ordered by a relation, the first value found is found at an
entry before which, by the relation, nothing is found. -/
private theorem findSome?_of_pairwise {α β : Type} {r : α → α → Prop}
    (hr : ∀ a b, r a b → ¬ r b a) {l : List α} (hl : l.Pairwise r) {f : α → Option β} {b : β} :
    l.findSome? f = some b ↔ ∃ a ∈ l, f a = some b ∧ ∀ x ∈ l, r x a → f x = none := by
  constructor
  · intro h
    obtain ⟨l₁, a, l₂, rfl, ha, hbefore⟩ := List.findSome?_eq_some_iff.mp h
    refine ⟨a, by simp, ha, fun x hx hxa => ?_⟩
    obtain ⟨-, hrest, -⟩ := List.pairwise_append.mp hl
    rcases List.mem_append.mp hx with hx | hx
    · exact hbefore x hx
    · rcases List.mem_cons.mp hx with rfl | hx
      · exact absurd hxa (hr x x hxa)
      · exact absurd hxa (hr a x ((List.pairwise_cons.mp hrest).1 x hx))
  · rintro ⟨a, ha, hfa, hbefore⟩
    obtain ⟨l₁, l₂, rfl⟩ := List.append_of_mem ha
    refine List.findSome?_eq_some_iff.mpr ⟨l₁, a, l₂, rfl, hfa, fun x hx => ?_⟩
    refine hbefore x (List.mem_append_left _ hx) ?_
    exact (List.pairwise_append.mp hl).2.2 x hx a List.mem_cons_self

section Filtered

variable (e : Element) (f : Element → Bool)

/-- The descendants of which something holds, by place. -/
theorem filter_descendants :
    e.descendants.filter f = e.places.filterMap fun p => (e.at? p).filter f := by
  rw [← filterMap_places, List.filter_filterMap]

/-- The first descendant of which something holds. -/
theorem head?_filter_descendants {d : Element} :
    (e.descendants.filter f).head? = some d ↔ e.FirstBelow (f · = true) d := by
  rw [filter_descendants, List.head?_filterMap,
    findSome?_of_pairwise (fun _ _ => List.lt_asymm) e.pairwise_places]
  simp only [mem_places, FirstBelow, Option.filter_eq_some_iff, Option.filter_eq_none_iff]
  constructor
  · rintro ⟨p, ⟨hne, -⟩, ⟨hd, hf⟩, hbefore⟩
    exact ⟨p, hne, hd, hf, fun q d' hq hlt hd' => hbefore q ⟨hq, d', hd'⟩ hlt d' hd'⟩
  · rintro ⟨p, hne, hd, hf, hbefore⟩
    exact ⟨p, ⟨hne, d, hd⟩, ⟨hd, hf⟩, fun q hq hlt d' hd' => hbefore q d' hq.1 hlt hd'⟩

/-- The last descendant of which something holds. -/
theorem getLast?_filter_descendants {d : Element} :
    (e.descendants.filter f).getLast? = some d ↔ e.LastBelow (f · = true) d := by
  have hreverse : e.places.reverse.Pairwise (fun p q => q < p) :=
    List.pairwise_reverse.mpr e.pairwise_places
  rw [filter_descendants, List.getLast?_filterMap,
    findSome?_of_pairwise (fun _ _ => List.lt_asymm) hreverse]
  simp only [List.mem_reverse, mem_places, LastBelow, Option.filter_eq_some_iff,
    Option.filter_eq_none_iff]
  constructor
  · rintro ⟨p, ⟨hne, -⟩, ⟨hd, hf⟩, hafter⟩
    refine ⟨p, hne, hd, hf, fun q d' hlt hd' => hafter q ⟨?_, d', hd'⟩ hlt d' hd'⟩
    rintro rfl
    exact List.not_lt_nil p hlt
  · rintro ⟨p, hne, hd, hf, hafter⟩
    exact ⟨p, ⟨hne, d, hd⟩, ⟨hd, hf⟩, fun q hq hlt d' hd' => hafter q d' hlt hd'⟩

/-- The descendants of which something holds, with the places they stand
at. -/
theorem exists_traversed :
    ∃ places, e.Traversed (f · = true) places
      ∧ List.Forall₂ (fun p d => e.at? p = some d) places (e.descendants.filter f) := by
  refine ⟨e.places.filter fun p => (e.at? p).any f, ⟨e.pairwise_places.filter _, ?_⟩, ?_⟩
  · intro p
    rw [List.mem_filter, mem_places, Option.any_eq_true]
    constructor
    · rintro ⟨⟨hne, -⟩, d, hd, hf⟩
      exact ⟨hne, d, hd, hf⟩
    · rintro ⟨hne, d, hd, hf⟩
      exact ⟨⟨hne, d, hd⟩, d, hd, hf⟩
  · rw [filter_descendants]
    induction e.places with
    | nil => exact .nil
    | cons p l ih =>
        rw [List.filter_cons, List.filterMap_cons]
        cases hd : e.at? p with
        | none => exact ih
        | some d =>
            cases hf : f d with
            | true => simpa [Option.filter, hf, hd] using ih
            | false => simpa [Option.filter, hf] using ih

end Filtered

end Element

-- ============================================================= queries

/-- A tag of a path without braces stands for itself. -/
theorem tagFits_of_no_brace {pattern : String} (hopen : '{' ∉ pattern.toList)
    (hclose : '}' ∉ pattern.toList) (tag : String) : tagFits pattern tag = (tag == pattern) := by
  have hsuffix : ['}', '*'].isSuffixOf pattern.toList = false := by
    rw [← Bool.not_eq_true, List.isSuffixOf_iff_suffix]
    intro h
    exact hclose (h.subset (by simp))
  unfold tagFits
  dsimp only
  split
  case h_1 heq => exact absurd (by rw [heq]; simp) hopen
  case h_2 heq => exact absurd (by rw [heq]; simp) hopen
  case h_3 =>
    rw [hsuffix, Bool.eq_iff_iff]
    simp only [Bool.false_eq_true, if_false, beq_iff_eq, String.toList_inj]
    exact eq_comm

/-- Places chosen by what stands at them lead to the descendants chosen
so. -/
theorem filterMap_filter_places {e : Element} {g : Location → Bool} {f : Element → Bool}
    (h : ∀ p d, e.at? p = some d → g p = f d) :
    (e.places.filter g).filterMap e.at? = e.descendants.filter f := by
  rw [Element.filter_descendants, List.filterMap_filter]
  refine List.filterMap_congr fun p _ => ?_
  cases hd : e.at? p with
  | none => simp
  | some d => simp [h p d hd, Option.filter]

/-- What is chosen of a list is read off its positions. -/
private theorem filterMap_positions {α : Type} (l : List α) (f : α → Bool) :
    (List.range l.length).filterMap (fun i => l[i]?.filter f) = l.filter f := by
  induction l with
  | nil => rfl
  | cons a l ih =>
      rw [List.length_cons, List.range_succ_eq_map, List.filterMap_cons, List.filterMap_map,
        List.filter_cons, ← ih]
      cases hf : f a with
      | true => simp [Option.filter, hf]
      | false => simp [Option.filter, hf]

/-- The places of the children with a tag. -/
def childPlaces (e : Element) (tag : String) (place : Location) : List Location :=
  (childLocations e place).filter (tagAt e tag)

theorem pairwise_childPlaces (e : Element) (tag : String) (place : Location) :
    (childPlaces e tag place).Pairwise (· < ·) := by
  refine List.Pairwise.filter _ ?_
  unfold childLocations
  split
  · refine List.pairwise_map.mpr (List.pairwise_lt_range.imp ?_)
    intro i j hij
    exact List.append_left_lt (List.cons_lt_cons_iff.mpr (Or.inl hij))
  · exact List.Pairwise.nil

section Queries

variable (e : Element) {path tag : String} (hopen : '{' ∉ tag.toList) (hclose : '}' ∉ tag.toList)

include hopen hclose

theorem tagAt_of_at? {p : Location} {d : Element} (h : e.at? p = some d) :
    tagAt e tag p = (d.tag == tag) := by
  rw [tagAt, h]
  exact tagFits_of_no_brace hopen hclose d.tag

/-- A path to the descendants with a tag gives them in document order. -/
theorem findAll_tagged (hpath : parsePath path = .ok [.self, .descendant (some tag)]) :
    e.findAll path = .ok (e.descendantsNamed tag) := by
  have hplaces : [PathStep.self, .descendant (some tag)].foldl (PathStep.apply e) [[]]
      = e.places.filter (tagAt e tag) := by
    simp [PathStep.apply, Element.places]
  have hfound := filterMap_filter_places fun p d => tagAt_of_at? e hopen hclose (p := p) (d := d)
  unfold Element.findAll
  rw [hpath]
  show Except.ok _ = Except.ok _
  rw [hplaces, hfound]
  rfl

/-- A path to the descendants with a tag and an attribute gives them in
document order. -/
theorem findAll_attributed {name value : String}
    (hpath : parsePath path
      = .ok [.self, .descendant (some tag), .filter (.attributeIs name value true)]) :
    e.findAll path
      = .ok ((e.descendantsNamed tag).filter fun d => d.rawAttribute? name == some value) := by
  have hplaces : [PathStep.self, .descendant (some tag),
        .filter (.attributeIs name value true)].foldl (PathStep.apply e) [[]]
      = e.places.filter fun p =>
          PathCondition.holds e p (.attributeIs name value true) && tagAt e tag p := by
    simp [PathStep.apply, Element.places, List.filter_filter]
  have hfound : ∀ p d, e.at? p = some d →
      (PathCondition.holds e p (.attributeIs name value true) && tagAt e tag p)
        = ((d.rawAttribute? name == some value) && d.tag == tag) := by
    intro p d hd
    rw [tagAt_of_at? e hopen hclose hd, PathCondition.holds, hd]
  unfold Element.findAll
  rw [hpath]
  show Except.ok _ = Except.ok _
  rw [hplaces, filterMap_filter_places hfound, Element.descendantsNamed, List.filter_filter]

/-- The children with a tag, by place. -/
theorem mem_childPlaces {place q : Location} :
    q ∈ childPlaces e tag place ↔ ∃ i d, q = place ++ [i] ∧ e.at? q = some d ∧ d.tag = tag := by
  unfold childPlaces
  rw [List.mem_filter]
  constructor
  · intro ⟨hq, htag⟩
    cases hplace : e.at? place with
    | none =>
        rw [childLocations, hplace] at hq
        cases hq
    | some above =>
        rw [childLocations_of_at? hplace] at hq
        obtain ⟨i, hi, rfl⟩ := List.mem_map.mp hq
        have hd := Element.at?_child hplace i
        rw [List.getElem?_eq_getElem (List.mem_range.mp hi)] at hd
        rw [tagAt_of_at? e hopen hclose hd, beq_iff_eq] at htag
        exact ⟨i, _, rfl, hd, htag⟩
  · intro ⟨i, d, hq, hd, htag⟩
    subst hq
    refine ⟨?_, by rw [tagAt_of_at? e hopen hclose hd, beq_iff_eq]; exact htag⟩
    rw [Element.at?_append, Option.bind_eq_some_iff] at hd
    obtain ⟨above, hplace, hchild⟩ := hd
    have hat : above.at? [i] = above.children[i]? :=
      Element.at?_child (show above.at? [] = some above from rfl) i
    rw [hat] at hchild
    rw [childLocations_of_at? hplace]
    exact List.mem_map_of_mem (List.mem_range.mpr (List.getElem?_eq_some_iff.mp hchild).1)

theorem filterMap_childPlaces {place : Location} {above : Element}
    (h : e.at? place = some above) :
    (childPlaces e tag place).filterMap e.at? = above.childrenNamed tag := by
  have hstep : ∀ i, (if tagAt e tag (place ++ [i]) = true then e.at? (place ++ [i]) else none)
      = above.children[i]?.filter (·.tag == tag) := by
    intro i
    have hd := Element.at?_child h i
    cases hc : above.children[i]? with
    | none =>
        rw [hc] at hd
        simp [hd]
    | some c =>
        rw [hc] at hd
        rw [tagAt_of_at? e hopen hclose hd, hd]
        rfl
  unfold childPlaces
  rw [childLocations_of_at? h, List.filterMap_filter, List.filterMap_map,
    Element.childrenNamed, ← filterMap_positions]
  exact List.filterMap_congr fun i _ => hstep i

/-- The trimmed text at a path that is a tag is that of the first child
with it. -/
theorem textAt_tag (hpath : parsePath tag = .ok [.child tag]) :
    e.textAt tag = .ok (e.childText tag) := by
  have hplaces : [PathStep.child tag].foldl (PathStep.apply e) [[]] = childPlaces e tag [] := by
    simp only [List.foldl_cons, List.foldl_nil, PathStep.apply, List.flatMap_singleton]
    rfl
  have hfound : (childPlaces e tag []).filterMap e.at? = e.childrenNamed tag :=
    filterMap_childPlaces e hopen hclose rfl
  unfold Element.textAt Element.findFirst Element.findAll
  rw [hpath]
  show Except.ok _ = Except.ok _
  rw [hplaces, hfound]
  rfl

end Queries

section Groups

variable (e : Element) {path group tag : String}
  (hopen : '{' ∉ tag.toList) (hclose : '}' ∉ tag.toList)
  (hopenGroup : '{' ∉ group.toList) (hcloseGroup : '}' ∉ group.toList)

include hopen hclose hopenGroup hcloseGroup

/-- The children of children, both by tag, group after group. -/
theorem filterMap_groupedPlaces :
    ((childPlaces e group []).flatMap (childPlaces e tag)).filterMap e.at?
      = (e.childrenNamed group).flatMap (·.childrenNamed tag) := by
  have hgroup : ∀ p ∈ childPlaces e group [],
      (childPlaces e tag p).filterMap e.at?
        = ((e.at? p).toList).flatMap (·.childrenNamed tag) := by
    intro p hp
    obtain ⟨i, above, -, habove, -⟩ := (mem_childPlaces e hopenGroup hcloseGroup).mp hp
    rw [filterMap_childPlaces e hopen hclose habove, habove]
    simp
  rw [List.filterMap_flatMap, List.flatMap_congr hgroup,
    ← filterMap_childPlaces e hopenGroup hcloseGroup (show e.at? [] = some e from rfl),
    List.filterMap_eq_flatMap_toList, List.flatMap_assoc]

/-- A path of two tags leads to the children of children. -/
theorem findAll_grouped (hpath : parsePath path = .ok [.child group, .child tag]) :
    e.findAll path = .ok ((e.childrenNamed group).flatMap (·.childrenNamed tag)) := by
  unfold Element.findAll
  rw [hpath]
  show Except.ok _ = Except.ok _
  rw [← filterMap_groupedPlaces e hopen hclose hopenGroup hcloseGroup]
  simp only [List.foldl_cons, List.foldl_nil, PathStep.apply, List.flatMap_singleton]
  rfl

end Groups

end KbDocs.Xml
