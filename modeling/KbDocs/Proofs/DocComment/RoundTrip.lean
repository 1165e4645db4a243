/-
Documentation can be written as a block and is read back from it.

`block` writes tags one on a line, and `writtenTags` says which tags tell
all of a documentation. Reading is undone stage by stage: the block is
found in the source around it (`tagsOf_block`), every line gives back its
tag and its value (`readTag_trim`), and every `@param` value its
parameter (`Parameter.Writable.ofTag?_tagValue`). Since only the values
of each tag count, the lines of different tags may stand in any order
(`ofSource?_block`).

What cannot be told apart on a line is left out of `Writable`: white
space at the ends of a text, line feeds, and the end of the block. The
type `-` would be taken for the dash that leads the description. An empty
description leaves that dash at the end of the line, where trimming takes
the space behind it; it is then the fourth word of the line, and no more
than three are looked at.
-/
import Mathlib.Data.List.Infix
import Mathlib.Tactic.MkIffOfInductiveProp
import KbDocs.Proofs.DocComment.Block
import KbDocs.Proofs.DocComment.Tags
import KbDocs.Proofs.Text.Words

namespace KbDocs

open KbDocs.Text KbDocs.DocBlock

-- ============================================================= writing

/-- The value of the `@param` tag that documents a parameter. -/
def Parameter.tagValue (p : Parameter) : String :=
  p.name ++ " " ++ p.direction ++ " " ++ p.type ++ " - " ++ p.description

/-- The tags that tell all of a documentation. -/
def DocComment.writtenTags (d : DocComment) : List (String × String) :=
  [("@package", d.package), ("@summary", d.summary), ("@description", d.description),
    ("@author", d.author), ("@created", d.created), ("@return", d.returnValue)]
    ++ d.tags.map (fun t => ("@tag", t))
    ++ d.parameters.map (fun p => ("@param", p.tagValue))
    ++ (if d.deprecated then [("@deprecated", d.deprecationNote)] else [])

/-- The block that holds tags, one on a line. -/
def DocComment.block (tags : List (String × String)) : String :=
  "/**\n" ++ String.join (tags.map fun t => " * " ++ t.1 ++ " " ++ t.2 ++ "\n") ++ " */"

/-- A text that stands on a line of a block as it is. -/
@[mk_iff inline_iff]
structure Inline (s : String) : Prop where
  trimmed : Trimmed s.toList
  one_line : '\n' ∉ s.toList
  no_closer : ¬ closer <:+: s.toList

/-- A text that is one word of a line of a block. -/
@[mk_iff inlineWord_iff]
structure InlineWord (s : String) : Prop where
  ne : s ≠ ""
  visible : Visible s.toList
  no_closer : ¬ closer <:+: s.toList

/-- A parameter that a `@param` tag can document. -/
@[mk_iff writable_iff]
structure Parameter.Writable (p : Parameter) : Prop where
  name : InlineWord p.name
  direction : p.direction ∈ directions
  type : InlineWord p.type
  type_ne : p.type ≠ "-"
  description : Inline p.description

/-- Documentation that a block can tell. -/
@[mk_iff writable_iff]
structure DocComment.Writable (d : DocComment) : Prop where
  authored : d.autoGenerated = false
  texts : ∀ s ∈ [d.package, d.summary, d.description, d.author, d.created, d.returnValue,
    d.deprecationNote], Inline s
  tags : ∀ s ∈ d.tags, Inline s
  note : d.deprecated = false → d.deprecationNote = ""
  parameters : ∀ p ∈ d.parameters, p.Writable

instance (s : String) : Decidable (Inline s) :=
  decidable_of_iff' _ (inline_iff s)

instance (s : String) : Decidable (InlineWord s) :=
  decidable_of_iff' _ (inlineWord_iff s)

instance (p : Parameter) : Decidable p.Writable :=
  decidable_of_iff' _ (Parameter.writable_iff p)

instance (d : DocComment) : Decidable d.Writable :=
  decidable_of_iff' _ (DocComment.writable_iff d)

/-- A text on a line is read as it is. -/
theorem Inline.trimmed_eq {s : String} (h : Inline s) : Text.trimmed s = s := by
  rw [Text.trimmed, h.trimmed, String.ofList_toList]

theorem InlineWord.toList_ne {s : String} (h : InlineWord s) : s.toList ≠ [] := by
  rw [Ne, String.toList_eq_nil_iff]
  exact h.ne

-- ====================================================== one parameter

/-- A direction of the data model is a word, and upper case already. -/
theorem inlineWord_direction :
    ∀ d ∈ directions, InlineWord d ∧ d ≠ "-" ∧ String.ofList (upper d.toList) = d := by
  decide +kernel

/-- No dash stands on its own between three words and a dash, unless it
is the second or the third of them. -/
theorem dash_not_infix {a b c : List Char} (ha : ' ' ∉ a) (hb : ' ' ∉ b) (hc : ' ' ∉ c)
    (hb' : b ≠ ['-']) (hc' : c ≠ ['-']) :
    ¬ [' ', '-', ' '] <:+: join [' '] [a, b, c, ['-']] := by
  rintro ⟨x, y, h⟩
  have hpieces : pieces ' ' x ++ ['-'] :: pieces ' ' y = [a, b, c, ['-']] := by
    have hsource : x ++ [' ', '-', ' '] ++ y = x ++ ' ' :: (['-'] ++ ' ' :: y) := by simp
    calc pieces ' ' x ++ ['-'] :: pieces ' ' y
        = pieces ' ' (x ++ [' ', '-', ' '] ++ y) := by
          rw [hsource, pieces_append_cons, pieces_append_cons]
          rfl
      _ = [a, b, c, ['-']] := by
          rw [h]
          exact pieces_join (by simp) (by simp [ha, hb, hc])
  obtain ⟨p, ps, hp⟩ := exists_pieces ' ' x
  obtain ⟨q, qs, hq⟩ := exists_pieces ' ' y
  rw [hp, hq] at hpieces
  -- at least one piece before the dash, and one behind it
  match ps with
  | [] => simp at hpieces; exact hb' hpieces.2.1.symm
  | [_] => simp at hpieces; exact hc' hpieces.2.2.1.symm
  | [_, _] => simp at hpieces
  | _ :: _ :: _ :: _ => simp at hpieces

/-- The words that declare a parameter in the value of its tag. -/
def Parameter.declaration (p : Parameter) : List Char :=
  join [' '] [p.name.toList, p.direction.toList, p.type.toList]

/-- The value of a `@param` tag is the declaration, a dash and the
description. -/
theorem Parameter.toList_tagValue (p : Parameter) :
    p.tagValue.toList
      = p.declaration ++ [' '] ++ '-' :: ' ' :: p.description.toList := by
  simp [tagValue, declaration]

/-- With a dash behind it, the declaration has four words. -/
theorem Parameter.declaration_dash (p : Parameter) :
    p.declaration ++ [' ', '-']
      = join [' '] [p.name.toList, p.direction.toList, p.type.toList, ['-']] := by
  simp [declaration]

namespace Parameter.Writable

variable {p : Parameter} (hp : p.Writable)

include hp

/-- The words of the declaration are words. -/
theorem declared :
    ∀ w ∈ [p.name.toList, p.direction.toList, p.type.toList], w ≠ [] ∧ Visible w := by
  have hdirection := (inlineWord_direction p.direction hp.direction).1
  intro w hw
  simp only [List.mem_cons, List.not_mem_nil, or_false] at hw
  rcases hw with rfl | rfl | rfl
  · exact ⟨hp.name.toList_ne, hp.name.visible⟩
  · exact ⟨hdirection.toList_ne, hdirection.visible⟩
  · exact ⟨hp.type.toList_ne, hp.type.visible⟩

/-- The dash before the description is the first one that stands on its
own, also where the description is empty. -/
theorem dash_not_infix_declaration :
    ¬ " - ".toList <:+: p.declaration ++ " - ".toList.dropLast := by
  have hspace : ∀ w ∈ [p.name.toList, p.direction.toList, p.type.toList], ' ' ∉ w :=
    fun w hw => (hp.declared w hw).2.not_mem (by decide)
  have hne : ∀ s : String, s ≠ "-" → s.toList ≠ ['-'] := by
    intro s hs heq
    exact hs (by rw [← String.ofList_toList (s := s), heq])
  show ¬ [' ', '-', ' '] <:+: p.declaration ++ [' ', '-']
  rw [p.declaration_dash]
  exact dash_not_infix (hspace p.name.toList (by simp)) (hspace p.direction.toList (by simp))
    (hspace p.type.toList (by simp))
    (hne p.direction (inlineWord_direction p.direction hp.direction).2.1)
    (hne p.type hp.type_ne)

/-- Trimming takes nothing off the value of a `@param` tag, unless it is
the space that an empty description is set apart with. -/
theorem trim_tagValue :
    trim p.tagValue.toList
      = p.declaration ++ [' '] ++ '-' :: trimRight (' ' :: p.description.toList) := by
  obtain ⟨c, r, hname⟩ := List.exists_cons_of_ne_nil hp.name.toList_ne
  have hc : isBlank c = false := hp.name.visible c (by rw [hname]; simp)
  have hleft : trimLeft p.tagValue.toList = p.tagValue.toList := by
    rw [p.toList_tagValue, Parameter.declaration, hname]
    exact trimLeft_cons_of_not_blank hc _
  rw [trim, hleft, p.toList_tagValue]
  exact trimRight_append_cons (by decide) _ _

/-- A trimmed `@param` value is cut into the declaration and the
description. An empty description leaves the dash with the words. -/
theorem cut_tagValue :
    ∃ more, words (cutPhrase " - ".toList (trim p.tagValue.toList)).1
        = p.name.toList :: p.direction.toList :: p.type.toList :: more
      ∧ trim ((cutPhrase " - ".toList (trim p.tagValue.toList)).2.getD [])
        = p.description.toList := by
  rw [hp.trim_tagValue]
  by_cases hempty : p.description.toList = []
  · have hsource : p.declaration ++ [' '] ++ '-' :: trimRight (' ' :: p.description.toList)
        = p.declaration ++ " - ".toList.dropLast := by
      rw [hempty]
      simp [trimRight_eq_nil_iff.mpr (show allBlank [' '] = true by decide)]
    rw [hsource, cutPhrase_of_not_infix hp.dash_not_infix_declaration]
    refine ⟨[['-']], ?_, by rw [hempty]; rfl⟩
    show words (p.declaration ++ [' ', '-']) = _
    rw [p.declaration_dash]
    refine words_join fun w hw => ?_
    rcases List.mem_append.mp (show w ∈ [p.name.toList, p.direction.toList, p.type.toList]
      ++ [['-']] from hw) with hw | hw
    · exact hp.declared w hw
    · rw [List.mem_singleton] at hw
      subst hw
      exact ⟨by decide, by decide⟩
  · have hsource : p.declaration ++ [' '] ++ '-' :: trimRight (' ' :: p.description.toList)
        = p.declaration ++ " - ".toList ++ p.description.toList := by
      rw [trimRight_cons, trimRight_of_trimmed hp.description.trimmed, if_neg hempty]
      simp
    rw [hsource, cutPhrase_append (by decide) hp.dash_not_infix_declaration]
    exact ⟨[], words_join hp.declared, hp.description.trimmed⟩

/-- A parameter is read back from its tag. -/
theorem ofTag?_tagValue : ofTag? (trimmed p.tagValue) = some p := by
  obtain ⟨more, hwords, hdescription⟩ := hp.cut_tagValue
  have hupper := (inlineWord_direction p.direction hp.direction).2.2
  have hvalue : (trimmed p.tagValue).toList = trim p.tagValue.toList := String.toList_ofList
  unfold ofTag?
  dsimp only
  rw [hvalue, hwords, hdescription]
  dsimp only
  rw [hupper, if_pos hp.direction]
  simp

end Parameter.Writable

-- =========================================================== the lines

namespace DocComment

/-- A line gives back its tag and its value. -/
theorem readTag_trim {tag : List Char} (hne : tag ≠ []) (hvisible : Visible tag)
    (value : List Char) :
    readTag (trim (tag ++ ' ' :: value))
      = (String.ofList tag, String.ofList (trim value)) := by
  have hspace : ' ' ∉ tag := hvisible.not_mem (by decide)
  have hleft : trimLeft (tag ++ ' ' :: value) = tag ++ ' ' :: value := by
    obtain ⟨c, r, rfl⟩ := List.exists_cons_of_ne_nil hne
    exact trimLeft_cons_of_not_blank (hvisible c (List.mem_cons_self ..)) _
  rw [trim, hleft, trimRight_append]
  cases hblank : allBlank value with
  | true =>
      have hall : allBlank (' ' :: value) = true := by rw [allBlank_cons, hblank]; decide
      rw [hall, if_pos rfl, trimRight_of_trimmed hvisible.trimmed, readTag,
        cutAt_of_not_mem hspace, trim_eq_nil_iff.mpr hblank]
      rfl
  | false =>
      have hall : allBlank (' ' :: value) = false := by rw [allBlank_cons, hblank]; simp
      have hright : trimRight (' ' :: value) = ' ' :: trimRight value := by
        rw [trimRight_cons, if_neg (by rw [trimRight_eq_nil_iff, hblank]; decide)]
      rw [hall, if_neg (by decide), hright, readTag, cutAt_append_cons hspace]
      rw [Option.getD_some, trim_trimRight]

/-- The line of a block that holds a tag. -/
def row (t : String × String) : List Char :=
  ' ' :: '*' :: ' ' :: (t.1.toList ++ ' ' :: t.2.toList)

/-- A block is its rows, each with a line feed behind it. -/
theorem toList_block (tags : List (String × String)) :
    (block tags).toList
      = opener ++ ('\n' :: ((tags.map row).flatMap (· ++ ['\n']) ++ [' ']) ++ closer) := by
  have hrows : (tags.map fun t => " * " ++ t.1 ++ " " ++ t.2 ++ "\n").flatMap String.toList
      = (tags.map row).flatMap (· ++ ['\n']) := by
    rw [List.flatMap_map, List.flatMap_map]
    congr 1
    funext t
    simp [row]
  rw [block, String.toList_append, String.toList_append, String.toList_join, hrows]
  simp [opener, closer]

/-- A tag that a line of a block can hold. -/
structure Fits (t : String × String) : Prop where
  tag : InlineWord t.1
  one_line : '\n' ∉ t.2.toList
  no_closer : ¬ closer <:+: t.2.toList

/-- The block does not end in a row. -/
theorem Fits.no_closer_row {t : String × String} (ht : Fits t) : ¬ closer <:+: row t := by
  have hspace : ' ' ∉ closer := by decide
  have hne : closer ≠ [] := by decide
  have hrow : row t = [] ++ ' ' :: (['*'] ++ ' ' :: (t.1.toList ++ ' ' :: t.2.toList)) := rfl
  rw [hrow, infix_append_cons_iff hspace hne, infix_append_cons_iff hspace hne,
    infix_append_cons_iff hspace hne]
  rintro (h | h | h | h)
  · exact absurd h (by decide)
  · exact absurd h (by decide)
  · exact ht.tag.no_closer h
  · exact ht.no_closer h

/-- A row is one line. -/
theorem Fits.one_line_row {t : String × String} (ht : Fits t) : '\n' ∉ row t := by
  simp [row, ht.tag.visible.not_mem (show isBlank '\n' = true by decide), ht.one_line]

/-- A row is read as its tag and its value. -/
theorem Fits.readTag_row {t : String × String} (ht : Fits t) :
    readTag (cleanLine (row t)) = (t.1, trimmed t.2) := by
  have hclean : cleanLine (row t) = trim (t.1.toList ++ ' ' :: t.2.toList) := by
    rw [show row t = [' '] ++ '*' :: ' ' :: (t.1.toList ++ ' ' :: t.2.toList) from rfl,
      cleanLine_asterisk (by decide), trim, trimLeft_cons_of_blank (by decide), ← trim]
  rw [hclean, readTag_trim ht.tag.toList_ne ht.tag.visible, String.ofList_toList, trimmed]

/-- No row ends the block. -/
theorem no_closer_rows {tags : List (String × String)} (h : ∀ t ∈ tags, Fits t) :
    ¬ closer <:+: (tags.map row).flatMap (· ++ ['\n']) := by
  induction tags with
  | nil => decide
  | cons t tags ih =>
      rw [List.map_cons, List.flatMap_cons, List.append_assoc, List.singleton_append,
        infix_append_cons_iff (by decide) (by decide)]
      rintro (hrow | hrows)
      · exact (h t (List.mem_cons_self ..)).no_closer_row hrow
      · exact ih (fun u hu => h u (List.mem_cons_of_mem t hu)) hrows

section Block

variable {tags : List (String × String)} (hne : tags ≠ []) (h : ∀ t ∈ tags, Fits t)
  {before : String} (hbefore : ¬ opener <:+: before.toList) (after : String)

include hne h hbefore

/-- The lines of a block are found in the source around it. -/
theorem cleanLines_block :
    cleanLines (before ++ block tags ++ after).toList
      = tags.map fun t => cleanLine (row t) := by
  have hnil : tags.map row ≠ [] := by simpa using hne
  have hinside : ¬ closer <:+: '\n' :: ((tags.map row).flatMap (· ++ ['\n']) ++ [' ']) := by
    intro hinfix
    rcases (infix_append_cons_iff (by decide) (by decide)).mp
      (show closer <:+: ('\n' :: (tags.map row).flatMap (· ++ ['\n'])) ++ ' ' :: [] from hinfix)
      with hrows | hrest
    · rcases (infix_append_cons_iff (by decide) (by decide)).mp
        (show closer <:+: [] ++ '\n' :: (tags.map row).flatMap (· ++ ['\n']) from hrows)
        with hstart | hrows
      · exact absurd hstart (by decide)
      · exact no_closer_rows h hrows
    · exact absurd hrest (by decide)
  have hsource : (before ++ block tags ++ after).toList
      = before.toList ++ opener
        ++ ('\n' :: ((tags.map row).flatMap (· ++ ['\n']) ++ [' ']) ++ closer ++ after.toList) := by
    rw [String.toList_append, String.toList_append, toList_block]
    simp
  have htrim : trim ('\n' :: ((tags.map row).flatMap (· ++ ['\n']) ++ [' ']))
      = trim (join ['\n'] (tags.map row)) := by
    have hends : '\n' :: ((tags.map row).flatMap (· ++ ['\n']) ++ [' '])
        = ['\n'] ++ join ['\n'] (tags.map row) ++ ['\n', ' '] := by
      rw [flatMap_append_sep hnil]
      simp
    rw [hends, trim_blank_append_append (by decide) (by decide)]
  have hvisible : ∀ r ∈ tags.map row, allBlank r = false := by
    intro r hr
    obtain ⟨t, -, rfl⟩ := List.mem_map.mp hr
    rfl
  have hline : ∀ r ∈ tags.map row, '\n' ∉ r := by
    intro r hr
    obtain ⟨t, ht, rfl⟩ := List.mem_map.mp hr
    exact (h t ht).one_line_row
  rw [cleanLines, hsource, body?_append hbefore hinside]
  dsimp only
  rw [htrim, map_cleanLine_lines hnil hvisible hline, List.map_map]
  rfl

/-- The tags of a block are found in the source around it. -/
theorem tagsOf_block :
    tagsOf (before ++ block tags ++ after) = tags.map fun t => (t.1, trimmed t.2) := by
  rw [tagsOf, cleanLines_block hne h hbefore, List.map_map]
  exact List.map_congr_left fun t ht => (h t ht).readTag_row

/-- A block with tags counts as documentation. -/
theorem text_block_ne : DocBlock.text (before ++ block tags ++ after) ≠ "" := by
  obtain ⟨t, ts, rfl⟩ := List.exists_cons_of_ne_nil hne
  have ht := h t (List.mem_cons_self ..)
  have hclean : cleanLine (row t) ≠ [] := by
    intro hnil
    have hread := ht.readTag_row
    rw [hnil] at hread
    exact ht.tag.ne (congrArg Prod.fst hread).symm
  obtain ⟨c, r, hcons⟩ := List.exists_cons_of_ne_nil hclean
  have hmem : c ∈ join ['\n'] (cleanLines (before ++ block (t :: ts) ++ after).toList) := by
    rw [cleanLines_block hne h hbefore, List.map_cons, hcons]
    exact mem_join_of_mem (List.mem_cons_self ..) (List.mem_cons_self ..)
  intro hempty
  rw [DocBlock.text, ← String.toList_eq_nil_iff, String.toList_ofList] at hempty
  rw [hempty] at hmem
  cases hmem

/-- A source with a block is read as the values of its tags. -/
theorem ofSource?_of_block :
    ofSource? (before ++ block tags ++ after)
      = some (ofValues fun tag => (tags.filter (·.1 == tag)).map fun t => trimmed t.2) := by
  have hvalues : ∀ tag, valuesOf tag (tagsOf (before ++ block tags ++ after))
      = (tags.filter (·.1 == tag)).map fun t => trimmed t.2 := by
    intro tag
    rw [tagsOf_block hne h hbefore, valuesOf, List.filter_map, List.map_map]
    rfl
  rw [ofSource?, if_neg (text_block_ne hne h hbefore after), foldl_addLine, ← tagsOf]
  simp only [hvalues]

end Block

-- ======================================================= the round trip

/-- The tags that a block can hold. -/
def tagNames : List String :=
  ["@package", "@summary", "@description", "@author", "@created", "@return", "@tag",
    "@param", "@deprecated"]

theorem inlineWord_tagName : ∀ tag ∈ tagNames, InlineWord tag := by
  decide +kernel

theorem fits_of_inline {tag value : String} (htag : tag ∈ tagNames) (hvalue : Inline value) :
    Fits (tag, value) :=
  ⟨inlineWord_tagName tag htag, hvalue.one_line, hvalue.no_closer⟩

/-- A parameter fits on a line. -/
theorem fits_param {p : Parameter} (hp : p.Writable) : Fits ("@param", p.tagValue) := by
  have hdirection := (inlineWord_direction p.direction hp.direction).1
  refine ⟨inlineWord_tagName "@param" (by decide), ?_, ?_⟩
  · have hline : ∀ s : String, InlineWord s → '\n' ∉ s.toList := fun s hs =>
      hs.visible.not_mem (by decide)
    simp [Parameter.tagValue, hline _ hp.name, hline _ hdirection, hline _ hp.type,
      hp.description.one_line]
  · have hspace : ' ' ∉ closer := by decide
    have hne : closer ≠ [] := by decide
    have hvalue : p.tagValue.toList
        = p.name.toList ++ ' ' :: (p.direction.toList ++ ' ' :: (p.type.toList
          ++ ' ' :: (['-'] ++ ' ' :: p.description.toList))) := by
      simp [Parameter.tagValue]
    rw [hvalue, infix_append_cons_iff hspace hne, infix_append_cons_iff hspace hne,
      infix_append_cons_iff hspace hne, infix_append_cons_iff hspace hne]
    rintro (h | h | h | h | h)
    · exact hp.name.no_closer h
    · exact hdirection.no_closer h
    · exact hp.type.no_closer h
    · exact absurd h (by decide)
    · exact hp.description.no_closer h

/-- Of lines with one tag, all are picked or none. -/
theorem filter_map_tag {α : Type} (written tag : String) (value : α → String) (l : List α) :
    (l.map fun x => (written, value x)).filter (·.1 == tag)
      = if written == tag then l.map (fun x => (written, value x)) else [] := by
  cases h : written == tag with
  | true => simp [List.filter_map, Function.comp_def, h]
  | false => simp [List.filter_map, Function.comp_def, h]

section Writable

variable {d : DocComment} (hd : d.Writable)

include hd

/-- All that a documentation tells fits on lines. -/
theorem Writable.fits : ∀ t ∈ d.writtenTags, Fits t := by
  intro t ht
  simp only [writtenTags, List.mem_append, List.mem_cons, List.not_mem_nil, or_false,
    List.mem_map] at ht
  rcases ht with ((ht | ⟨s, hs, rfl⟩) | ⟨p, hp, rfl⟩) | ht
  · rcases ht with rfl | rfl | rfl | rfl | rfl | rfl
    all_goals exact fits_of_inline (by decide) (hd.texts _ (by simp))
  · exact fits_of_inline (by decide) (hd.tags s hs)
  · exact fits_param (hd.parameters p hp)
  · split at ht
    · rw [List.mem_singleton] at ht
      subst ht
      exact fits_of_inline (by decide) (hd.texts _ (by simp))
    · cases ht

/-- The values of its tags tell the documentation. -/
theorem Writable.ofValues_writtenTags :
    ofValues (fun tag => (d.writtenTags.filter (·.1 == tag)).map fun t => trimmed t.2) = d := by
  have htext : ∀ s ∈ [d.package, d.summary, d.description, d.author, d.created, d.returnValue,
      d.deprecationNote], trimmed s = s := fun s hs => (hd.texts s hs).trimmed_eq
  have htags : d.tags.map trimmed = d.tags := by
    rw [List.map_congr_left fun s hs => (hd.tags s hs).trimmed_eq, List.map_id']
  have hparameters : d.parameters.filterMap (fun p => Parameter.ofTag? (trimmed p.tagValue))
      = d.parameters := by
    rw [List.filterMap_congr fun p hp => (hd.parameters p hp).ofTag?_tagValue,
      List.filterMap_some]
  simp only [List.mem_cons, List.not_mem_nil, or_false, forall_eq_or_imp, forall_eq] at htext
  obtain ⟨h1, h2, h3, h4, h5, h6, h7⟩ := htext
  have hauthored := hd.authored
  have hnote := hd.note
  obtain ⟨package, summary, description, author, created, returnValue, tags, deprecated,
    deprecationNote, parameters, autoGenerated⟩ := d
  dsimp only at hauthored hnote htags hparameters h1 h2 h3 h4 h5 h6 h7
  subst hauthored
  have hfilterTags := fun tag => filter_map_tag "@tag" tag (fun t => t) tags
  have hfilterParameters := fun tag => filter_map_tag "@param" tag Parameter.tagValue parameters
  cases deprecated with
  | true =>
      simp only [ofValues, writtenTags, List.filter_append, List.map_append]
      simp [hfilterTags, hfilterParameters, Function.comp_def, List.filterMap_map, htags,
        hparameters, h1, h2, h3, h4, h5, h6, h7]
  | false =>
      rw [hnote rfl]
      simp only [ofValues, writtenTags, List.filter_append, List.map_append]
      simp [hfilterTags, hfilterParameters, Function.comp_def, List.filterMap_map, htags,
        hparameters, h1, h2, h3, h4, h5, h6]

end Writable

/-- Two lists of tags that tell the same: each tag has the same values,
in the same order. -/
def SameByTag (a b : List (String × String)) : Prop :=
  ∀ t ∈ a ++ b, a.filter (·.1 == t.1) = b.filter (·.1 == t.1)

instance (a b : List (String × String)) : Decidable (SameByTag a b) :=
  inferInstanceAs (Decidable (∀ t ∈ a ++ b, a.filter (·.1 == t.1) = b.filter (·.1 == t.1)))

theorem SameByTag.filter_eq {a b : List (String × String)} (h : SameByTag a b) (tag : String) :
    a.filter (·.1 == tag) = b.filter (·.1 == tag) := by
  by_cases hmem : ∃ t ∈ a ++ b, t.1 = tag
  · obtain ⟨t, ht, rfl⟩ := hmem
    exact h t ht
  · have hnone : ∀ l : List (String × String), (∀ t ∈ l, t ∈ a ++ b) →
        l.filter (·.1 == tag) = [] := by
      intro l hl
      rw [List.filter_eq_nil_iff]
      intro t ht heq
      exact hmem ⟨t, hl t ht, by simpa using heq⟩
    rw [hnone a fun t ht => List.mem_append_left b ht,
      hnone b fun t ht => List.mem_append_right a ht]

/-- Documentation is read back from a block that tells it, wherever the
block stands in a source and however the lines of different tags are
mixed. -/
theorem ofSource?_block {d : DocComment} (hd : d.Writable) {tags : List (String × String)}
    (htags : SameByTag tags d.writtenTags) {before : String}
    (hbefore : ¬ opener <:+: before.toList) (after : String) :
    ofSource? (before ++ block tags ++ after) = some d := by
  have hmem : ∀ t ∈ tags, t ∈ d.writtenTags := by
    intro t ht
    have hfilter : t ∈ tags.filter (·.1 == t.1) := List.mem_filter.mpr ⟨ht, by simp⟩
    rw [htags.filter_eq] at hfilter
    exact (List.mem_filter.mp hfilter).1
  have hne : tags ≠ [] := by
    rintro rfl
    have hpackage := htags.filter_eq "@package"
    simp [writtenTags] at hpackage
  rw [ofSource?_of_block hne (fun t ht => hd.fits t (hmem t ht)) hbefore]
  simp only [htags.filter_eq, hd.ofValues_writtenTags]

/-- Values that begin like a line, a tag or the end of a block, empty
ones, a dash for a name and an empty description all come back, between
other comments and with the lines out of order. -/
theorem ofSource?_block_mixed :
    ofSource? ("/* none */ /"
        ++ block [("@param", "- INOUT a-b - "), ("@tag", ""), ("@return", "/"),
          ("@deprecated", ""), ("@summary", "* @tag x"), ("@tag", "@package"),
          ("@description", "a - b"), ("@package", ""), ("@author", "é\r,"), ("@created", "-"),
          ("@param", "x OUT * - - y")]
        ++ "\n/** @summary other */")
      = some { summary := "* @tag x", description := "a - b", author := "é\r,", created := "-"
               returnValue := "/", tags := ["", "@package"], deprecated := true
               parameters := [{ name := "-", direction := "INOUT", type := "a-b" },
                 { name := "x", direction := "OUT", type := "*", description := "- y" }] } :=
  ofSource?_block (by decide +kernel) (by decide +kernel) (by decide +kernel) _

end DocComment

end KbDocs
