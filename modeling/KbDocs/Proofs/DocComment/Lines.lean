/-
What the lines of a block say, tag by tag.

Reading goes on line by line and does something else for every tag. What
comes of it can be said without any order among lines of different tags
(`Tells`): a text is the value of the last line with its tag, a list is
made of the values of all such lines, and a block is marked as deprecated
by a single one. A line is tagged with all that stands before its first
space, so a longer word that begins like a tag is another tag.

`tells_foldl` states this of any lines at all; the induction over the
lines is that of `foldl_addLine`, which has brought them into the form of
values. `ofSource?_tells` then compares sources. Two blocks with the same
lines of each tag say the same, whatever other lines are in them and
however the lines of different tags are mixed.
-/
import KbDocs.Proofs.DocComment.RoundTrip

namespace KbDocs

open KbDocs.Text

namespace DocBlock

-- ========================================================= the lines

/-- Cleaning a line does not put anything into it. -/
theorem mem_of_mem_cleanLine {line : List Char} {c : Char} (h : c ∈ cleanLine line) :
    c ∈ line := by
  unfold cleanLine at h
  split at h
  case h_1 rest hrest =>
    refine mem_of_mem_trim ?_
    rw [hrest]
    exact List.mem_cons_of_mem '*' (mem_of_mem_trim h)
  case h_2 => exact mem_of_mem_trim h

/-- The cleaned lines are the lines of the cleaned text. -/
theorem lines_text {source : String} (h : text source ≠ "") :
    lines (text source).toList = cleanLines source.toList := by
  unfold text at h ⊢
  rw [String.toList_ofList]
  refine pieces_join ?_ ?_
  · intro hnil
    rw [hnil] at h
    exact h rfl
  · intro line hline hbreak
    unfold cleanLines at hline
    split at hline
    case h_1 => cases hline
    case h_2 inside _ =>
      obtain ⟨row, hrow, rfl⟩ := List.mem_map.mp hline
      exact not_mem_of_mem_pieces row hrow (mem_of_mem_cleanLine hbreak)

/-- A text of a block is empty only without a line or with an empty
one. -/
theorem text_eq_empty_iff {source : String} :
    text source = "" ↔ cleanLines source.toList = [] ∨ cleanLines source.toList = [[]] := by
  rw [← join_eq_nil_iff (show ['\n'] ≠ [] by decide), text, ← String.toList_eq_nil_iff,
    String.toList_ofList]

/-- Whether a text is empty does not depend on the order of the lines. -/
theorem text_eq_empty_of_perm {source other : String}
    (hlines : (cleanLines other.toList).Perm (cleanLines source.toList))
    (h : text other = "") : text source = "" := by
  rw [text_eq_empty_iff] at h ⊢
  rcases h with hnil | hempty
  · rw [hnil] at hlines
    exact Or.inl (List.nil_perm.mp hlines)
  · rw [hempty] at hlines
    exact Or.inr (List.singleton_perm.mp hlines).symm

end DocBlock

namespace DocComment

open DocBlock

/-- A line whose text up to the first space is a tag. -/
def Tagged (tag : String) (line : List Char) : Prop :=
  line.takeWhile (fun c => decide (c ≠ ' ')) = tag.toList

instance (tag : String) : DecidablePred (Tagged tag) :=
  fun line => inferInstanceAs
    (Decidable (line.takeWhile (fun c => decide (c ≠ ' ')) = tag.toList))

/-- What stands behind the first space of a line, trimmed. -/
def valueOf (line : List Char) : String :=
  String.ofList (trim ((line.dropWhile fun c => decide (c ≠ ' ')).drop 1))

theorem readTag_snd (line : List Char) : (readTag line).2 = valueOf line := by
  rw [readTag, cutAt_snd_getD]
  rfl

theorem readTag_fst_iff {line : List Char} {tag : String} :
    (readTag line).1 = tag ↔ Tagged tag line := by
  rw [readTag, cutAt_fst, Tagged, ← String.toList_inj, String.toList_ofList]

/-- The values of a tag are those of the lines that have it. -/
theorem valuesOf_readTag (tag : String) (lines : List (List Char)) :
    valuesOf tag (lines.map readTag) = (lines.filter (Tagged tag)).map valueOf := by
  rw [valuesOf, List.filter_map, List.map_map]
  have hfilter : lines.filter ((fun t : String × String => t.1 == tag) ∘ readTag)
      = lines.filter (Tagged tag) := by
    refine List.filter_congr fun line _ => ?_
    rw [Bool.eq_iff_iff, Function.comp_apply, beq_iff_eq, readTag_fst_iff, decide_eq_true_eq]
  rw [hfilter]
  exact List.map_congr_left fun line _ => readTag_snd line

-- ====================================================== what they tell

/-- The value of the last line with a tag, empty if no line has it. -/
def LastValue (tag : String) (lines : List (List Char)) (value : String) : Prop :=
  (∃ before line after, lines = before ++ line :: after ∧ Tagged tag line
      ∧ (∀ l ∈ after, ¬ Tagged tag l) ∧ value = valueOf line)
    ∨ (∀ l ∈ lines, ¬ Tagged tag l) ∧ value = ""

/-- What lines say of a documentation, field by field. -/
structure Tells (lines : List (List Char)) (d : DocComment) : Prop where
  package : LastValue "@package" lines d.package
  summary : LastValue "@summary" lines d.summary
  description : LastValue "@description" lines d.description
  author : LastValue "@author" lines d.author
  created : LastValue "@created" lines d.created
  returnValue : LastValue "@return" lines d.returnValue
  tags : d.tags = (lines.filter (Tagged "@tag")).map valueOf
  parameters : d.parameters
    = ((lines.filter (Tagged "@param")).map valueOf).filterMap Parameter.ofTag?
  deprecated : d.deprecated = true ↔ ∃ line ∈ lines, Tagged "@deprecated" line
  deprecationNote : LastValue "@deprecated" lines d.deprecationNote
  authored : d.autoGenerated = false

/-- The last of the values of a tag. -/
theorem lastValue_getLastD (tag : String) (lines : List (List Char)) :
    LastValue tag lines (((lines.filter (Tagged tag)).map valueOf).getLastD "") := by
  induction lines using List.reverseRecOn with
  | nil => exact Or.inr ⟨fun l hl => absurd hl List.not_mem_nil, rfl⟩
  | append_singleton lines line ih =>
      rw [List.filter_append]
      by_cases htag : Tagged tag line
      · refine Or.inl ⟨lines, line, [], rfl, htag, fun l hl => absurd hl List.not_mem_nil, ?_⟩
        rw [List.filter_cons_of_pos (by simpa using htag)]
        simp
      · rw [List.filter_cons_of_neg (by simpa using htag), List.filter_nil, List.append_nil]
        -- the line stays behind the last one that counts
        rcases ih with ⟨before, last, after, hsplit, hlast, hafter, hvalue⟩ | ⟨hnone, hvalue⟩
        · refine Or.inl ⟨before, last, after ++ [line], by rw [hsplit]; simp, hlast, ?_, hvalue⟩
          intro l hl
          rcases List.mem_append.mp hl with hl | hl
          · exact hafter l hl
          · rw [List.mem_singleton.mp hl]
            exact htag
        · refine Or.inr ⟨?_, hvalue⟩
          intro l hl
          rcases List.mem_append.mp hl with hl | hl
          · exact hnone l hl
          · rw [List.mem_singleton.mp hl]
            exact htag

/-- Reading lines gives what they tell. -/
theorem tells_foldl (lines : List (List Char)) : Tells lines (lines.foldl addLine {}) := by
  rw [foldl_addLine]
  have hlast : ∀ tag, LastValue tag lines ((valuesOf tag (lines.map readTag)).getLastD "") := by
    intro tag
    rw [valuesOf_readTag]
    exact lastValue_getLastD tag lines
  refine ⟨hlast _, hlast _, hlast _, hlast _, hlast _, hlast _, valuesOf_readTag _ _, ?_, ?_,
    hlast _, rfl⟩
  · rw [← valuesOf_readTag]
    rfl
  · show (!(valuesOf "@deprecated" (lines.map readTag)).isEmpty) = true ↔ _
    rw [valuesOf_readTag]
    simp

/-- Only the lines of each known tag count. -/
theorem foldl_addLine_congr {lines lines' : List (List Char)}
    (h : ∀ tag ∈ tagNames, lines'.filter (Tagged tag) = lines.filter (Tagged tag)) :
    lines'.foldl addLine {} = lines.foldl addLine {} := by
  have hvalues : ∀ tag ∈ tagNames,
      valuesOf tag (lines'.map readTag) = valuesOf tag (lines.map readTag) := by
    intro tag htag
    rw [valuesOf_readTag, valuesOf_readTag, h tag htag]
  simp only [tagNames, List.forall_mem_cons] at hvalues
  obtain ⟨h1, h2, h3, h4, h5, h6, h7, h8, h9, -⟩ := hvalues
  rw [foldl_addLine, foldl_addLine]
  simp only [ofValues, h1, h2, h3, h4, h5, h6, h7, h8, h9]

theorem ofSource?_eq_some_iff {source : String} {d : DocComment} :
    ofSource? source = some d
      ↔ DocBlock.text source ≠ "" ∧ d = (cleanLines source.toList).foldl addLine {} := by
  unfold ofSource?
  split
  case isTrue hempty => simp [hempty]
  case isFalse hne => simp [hne, eq_comm]

/-- The documentation in a source says what the cleaned lines of its block
tell. Sources whose blocks have the same lines of each known tag say the
same if they say anything; and they do say something if the one is the
other with its lines in another order. -/
theorem ofSource?_tells {source : String} {d : DocComment} (h : ofSource? source = some d) :
    lines (DocBlock.text source).toList = cleanLines source.toList
    ∧ Tells (cleanLines source.toList) d
    ∧ ∀ other : String,
      (∀ tag ∈ tagNames, (cleanLines other.toList).filter (Tagged tag)
          = (cleanLines source.toList).filter (Tagged tag)) →
      (∀ e, ofSource? other = some e → e = d)
      ∧ ((cleanLines other.toList).Perm (cleanLines source.toList) →
        ofSource? other = some d) := by
  obtain ⟨htext, rfl⟩ := ofSource?_eq_some_iff.mp h
  refine ⟨lines_text htext, tells_foldl _, ?_⟩
  intro other hsame
  have hfold := foldl_addLine_congr hsame
  constructor
  · intro e he
    rw [(ofSource?_eq_some_iff.mp he).2, hfold]
  · intro hperm
    refine ofSource?_eq_some_iff.mpr ⟨?_, hfold.symm⟩
    intro hempty
    exact htext (text_eq_empty_of_perm hperm hempty)

/-- A block with words that begin like a tag, a parameter without a type,
and a value that is overwritten. -/
def mixedSource : String :=
  "/**@tags -\n * @summary a\n@tag 1\n@param p\n@deprecated\n@summary b \n@tag 2*/"

/-- Such lines tell nothing, and the others may change places with them. -/
theorem ofSource?_tells_mixed :
    ofSource? mixedSource = some { summary := "b", tags := ["1", "2"], deprecated := true }
      ∧ ofSource?
          "/**@deprecated\n @tag 1\n@summary a\n@param p\n@tags -\n@tag 2\n*@summary b*/"
        = some { summary := "b", tags := ["1", "2"], deprecated := true } := by
  have hread : ofSource? mixedSource
      = some { summary := "b", tags := ["1", "2"], deprecated := true } := by
    decide +kernel
  refine ⟨hread, ?_⟩
  exact ((ofSource?_tells hread).2.2 _ (by decide +kernel)).2 (by decide +kernel)

end DocComment

end KbDocs
