/-
What the lines of a documentation block say, all together.

A line is read as a tag and a value (`readTag`), and reading goes on line
by line. The outcome only depends on the values that each tag was given,
in order, and not on how the lines of different tags are mixed
(`foldl_addLine`): of a text the last value counts, of a list all do.
The induction adds one line at the end, where `addLine_ofValues` says
what becomes of the values of its tag.

`Parameter.ofTag?_cases` takes apart what a `@param` tag can say.
-/
import KbDocs.DocComment.Tag
import Mathlib.Data.List.Induction

namespace KbDocs

open KbDocs.Text

-- ======================================================= one parameter

/-- What a `@param` tag says: its first word is the name, and its second
one the direction or, being none, the type. -/
theorem Parameter.ofTag?_cases {value : String} {p : Parameter}
    (h : ofTag? value = some p) :
    ∃ name second rest, words (cutPhrase " - ".toList value.toList).1 = name :: second :: rest
      ∧ p.name = String.ofList name
      ∧ p.description
        = String.ofList (trim ((cutPhrase " - ".toList value.toList).2.getD []))
      ∧ (p.direction = String.ofList (upper second) ∧ p.direction ∈ directions
          ∧ p.type = String.ofList (rest.headD [])
        ∨ p.direction = "IN" ∧ p.type = String.ofList second) := by
  unfold ofTag? at h
  dsimp only at h
  split at h
  case h_2 => cases h
  case h_1 name second rest hwords =>
    refine ⟨name, second, rest, hwords, ?_⟩
    split at h
    case isTrue hdirection =>
      cases h
      exact ⟨rfl, rfl, Or.inl ⟨rfl, hdirection, rfl⟩⟩
    case isFalse =>
      cases h
      exact ⟨rfl, rfl, Or.inr ⟨rfl, rfl⟩⟩

namespace DocComment

-- ============================================================ the lines

/-- The tag of a line, up to its first space, and the value behind it. -/
def readTag (line : List Char) : String × String :=
  (String.ofList (cutAt ' ' line).1, String.ofList (trim ((cutAt ' ' line).2.getD [])))

/-- The values that a tag is given, in order. -/
def valuesOf (tag : String) (tags : List (String × String)) : List String :=
  (tags.filter (·.1 == tag)).map (·.2)

/-- The documentation that is told by the values of each tag. -/
def ofValues (values : String → List String) : DocComment where
  package := (values "@package").getLastD ""
  summary := (values "@summary").getLastD ""
  description := (values "@description").getLastD ""
  author := (values "@author").getLastD ""
  created := (values "@created").getLastD ""
  returnValue := (values "@return").getLastD ""
  tags := values "@tag"
  deprecated := !(values "@deprecated").isEmpty
  deprecationNote := (values "@deprecated").getLastD ""
  parameters := (values "@param").filterMap Parameter.ofTag?

/-- A line adds its value to those of its tag. -/
theorem addLine_ofValues (values : String → List String) (line : List Char) :
    addLine (ofValues values) line
      = ofValues fun tag => values tag ++ valuesOf tag [readTag line] := by
  have hvalues : ∀ tag, valuesOf tag [readTag line]
      = if (readTag line).1 == tag then [(readTag line).2] else [] := by
    intro tag
    rw [valuesOf, List.filter_cons]
    split <;> rfl
  simp only [hvalues]
  unfold addLine
  dsimp only
  -- a case for each tag, and one for lines that say nothing
  split
  case h_7 htag =>
    have htag' : (readTag line).1 = "@param" := htag
    split
    case h_1 p hp =>
      have hp' : Parameter.ofTag? (readTag line).2 = some p := hp
      simp [ofValues, htag', hp']
    case h_2 hp =>
      have hp' : Parameter.ofTag? (readTag line).2 = none := hp
      simp [ofValues, htag', hp']
  case h_10 h1 h2 h3 h4 h5 h6 h7 h8 h9 =>
    have hother : ∀ tag, ((readTag line).1 = tag → False) →
        ((readTag line).1 == tag) = false := fun tag htag => by simpa using htag
    simp only [ofValues, hother _ h1, hother _ h2, hother _ h3, hother _ h4, hother _ h5,
      hother _ h6, hother _ h7, hother _ h8, hother _ h9]
    simp
  all_goals
    rename_i htag
    have htag' : (readTag line).1 = _ := htag
    simp [ofValues, htag']
    rfl

/-- Reading line by line, only the values of each tag and their order
count. -/
theorem foldl_addLine (lines : List (List Char)) :
    lines.foldl addLine {} = ofValues fun tag => valuesOf tag (lines.map readTag) := by
  induction lines using List.reverseRecOn with
  | nil => rfl
  | append_singleton lines line ih =>
      rw [List.foldl_append, ih, List.foldl_cons, List.foldl_nil, addLine_ofValues]
      simp [valuesOf]

/-- The tags of the documentation block of a source. -/
def tagsOf (source : String) : List (String × String) :=
  (DocBlock.cleanLines source.toList).map readTag

/-- The documentation in a source is told by the tags of its block. -/
theorem eq_of_ofSource? {source : String} {d : DocComment}
    (h : ofSource? source = some d) : d = ofValues fun tag => valuesOf tag (tagsOf source) := by
  rw [ofSource?] at h
  split at h
  case isTrue => cases h
  case isFalse =>
    cases h
    exact foldl_addLine _

end DocComment

end KbDocs
