/-
Cutting text at separators: at every occurrence of a character
(`pieces`), or once at the first occurrence of a character or a phrase
(`cutAt`, `cutPhrase`). A separator that is missing is an ordinary
result, not a failure.
-/
namespace KbDocs.Text

/-- The stretches between occurrences of a separator; a text without it
is its own only piece, so there is always at least one. -/
def pieces (sep : Char) : List Char → List (List Char)
  | [] => [[]]
  | c :: r =>
      if c = sep then [] :: pieces sep r
      else
        match pieces sep r with
        | [] => [[c]]
        | p :: ps => (c :: p) :: ps

/-- The lines of a text, ended by line feeds only. -/
def lines (s : List Char) : List (List Char) :=
  pieces '\n' s

/-- Pieces put back together around a separator. -/
def join (sep : List Char) (parts : List (List Char)) : List Char :=
  sep.intercalate parts

/-- The text before the first occurrence of a character, and the text
after it when it occurs. -/
def cutAt (sep : Char) : List Char → List Char × Option (List Char)
  | [] => ([], none)
  | c :: r =>
      if c = sep then ([], some r)
      else
        let cut := cutAt sep r
        (c :: cut.1, cut.2)

/-- The part before a separator is no longer than the text. -/
theorem length_cutAt_fst_le (sep : Char) (s : List Char) :
    (cutAt sep s).1.length ≤ s.length := by
  induction s with
  | nil => simp [cutAt]
  | cons c r ih =>
      rw [cutAt]
      split
      · simp
      · simpa using ih

/-- The part after a separator is shorter than the text. -/
theorem length_lt_of_cutAt_snd {sep : Char} {s t : List Char}
    (h : (cutAt sep s).2 = some t) : t.length < s.length := by
  induction s with
  | nil => simp [cutAt] at h
  | cons c r ih =>
      rw [cutAt] at h
      split at h
      · simp only [Option.some.injEq] at h
        simp [h]
      · have := ih h
        simp only [List.length_cons]
        omega

/-- The text before the first occurrence of a phrase, and the text after
it when it occurs. -/
def cutPhrase (phrase : List Char) : List Char → List Char × Option (List Char)
  | [] => if phrase.isEmpty then ([], some []) else ([], none)
  | c :: r =>
      if phrase.isPrefixOf (c :: r) then
        ([], some ((c :: r).drop phrase.length))
      else
        let cut := cutPhrase phrase r
        (c :: cut.1, cut.2)

/-- Strings put together around a separator. -/
def joinStrings (sep : String) (parts : List String) : String :=
  String.ofList (join sep.toList (parts.map String.toList))

end KbDocs.Text
