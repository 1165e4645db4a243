/-
White space in text. Trimming, splitting into words and every place
where a rule allows optional space share the one class `isBlank`, the
characters of the Unicode property White_Space together with the four
ASCII separators U+001C to U+001F.

Text is worked on as `List Char`; `String` is the type that records
carry, and the functions on it are one conversion away (`trimmed`).
-/
namespace KbDocs.Text

/-- The white space class. -/
def isBlank (c : Char) : Bool :=
  let n := c.toNat
  (9 ≤ n && n ≤ 13) || (28 ≤ n && n ≤ 32) || n == 0x85 || n == 0xA0
    || n == 0x1680 || (0x2000 ≤ n && n ≤ 0x200A) || n == 0x2028
    || n == 0x2029 || n == 0x202F || n == 0x205F || n == 0x3000

/-- The text after its leading white space. -/
def trimLeft (s : List Char) : List Char :=
  s.dropWhile isBlank

/-- The text before its trailing white space. -/
def trimRight : List Char → List Char
  | [] => []
  | c :: r =>
      match trimRight r with
      | [] => if isBlank c then [] else [c]
      | d :: t => c :: d :: t

/-- The text between its first and its last character that is not
white space. -/
def trim (s : List Char) : List Char :=
  trimRight (trimLeft s)

/-- Dropping leading white space never lengthens a text. -/
theorem length_trimLeft_le (s : List Char) : (trimLeft s).length ≤ s.length :=
  (List.dropWhile_sublist isBlank).length_le

/-- Dropping trailing white space never lengthens a text. -/
theorem length_trimRight_le (s : List Char) :
    (trimRight s).length ≤ s.length := by
  induction s with
  | nil => simp [trimRight]
  | cons c r ih =>
      rw [trimRight]
      split
      · split <;> simp
      · rename_i d t h
        rw [h] at ih
        simpa using ih

/-- Trimming never lengthens a text. -/
theorem length_trim_le (s : List Char) : (trim s).length ≤ s.length :=
  Nat.le_trans (length_trimRight_le _) (length_trimLeft_le s)

/-- Whether a text holds nothing but white space. -/
def allBlank (s : List Char) : Bool :=
  s.all isBlank

/-- A text with no white space at either end. -/
def Trimmed (s : List Char) : Prop :=
  trim s = s

instance (s : List Char) : Decidable (Trimmed s) :=
  inferInstanceAs (Decidable (trim s = s))

/-- Maximal runs without white space, scanning with the word under
construction. -/
def wordsFrom (word : List Char) : List Char → List (List Char)
  | [] => if word.isEmpty then [] else [word]
  | c :: r =>
      if isBlank c then
        if word.isEmpty then wordsFrom [] r else word :: wordsFrom [] r
      else wordsFrom (word ++ [c]) r

/-- The maximal runs of a text that hold no white space, in order. -/
def words (s : List Char) : List (List Char) :=
  wordsFrom [] s

/-- `trim` on strings. -/
def trimmed (s : String) : String :=
  String.ofList (trim s.toList)

end KbDocs.Text
