/-
The `parm` rule. The rules of a procedure are free text; the first
`parm(…)` in them, outside comment lines, lists the parameters as
`direction:&Name` separated by commas. Letter case is free, and so is
white space around the punctuation.

The call text of the signature is the text between the parentheses as
written, segments that declare no parameter included, with case and
spacing normalised. It is read off the rule independently of the
parameter list.
-/
import KbDocs.Signature.Basic
import KbDocs.Text.Blank

namespace KbDocs.ParmRule

open KbDocs.Text

-- ===================================================== keyword letters

/-- Whether a character is a letter of a keyword in any case. The
dotless and the dotted capital i count as an `i`. -/
def matchesLetter (letter c : Char) : Bool :=
  c == letter || c == letter.toUpper
    || (letter == 'i' && (c == 'ı' || c == 'İ'))

/-- A keyword at the head of a text in any case: the letters as they
stand there, and the text after them. -/
def keyword? : List Char → List Char → Option (List Char × List Char)
  | [], s => some ([], s)
  | _ :: _, [] => none
  | k :: ks, c :: r =>
      if matchesLetter k c then
        (keyword? ks r).map fun (word, rest) => (c :: word, rest)
      else none

/-- The direction keywords, no one of which is followed by white space
or a colon where a longer one still matches. -/
def directionWords : List (List Char) :=
  ["in".toList, "out".toList, "inout".toList]

/-- A direction keyword, optional white space and a colon at the head of
a text: the keyword as it stands there, and the text after the colon. -/
def directionHead? (s : List Char) : Option (List Char × List Char) :=
  directionWords.findSome? fun k =>
    match keyword? k s with
    | none => none
    | some (word, rest) =>
        match trimLeft rest with
        | ':' :: after => some (word, after)
        | _ => none

-- ================================================== finding the call

/-- How a comment line begins. -/
def lineComment : List Char :=
  "//".toList

/-- Whether a line is a comment line. -/
def isCommentLine (line : List Char) : Bool :=
  lineComment.isPrefixOf (trim line)

/-- The text without its comment lines. -/
def dropCommentLines (s : List Char) : List Char :=
  join ['\n'] ((lines s).filter fun line => !isCommentLine line)

/-- The text up to a closing parenthesis on the same line. -/
def upToParen : List Char → Option (List Char)
  | [] => none
  | c :: r =>
      if c = ')' then some []
      else if c = '\n' then none
      else (upToParen r).map (c :: ·)

/-- The argument text of a `parm` call that starts a text. -/
def callHead? (s : List Char) : Option (List Char) :=
  match keyword? "parm".toList s with
  | none => none
  | some (_, rest) =>
      match trimLeft rest with
      | '(' :: after => upToParen after
      | _ => none

/-- The argument text of the first `parm` call in a text. -/
def findCall? : List Char → Option (List Char)
  | [] => none
  | c :: r =>
      match callHead? (c :: r) with
      | some arguments => some arguments
      | none => findCall? r

-- =============================================== reading the arguments

/-- The parameter that a trimmed argument segment declares: a direction,
a colon, an ampersand and a name of at least one character. -/
def segmentParameter? (segment : List Char) : Option Parameter :=
  match directionHead? segment with
  | none => none
  | some (word, rest) =>
      match trimLeft rest with
      | '&' :: c :: name =>
          some { name := String.ofList (trim (c :: name))
                 direction := String.ofList (upper word) }
      | _ => none

/-- The parameters that an argument text declares, in order; segments of
another form declare none. -/
def argumentParameters (arguments : List Char) : List Parameter :=
  (pieces ',' arguments).filterMap fun segment => segmentParameter? (trim segment)

-- ============================================ normalising the call text

/-- Whether a word may begin after what was passed last. -/
def startsWord : Option Char → Bool
  | none => true
  | some c => !isWordChar c

/-- What follows a keyword is no longer than the text. -/
theorem keyword?_length {k s word rest : List Char}
    (h : keyword? k s = some (word, rest)) : rest.length ≤ s.length := by
  induction k generalizing s word rest with
  | nil => simp [keyword?] at h; simp [h.2]
  | cons a k ih =>
      cases s with
      | nil => simp [keyword?] at h
      | cons c r =>
          rw [keyword?] at h
          split at h
          · simp only [Option.map_eq_some_iff, Prod.mk.injEq, Prod.exists] at h
            obtain ⟨w, t, hw, -, rfl⟩ := h
            have := ih hw
            simp only [List.length_cons]
            omega
          · simp at h

/-- What follows a direction keyword and its colon is shorter than the
text. -/
theorem directionHead?_length {s word rest : List Char}
    (h : directionHead? s = some (word, rest)) : rest.length < s.length := by
  rw [directionHead?, List.findSome?_eq_some_iff] at h
  obtain ⟨-, k, -, -, hk, -⟩ := h
  split at hk
  · simp at hk
  · rename_i w t ht
    split at hk
    · rename_i after hafter
      simp only [Option.some.injEq, Prod.mk.injEq] at hk
      have hkey := keyword?_length ht
      have htrim := length_trimLeft_le t
      rw [hafter] at htrim
      simp only [List.length_cons] at htrim
      rw [← hk.2]
      omega
    · simp at hk

/-- Direction keywords in lower case, with the colon directly behind
them. A keyword starts a word; the character before the text is
`before`. -/
def lowerDirections (before : Option Char) (s : List Char) : List Char :=
  match s with
  | [] => []
  | c :: r =>
      match _h : (if startsWord before then directionHead? (c :: r) else none) with
      | some (word, rest) => lower word ++ ':' :: lowerDirections (some ':') rest
      | none => c :: lowerDirections (some c) r
termination_by s.length
decreasing_by
  · split at _h
    · have := directionHead?_length _h
      simpa using this
    · simp at _h
  · simp

/-- No white space between a colon and an ampersand. -/
def tightenColons : List Char → List Char
  | [] => []
  | c :: r =>
      if c = ':' then
        let tight := tightenColons r
        match trimLeft tight with
        | '&' :: rest => ':' :: '&' :: rest
        | _ => ':' :: tight
      else c :: tightenColons r

/-- Exactly one space after every comma. -/
def spaceCommas : List Char → List Char
  | [] => []
  | c :: r =>
      if c = ',' then ',' :: ' ' :: trimLeft (spaceCommas r)
      else c :: spaceCommas r

/-- The canonical spelling of a call. -/
def normalizeCall (s : List Char) : List Char :=
  trim (spaceCommas (tightenColons (lowerDirections none s)))

-- ========================================================== the rule

/-- The signature that the rules text of a procedure declares. There is
none without a `parm` rule, and none when the rule has arguments but no
segment of them declares a parameter. -/
def signature? (rules procedure : String) : Option Signature :=
  match findCall? (dropCommentLines rules.toList) with
  | none => none
  | some arguments =>
      if allBlank arguments then
        some { parameters := [], callText := canonicalCall procedure [] }
      else
        match argumentParameters arguments with
        | [] => none
        | p :: ps =>
            some { parameters := p :: ps
                   callText := String.ofList (normalizeCall
                     (procedure.toList ++ '(' :: arguments ++ [')']) ++ [';']) }

end KbDocs.ParmRule
