/-
Elements of an XML document and the questions that are asked of them:
children and descendants by tag, attributes, inner text. Not finding
anything is an ordinary answer.

Character data is kept with the element it follows: `text` stands before
the first child, and the `tail` of a child stands after it. Comments and
processing instructions leave no trace.
-/
import KbDocs.Text.Blank

namespace KbDocs.Xml

/-- An element with everything inside it, and the character data up to
the next tag after it. -/
inductive Element where
  | node (tag : String) (attributes : List (String × String)) (text : String)
      (children : List Element) (tail : String)

namespace Element

/-- An element with nothing in it, which answers every question as a
missing element would. -/
def empty : Element :=
  node "" [] "" [] ""

def tag : Element → String
  | node tag _ _ _ _ => tag

def attributes : Element → List (String × String)
  | node _ attributes _ _ _ => attributes

def text : Element → String
  | node _ _ text _ _ => text

def children : Element → List Element
  | node _ _ _ children _ => children

def tail : Element → String
  | node _ _ _ _ tail => tail

/-- The element with more character data after it. -/
def addTail (e : Element) (more : String) : Element :=
  match e with
  | node tag attributes text children tail =>
      node tag attributes text children (tail ++ more)

mutual

/-- All character data inside an element, in document order. -/
def innerText : Element → String
  | node _ _ text children _ => text ++ innerTextOf children

/-- All character data inside and after each of a list of elements. -/
def innerTextOf : List Element → String
  | [] => ""
  | c :: rest => c.innerText ++ c.tail ++ innerTextOf rest

end

mutual

/-- The elements below an element, in document order. -/
def descendants : Element → List Element
  | node _ _ _ children _ => withDescendants children

/-- The elements of a list, each with the elements below it. -/
def withDescendants : List Element → List Element
  | [] => []
  | c :: rest => c :: c.descendants ++ withDescendants rest

end

@[simp]
theorem innerText_node (tag : String) (attributes : List (String × String))
    (text : String) (children : List Element) (tail : String) :
    (node tag attributes text children tail).innerText
      = text ++ String.join (children.map fun c => c.innerText ++ c.tail) := by
  rw [innerText]
  congr 1
  induction children with
  | nil => rfl
  | cons c rest ih => rw [innerTextOf, ih, List.map_cons, String.join_cons]

@[simp]
theorem descendants_node (tag : String) (attributes : List (String × String))
    (text : String) (children : List Element) (tail : String) :
    (node tag attributes text children tail).descendants
      = children.flatMap fun c => c :: c.descendants := by
  rw [descendants]
  induction children with
  | nil => rfl
  | cons c rest ih => rw [withDescendants, ih, List.flatMap_cons]

/-- The children with a tag. -/
def childrenNamed (e : Element) (tag : String) : List Element :=
  e.children.filter (·.tag == tag)

/-- The descendants with a tag. -/
def descendantsNamed (e : Element) (tag : String) : List Element :=
  e.descendants.filter (·.tag == tag)

/-- An attribute as it stands. -/
def rawAttribute? (e : Element) (name : String) : Option String :=
  e.attributes.lookup name

/-- An attribute without white space at its ends. -/
def attribute? (e : Element) (name : String) : Option String :=
  (e.rawAttribute? name).map Text.trimmed

/-- An attribute without white space at its ends, empty if missing. -/
def attributeD (e : Element) (name : String) : String :=
  (e.attribute? name).getD ""

/-- The inner text without white space at its ends. -/
def trimmedText (e : Element) : String :=
  Text.trimmed e.innerText

/-- The trimmed inner text of the first child with a tag, empty if there
is none. -/
def childText (e : Element) (tag : String) : String :=
  ((e.childrenNamed tag).head?.map trimmedText).getD ""

end Element

end KbDocs.Xml
