import VaultKern.Lib.OrderedMap

/-! # XML trees

Elements with attributes and mixed children, and what reading a written tree does to it.
A reader gives the elements back in order with their names and attributes. What it makes
of a text is up to the reader, which may drop blank text or change line ends.
-/

inductive XMLNode (E : Type) where
  | element (element : E)
  | text (text : String)
  | cData (text : String)
  | comment (text : String)
  | processingInstruction (target : String) (value : Option String)

inductive Element where
  | mk (name : String) (attributes : BTreeMap String String) (children : List (XMLNode Element))

namespace XMLNode

def asElement {E : Type} : XMLNode E → Option E
  | .element e => some e
  | _ => none

/-- The characters of a text node. -/
def asText {E : Type} : XMLNode E → Option String
  | .text s => some s
  | .cData s => some s
  | _ => none

end XMLNode

namespace Element

def name : Element → String
  | ⟨name, _, _⟩ => name

def attributes : Element → BTreeMap String String
  | ⟨_, attributes, _⟩ => attributes

def children : Element → List (XMLNode Element)
  | ⟨_, _, children⟩ => children

/-- The children that are elements. -/
def elements (element : Element) : List Element := element.children.filterMap XMLNode.asElement

def childOptional (element : Element) (name : String) : Option Element :=
  element.elements.find? fun child => child.name = name

/-- The text of the text nodes, if there is one. -/
def getText (element : Element) : Option String :=
  match element.children.filterMap XMLNode.asText with
  | [] => none
  | texts => some (String.join texts)

/-- Child elements and nothing else. -/
def ofElements (name : String) (children : List Element) : Element :=
  ⟨name, ∅, children.map .element⟩

def ofText (name text : String) : Element := ⟨name, ∅, [.text text]⟩

@[simp] theorem name_mk (name : String) (attributes : BTreeMap String String) (children : List (XMLNode Element)) :
    (Element.mk name attributes children).name = name := rfl

@[simp] theorem attributes_mk (name : String) (attributes : BTreeMap String String)
    (children : List (XMLNode Element)) : (Element.mk name attributes children).attributes = attributes := rfl

@[simp] theorem children_mk (name : String) (attributes : BTreeMap String String)
    (children : List (XMLNode Element)) : (Element.mk name attributes children).children = children := rfl

@[simp] theorem name_ofText (name text : String) : (ofText name text).name = name := rfl

@[simp] theorem name_ofElements (name : String) (children : List Element) : (ofElements name children).name = name := rfl

@[simp] theorem elements_ofText (name text : String) : (ofText name text).elements = [] := rfl

@[simp] theorem getText_ofText (name text : String) : (ofText name text).getText = some text := by
  simp [getText, ofText, XMLNode.asText, String.join]

theorem filterMap_asElement (children : List Element) :
    (children.map XMLNode.element).filterMap XMLNode.asElement = children := by
  induction children with
  | nil => rfl
  | cons child rest ih => simpa [XMLNode.asElement] using ih

@[simp] theorem elements_ofElements (name : String) (children : List Element) :
    (ofElements name children).elements = children :=
  filterMap_asElement children

theorem childOptional_ofElements (name child : String) (children : List Element) :
    (ofElements name children).childOptional child = children.find? fun c => c.name = child := by
  rw [childOptional, elements_ofElements]

theorem sizeOf_lt_of_mem {element child : Element} (member : child ∈ element.elements) :
    sizeOf child < sizeOf element := by
  obtain ⟨name, attributes, children⟩ := element
  obtain ⟨node, inside, own⟩ := List.mem_filterMap.mp member
  cases node with
  | element e =>
      cases own
      have step := List.sizeOf_lt_of_mem inside
      simp only [XMLNode.element.sizeOf_spec] at step
      simp only [children_mk] at step
      simp only [Element.mk.sizeOf_spec]
      omega
  | text _ => cases own
  | cData _ => cases own
  | comment _ => cases own
  | processingInstruction _ _ => cases own

end Element

/-! ## Reading -/

/-- `read` is what a reader of XML gives for the written tree. `readText` is what it makes of
    an element that holds one text. Elements that are `kept` come back as they are. -/
inductive Reread (readText : String → Option String) (kept : Element → Prop) : Element → Element → Prop where
  | mk {element read : Element} (name : read.name = element.name) (attributes : read.attributes = element.attributes)
      (elements : List.Forall₂ (Reread readText kept) element.elements read.elements)
      (text : ∀ text, element.children = [.text text] → read.getText = readText text)
      (empty : element.children = [] → read.getText = none)
      (same : kept element → read = element) : Reread readText kept element read

namespace Reread

variable {readText : String → Option String} {kept : Element → Prop} {element read : Element}

theorem name (reread : Reread readText kept element read) : read.name = element.name := by
  cases reread
  assumption

theorem attributes (reread : Reread readText kept element read) : read.attributes = element.attributes := by
  cases reread
  assumption

theorem elements (reread : Reread readText kept element read) :
    List.Forall₂ (Reread readText kept) element.elements read.elements := by
  cases reread
  assumption

theorem text {text : String} (reread : Reread readText kept element read) (one : element.children = [.text text]) :
    read.getText = readText text := by
  cases reread with
  | mk _ _ _ own _ _ => exact own text one

/-- The first child of a name is found at the same place. -/
theorem find {children reads : List Element} (pairs : List.Forall₂ (Reread readText kept) children reads)
    (label : String) :
    Option.Rel (Reread readText kept) (children.find? fun c => c.name = label) (reads.find? fun c => c.name = label) := by
  induction pairs with
  | nil => exact .none
  | cons first _ ih =>
      rw [List.find?_cons, List.find?_cons, first.name]
      split
      · exact .some first
      · exact ih

theorem childOptional (reread : Reread readText kept element read) (label : String) :
    Option.Rel (Reread readText kept) (element.childOptional label) (read.childOptional label) :=
  find reread.elements label

theorem child_some (reread : Reread readText kept element read) {label : String} {child : Element}
    (found : element.childOptional label = some child) :
    ∃ child', read.childOptional label = some child' ∧ Reread readText kept child child' := by
  have pair := reread.childOptional label
  rw [found] at pair
  generalize read.childOptional label = other at pair
  cases pair with
  | some here => exact ⟨_, rfl, here⟩

end Reread

/-! ## Documents -/

/-- The functions of an XML library: a document is bytes. -/
structure XmlLibrary where
  parse : List UInt8 → Except String Element
  write : Element → Except String (List UInt8)

/-! ## Readers that drop texts -/

mutual
/-- The tree without the texts that a reader drops. -/
def Element.without (drops : String → Bool) : Element → Element
  | ⟨name, attributes, children⟩ => ⟨name, attributes, nodesWithout drops children⟩

def nodesWithout (drops : String → Bool) : List (XMLNode Element) → List (XMLNode Element)
  | [] => []
  | .element child :: rest => .element (child.without drops) :: nodesWithout drops rest
  | .text text :: rest => if drops text then nodesWithout drops rest else .text text :: nodesWithout drops rest
  | node :: rest => node :: nodesWithout drops rest
end

section Drops

variable (drops : String → Bool)

/-- What is left of a text. -/
def textWithout (text : String) : Option String := if drops text then none else some text

theorem nodesWithout_elements : ∀ nodes : List (XMLNode Element),
    (nodesWithout drops nodes).filterMap XMLNode.asElement =
      (nodes.filterMap XMLNode.asElement).map (Element.without drops)
  | [] => rfl
  | .element child :: rest => congrArg (child.without drops :: ·) (nodesWithout_elements rest)
  | .text text :: rest => by
      have later := nodesWithout_elements rest
      rw [nodesWithout]
      split
      · exact later
      · exact later
  | .cData _ :: rest => nodesWithout_elements rest
  | .comment _ :: rest => nodesWithout_elements rest
  | .processingInstruction _ _ :: rest => nodesWithout_elements rest

theorem Element.elements_without : ∀ element : Element,
    (element.without drops).elements = element.elements.map (Element.without drops)
  | ⟨_, _, children⟩ => nodesWithout_elements drops children

/-- Dropping texts is one way to read a tree. -/
theorem Element.without_reread (element : Element) :
    Reread (textWithout drops) (fun e => e.without drops = e) element (element.without drops) := by
  refine ⟨?_, ?_, ?_, fun text one => ?_, fun none => ?_, fun same => same⟩
  · cases element
    rfl
  · cases element
    rfl
  · rw [Element.elements_without, List.forall₂_map_right_iff, List.forall₂_same]
    exact fun child _ => Element.without_reread child
  · obtain ⟨name, attributes, children⟩ := element
    cases one
    by_cases dropped : drops text = true
    · simp [Element.without, nodesWithout, Element.getText, textWithout, dropped]
    · simp [Element.without, nodesWithout, Element.getText, textWithout, dropped, XMLNode.asText, String.join]
  · obtain ⟨name, attributes, children⟩ := element
    cases none
    rfl
termination_by sizeOf element
decreasing_by exact Element.sizeOf_lt_of_mem (by assumption)

mutual
/-- Equal trees of elements and texts. -/
def Element.same : Element → Element → Bool
  | ⟨name, attributes, children⟩, ⟨name', attributes', children'⟩ =>
      name = name' && attributes = attributes' && sameNodes children children'

def sameNodes : List (XMLNode Element) → List (XMLNode Element) → Bool
  | [], [] => true
  | .element child :: rest, .element child' :: rest' => child.same child' && sameNodes rest rest'
  | .text text :: rest, .text text' :: rest' => text = text' && sameNodes rest rest'
  | _, _ => false
end

mutual
theorem Element.same_eq : ∀ {first second : Element}, first.same second = true → first = second
  | ⟨name, attributes, children⟩, ⟨name', attributes', children'⟩, equal => by
      simp only [Element.same, Bool.and_eq_true, decide_eq_true_eq] at equal
      rw [equal.1.1, equal.1.2, sameNodes_eq equal.2]

theorem sameNodes_eq : ∀ {first second : List (XMLNode Element)}, sameNodes first second = true → first = second
  | [], [], _ => rfl
  | .element child :: rest, .element child' :: rest', equal => by
      rw [sameNodes, Bool.and_eq_true] at equal
      rw [Element.same_eq equal.1, sameNodes_eq equal.2]
  | .text text :: rest, .text text' :: rest', equal => by
      rw [sameNodes, Bool.and_eq_true, decide_eq_true_eq] at equal
      rw [equal.1, sameNodes_eq equal.2]
end

/-- A library that knows one document and its text, and drops texts of one kind. -/
def XmlLibrary.ofOne (document : Element) (bytes : List UInt8) : XmlLibrary where
  parse given := if given = bytes then .ok (document.without drops) else .error "unknown text"
  write element := if element.same document then .ok bytes else .error "unknown element"

theorem XmlLibrary.ofOne_write {document element : Element} {bytes given : List UInt8}
    (wrote : (XmlLibrary.ofOne drops document bytes).write element = .ok given) :
    given = bytes ∧ (XmlLibrary.ofOne drops document bytes).parse given = .ok (element.without drops) := by
  unfold XmlLibrary.ofOne at wrote ⊢
  dsimp only at wrote ⊢
  split at wrote
  next equal =>
    cases wrote
    exact ⟨rfl, by rw [if_pos rfl, Element.same_eq equal]⟩
  next => cases wrote

end Drops
