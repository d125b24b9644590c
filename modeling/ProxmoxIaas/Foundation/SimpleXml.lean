import ProxmoxIaas.Foundation.FirstMatch
import Mathlib.Data.List.Nodup

/-!
# XML as SimpleXML Edits It

Trees of elements, texts and comments, and how the properties of an element are read and assigned: a
property is the first child with its name. An assignment adds a missing child and replaces what is
in a single one; several children with the name are left alone. Texts between elements that are
blank are no part of the tree.

## Main results

- `Xml.children_assign`: the children after an assignment.
- `Xml.assignAll_assignAll`: assignments of different properties that are repeated change nothing.
- `Xml.property_assignAll`: what is read after them.
- `Xml.hasFields_assignAll`: the values of an element's properties after them.
-/

/-- A node of a tree. -/
inductive Xml where
  /-- A text. -/
  | text (value : String)
  /-- A comment. -/
  | comment (value : String)
  /-- An element with its attributes and what is in it. -/
  | element (name : String) (attributes : List (String × String)) (content : List Xml)

namespace Xml

/-- Whether a node is an element with a name. -/
def isElement (name : String) : Xml → Bool
  | .element name' _ _ => name' = name
  | .text _ | .comment _ => false

/-- Whether a node is an element. -/
def isNamed : Xml → Bool
  | .element _ _ _ => true
  | .text _ | .comment _ => false

/-- What is in an element. -/
def content : Xml → List Xml
  | .element _ _ content => content
  | .text _ | .comment _ => []

/-- Edit what is in an element. -/
def mapContent (f : List Xml → List Xml) : Xml → Xml
  | .element name attributes content => .element name attributes (f content)
  | node => node

/-- The value of a text. -/
def value? : Xml → Option String
  | .text value => some value
  | .comment _ | .element _ _ _ => none

/-- A node as a text: the texts in it, but not those of its elements. -/
def toText (node : Xml) : String := String.join (node.content.filterMap value?)

/-- The children with a name. -/
def children (name : String) (node : Xml) : List Xml := node.content.filter (isElement name)

/-- A property as a text; one that is missing is empty. -/
def property (name : String) (node : Xml) : String :=
  ((node.children name).head?.map toText).getD ""

/-- What is in an element with a value. -/
def textContent (value : String) : List Xml := if value = "" then [] else [.text value]

/-- Add a child with a value. -/
def addChild (name value : String) (node : Xml) : Xml :=
  node.mapContent (· ++ [.element name [] (textContent value)])

/-- Replace what is in an element by a value. -/
def setText (value : String) (node : Xml) : Xml := node.mapContent fun _ => textContent value

/-- Assign a property. An assignment to several children is refused with a warning. -/
def assign (name value : String) (node : Xml) : Xml :=
  match node.children name with
  | [] => node.addChild name value
  | [_] => node.mapContent (FirstMatch.modify (isElement name) (setText value))
  | _ => node

/-- Add a child with a value, or assign the property if there is one. -/
def setChild (name value : String) (node : Xml) : Xml :=
  if (node.children name).isEmpty then node.addChild name value else node.assign name value

/-- Assign properties one after the other. -/
def assignAll (fields : List (String × String)) (node : Xml) : Xml :=
  fields.foldl (fun node field => node.assign field.1 field.2) node

section Assign

variable {node : Xml} {name name' value value' : String}

/-- Only elements have something in them. -/
theorem mapContent_of_isNamed_eq_false (h : node.isNamed = false) (f : List Xml → List Xml) :
    node.mapContent f = node := by
  cases node with
  | text value => rfl
  | comment value => rfl
  | element name attributes content => cases h

/-- What is in an element after an edit. -/
theorem content_mapContent (h : node.isNamed = true) (f : List Xml → List Xml) :
    (node.mapContent f).content = f node.content := by
  cases node with
  | text value => cases h
  | comment value => cases h
  | element name attributes content => rfl

/-- An edit of what is in an element keeps its name. -/
@[simp]
theorem isElement_mapContent (f : List Xml → List Xml) :
    (node.mapContent f).isElement name = node.isElement name := by
  cases node <;> rfl

/-- An edit of what is in an element keeps that it is one. -/
@[simp]
theorem isNamed_mapContent (f : List Xml → List Xml) :
    (node.mapContent f).isNamed = node.isNamed := by
  cases node <;> rfl

/-- Elements have one name. -/
theorem isElement_eq_false (hne : name ≠ name') (h : node.isElement name = true) :
    node.isElement name' = false := by
  cases node with
  | text value => rfl
  | comment value => rfl
  | element other attributes content =>
    obtain rfl : other = name := of_decide_eq_true h
    exact decide_eq_false hne

/-- An element with a name is an element. -/
theorem isNamed_of_isElement (h : node.isElement name = true) : node.isNamed = true := by
  cases node with
  | text value => cases h
  | comment value => cases h
  | element other attributes content => rfl

/-- A text of one value is the value. -/
theorem toText_setText (h : node.isNamed = true) : (node.setText value).toText = value := by
  rw [toText, setText, content_mapContent h, textContent]
  split
  case isTrue hempty => rw [hempty]; rfl
  case isFalse => simp [value?]

/-- An assignment keeps the name of the element. -/
@[simp]
theorem isElement_assign : (node.assign name value).isElement name' = node.isElement name' := by
  rw [assign]
  split
  case h_1 => exact isElement_mapContent _
  case h_2 => exact isElement_mapContent _
  case h_3 => rfl

/-- An assignment keeps that a node is an element. -/
@[simp]
theorem isNamed_assign : (node.assign name value).isNamed = node.isNamed := by
  rw [assign]
  split
  case h_1 => exact isNamed_mapContent _
  case h_2 => exact isNamed_mapContent _
  case h_3 => rfl

/-- The children after an edit of what is in an element. -/
theorem children_mapContent (h : node.isNamed = true) (f : List Xml → List Xml) :
    (node.mapContent f).children name = (f node.content).filter (isElement name) := by
  rw [children, content_mapContent h]

/-- The children with the name of a property after an assignment. -/
theorem children_assign_self (h : node.isNamed = true) :
    (node.assign name value).children name =
      match node.children name with
      | [] => [.element name [] (textContent value)]
      | [child] => [child.setText value]
      | children => children := by
  rw [assign]
  match hchildren : node.children name with
  | [] =>
    have hnew : isElement name (.element name [] (textContent value)) = true := decide_eq_true rfl
    rw [addChild, children_mapContent h, List.filter_append, ← children, hchildren,
      List.filter_cons_of_pos hnew]
    rfl
  | [child] =>
    rw [children_mapContent h,
      FirstMatch.filter_modify_self (f := setText value) fun a ha => (isElement_mapContent _).trans ha,
      ← children, hchildren]
    rfl
  | first :: second :: rest => exact hchildren

/-- The children with other names are as before. -/
theorem children_assign_of_ne (hne : name ≠ name') :
    (node.assign name value).children name' = node.children name' := by
  cases hnamed : node.isNamed with
  | false =>
    rw [assign]
    split
    case h_1 => rw [addChild, mapContent_of_isNamed_eq_false hnamed]
    case h_2 => rw [mapContent_of_isNamed_eq_false hnamed]
    case h_3 => rfl
  | true =>
    rw [assign]
    split
    case h_1 =>
      have hnew : ¬ isElement name' (.element name [] (textContent value)) = true := fun h =>
        hne (of_decide_eq_true h)
      rw [addChild, children_mapContent hnamed, List.filter_append, List.filter_cons_of_neg hnew,
        List.filter_nil, List.append_nil, children]
    case h_2 =>
      rw [children_mapContent hnamed, FirstMatch.filter_modify_of_disjoint, children]
      · exact fun a ha => isElement_eq_false hne ha
      · exact fun a ha => isElement_eq_false hne ((isElement_mapContent _).trans ha)
    case h_3 => rfl

/-- An assignment is done if the property has the value, or several children have its name. -/
theorem assign_eq_self (h : (∃ child, node.children name = [child] ∧ child.setText value = child) ∨
    2 ≤ (node.children name).length) : node.assign name value = node := by
  rw [assign]
  rcases h with ⟨child, hchildren, hchild⟩ | hlength
  · rw [hchildren]
    show node.mapContent (FirstMatch.modify (isElement name) (setText value)) = node
    have hmodify : FirstMatch.modify (isElement name) (setText value) node.content =
        node.content := by
      refine FirstMatch.modify_eq_self fun a ha => ?_
      rw [← List.head?_filter, ← children, hchildren] at ha
      rw [← Option.some.inj ha, hchild]
    cases node with
    | text value => rfl
    | comment value => rfl
    | element other attributes content => exact congrArg (Xml.element other attributes) hmodify
  · match hchildren : node.children name with
    | [] => rw [hchildren] at hlength; cases hlength
    | [child] => rw [hchildren] at hlength; simp at hlength
    | first :: second :: rest => rfl

/-- The text of an element is replaced once. -/
theorem setText_setText (child : Xml) : (child.setText value).setText value = child.setText value := by
  cases child <;> rfl

/-- An assignment adds what is missing. -/
theorem setChild_eq_assign : node.setChild name value = node.assign name value := by
  rw [setChild]
  split
  case isTrue hempty => rw [assign, List.isEmpty_iff.mp hempty]
  case isFalse => rfl

/-- After an assignment it is done. -/
theorem children_assign_done (h : node.isNamed = true) (name value : String) :
    (∃ child, (node.assign name value).children name = [child] ∧ child.isNamed = true ∧
        child.setText value = child) ∨
      2 ≤ ((node.assign name value).children name).length ∧
        (node.assign name value).children name = node.children name := by
  rw [children_assign_self h]
  match hchildren : node.children name with
  | [] => exact Or.inl ⟨_, rfl, rfl, rfl⟩
  | [child] =>
    have hmem : child ∈ node.children name := hchildren ▸ List.mem_singleton_self child
    have hnamed := isNamed_of_isElement (List.of_mem_filter hmem)
    exact Or.inl ⟨_, rfl, (isNamed_mapContent _).trans hnamed, setText_setText child⟩
  | first :: second :: rest => exact Or.inr ⟨Nat.le_add_left 2 rest.length, rfl⟩

/-- A property after its assignment. -/
theorem property_assign_self (h : node.isNamed = true) :
    (node.assign name value).property name = value ∨
      (node.assign name value).property name = node.property name := by
  rcases children_assign_done h name value with
    ⟨child, hchildren, hchild, hdone⟩ | ⟨-, hchildren⟩
  · rw [property, hchildren, List.head?_cons, Option.map_some, Option.getD_some, ← hdone]
    exact Or.inl (toText_setText hchild)
  · rw [property, property, hchildren]
    exact Or.inr rfl

end Assign

section AssignAll

variable {node : Xml} {name value : String} {fields : List (String × String)}

/-- Assignments keep that a node is an element. -/
@[simp]
theorem isNamed_assignAll : (node.assignAll fields).isNamed = node.isNamed := by
  induction fields generalizing node with
  | nil => rfl
  | cons field fields ih => exact ih.trans isNamed_assign

/-- Assignments keep the name of the element. -/
@[simp]
theorem isElement_assignAll : (node.assignAll fields).isElement name = node.isElement name := by
  induction fields generalizing node with
  | nil => rfl
  | cons field fields ih => exact ih.trans isElement_assign

/-- The children with names that are not assigned are as before. -/
theorem children_assignAll_of_not_mem (h : name ∉ fields.map Prod.fst) :
    (node.assignAll fields).children name = node.children name := by
  induction fields generalizing node with
  | nil => rfl
  | cons field fields ih =>
    rw [List.map_cons, List.mem_cons, not_or] at h
    exact (ih h.2).trans (children_assign_of_ne fun heq => h.1 heq.symm)

/-- Of assignments of different properties, one is made to each. -/
theorem children_assignAll (h : node.isNamed = true) (hnodup : (fields.map Prod.fst).Nodup)
    (hmem : (name, value) ∈ fields) :
    (node.assignAll fields).children name = (node.assign name value).children name := by
  induction fields generalizing node with
  | nil => cases hmem
  | cons field fields ih =>
    rw [List.map_cons, List.nodup_cons] at hnodup
    rcases List.mem_cons.mp hmem with rfl | hmem
    · exact children_assignAll_of_not_mem hnodup.1
    · have hne : field.1 ≠ name := fun heq =>
        hnodup.1 (heq ▸ List.mem_map_of_mem (f := Prod.fst) hmem)
      have hnamed : (node.assign field.1 field.2).isNamed = true := isNamed_assign.trans h
      refine (ih hnamed hnodup.2 hmem).trans ?_
      rw [children_assign_self hnamed, children_assign_self h, children_assign_of_ne hne]

/-- A property after all assignments. -/
theorem property_assignAll (h : node.isNamed = true) (hnodup : (fields.map Prod.fst).Nodup)
    (hmem : (name, value) ∈ fields) :
    (node.assignAll fields).property name = value ∨
      (node.assignAll fields).property name = node.property name := by
  have hproperty : (node.assignAll fields).property name = (node.assign name value).property name := by
    rw [property, property, children_assignAll h hnodup hmem]
  rw [hproperty]
  exact property_assign_self h

/-- A property of an element without one after all assignments. -/
theorem property_assignAll_of_children_eq_nil (h : node.isNamed = true)
    (hnodup : (fields.map Prod.fst).Nodup) (hmem : (name, value) ∈ fields)
    (hnil : node.children name = []) : (node.assignAll fields).property name = value := by
  rw [property, children_assignAll h hnodup hmem, children_assign_self h, hnil]
  show ((Xml.element name [] []).setText value).toText = value
  exact toText_setText rfl

/-- Assignments that are repeated change nothing. -/
theorem assignAll_assignAll (hnodup : (fields.map Prod.fst).Nodup) :
    (node.assignAll fields).assignAll fields = node.assignAll fields := by
  have hself : ∀ (rest : List (String × String)) (done : Xml),
      (∀ field ∈ rest, done.assign field.1 field.2 = done) → done.assignAll rest = done := by
    intro rest done hdone
    induction rest with
    | nil => rfl
    | cons field rest ih =>
      obtain ⟨hfield, hrest⟩ := List.forall_mem_cons.mp hdone
      show (done.assign field.1 field.2).assignAll rest = done
      rw [hfield, ih hrest]
  refine hself fields _ fun field hfield => ?_
  cases hnamed : node.isNamed with
  | false =>
    have hsame : (node.assignAll fields).isNamed = false := isNamed_assignAll.trans hnamed
    rw [assign]
    split
    case h_1 => rw [addChild, mapContent_of_isNamed_eq_false hsame]
    case h_2 => rw [mapContent_of_isNamed_eq_false hsame]
    case h_3 => rfl
  | true =>
    refine assign_eq_self ?_
    rw [children_assignAll hnamed hnodup hfield]
    rcases children_assign_done hnamed field.1 field.2 with
      ⟨child, hchildren, -, hdone⟩ | ⟨hlength, -⟩
    · exact Or.inl ⟨child, hchildren, hdone⟩
    · exact Or.inr hlength

end AssignAll

section HasField

variable {node : Xml} {name value : String} {fields updates : List (String × String)}

/-- A property with a value, which an assignment replaces. -/
def HasField (node : Xml) (name value : String) : Prop :=
  (node.children name).length ≤ 1 ∧ node.property name = value

/-- The values of properties. -/
def HasFields (node : Xml) (fields : List (String × String)) : Prop :=
  ∀ field ∈ fields, node.HasField field.1 field.2

/-- A property after all assignments. -/
theorem hasField_assignAll (h : node.isNamed = true) (hnodup : (updates.map Prod.fst).Nodup)
    (hmem : (name, value) ∈ updates) (hsingle : (node.children name).length ≤ 1) :
    (node.assignAll updates).HasField name value := by
  have hchildren := children_assignAll h hnodup hmem
  rw [HasField, property, hchildren]
  rcases children_assign_done h name value with ⟨child, hchild, hnamed, hdone⟩ | ⟨hlength, hsame⟩
  · rw [hchild]
    refine ⟨Nat.le_refl 1, ?_⟩
    show child.toText = value
    rw [← hdone]
    exact toText_setText hnamed
  · rw [hsame] at hlength
    omega

/-- A property that is not assigned. -/
theorem HasField.assignAll (h : node.HasField name value) (hname : name ∉ updates.map Prod.fst) :
    (node.assignAll updates).HasField name value := by
  rw [HasField, property, children_assignAll_of_not_mem hname]
  exact h

/-- Properties after assignments to some of them. -/
theorem hasFields_assignAll {fields' : List (String × String)} (h : node.HasFields fields)
    (hnamed : node.isNamed = true) (hnodup : (updates.map Prod.fst).Nodup)
    (hsub : ∀ field ∈ fields', field ∈ updates ∧ field.1 ∈ fields.map Prod.fst ∨
      field ∈ fields ∧ field.1 ∉ updates.map Prod.fst) :
    (node.assignAll updates).HasFields fields' := by
  intro field hfield
  rcases hsub field hfield with ⟨hupdate, hname⟩ | ⟨hkept, hname⟩
  · obtain ⟨old, hold, heq⟩ := List.mem_map.mp hname
    exact hasField_assignAll hnamed hnodup hupdate (heq ▸ (h old hold).1)
  · exact (h field hkept).assignAll hname

end HasField

end Xml
