/-!
# Dotted module names

A module name is one or more non-empty components joined by dots. `ModuleName` keeps that as part of
the type; `components` cuts a text at its dots, and a host's text, which need not be a module name, is
looked at through `topAndChild`.
-/

namespace HiddenImports

/-- A text cut at its dots. The empty text has one empty component. -/
def components (text : String) : List String :=
  (List.splitOn '.' text.toList).map String.ofList

/-- The text is a join of non-empty components. -/
def IsModuleName (text : String) : Prop :=
  ∀ part ∈ components text, part ≠ ""

instance (text : String) : Decidable (IsModuleName text) :=
  inferInstanceAs (Decidable (∀ part ∈ components text, part ≠ ""))

/-- A module name: non-empty components joined by dots. -/
structure ModuleName where
  text : String
  valid : IsModuleName text
  deriving DecidableEq

/-- A text as one component: not empty and without a dot. -/
def IsComponent (text : String) : Prop :=
  text ≠ "" ∧ '.' ∉ text.toList

instance (text : String) : Decidable (IsComponent text) :=
  inferInstanceAs (Decidable (text ≠ "" ∧ '.' ∉ text.toList))

/-- The first two components of any text. -/
def topAndChild (text : String) : String × Option String :=
  match components text with
  | [] => ("", none)
  | [top] => (top, none)
  | top :: child :: _ => (top, some child)

/-- Two components joined by a dot. Both are meant to be single components, which is not checked. -/
def joinComponents (parent child : String) : String :=
  parent ++ "." ++ child

namespace ModuleName

/-- The name with the given text, if the text is one. -/
def ofText? (text : String) : Option ModuleName :=
  if h : IsModuleName text then some ⟨text, h⟩ else none

/-- The components in order. -/
def components (name : ModuleName) : List String :=
  HiddenImports.components name.text

/-- The first component, the name of the package. -/
def top (name : ModuleName) : String :=
  (topAndChild name.text).1

/-- The second component, if there is one. -/
def child (name : ModuleName) : Option String :=
  (topAndChild name.text).2

instance : ToString ModuleName := ⟨ModuleName.text⟩

@[simp] theorem ofText?_text (name : ModuleName) : ofText? name.text = some name := by
  simp [ofText?, name.valid]

theorem eq_of_text_eq {name other : ModuleName} (h : name.text = other.text) : name = other := by
  cases name
  cases other
  cases h
  rfl

theorem text_of_ofText? {text : String} {name : ModuleName} (h : ofText? text = some name) :
    name.text = text := by
  unfold ofText? at h
  split at h
  · cases h
    rfl
  · cases h

end ModuleName

end HiddenImports
