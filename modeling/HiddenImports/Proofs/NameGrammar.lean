import HiddenImports.Fault
import HiddenImports.Proofs.Component

/-!
# The grammar of module names

Cutting a text at its dots and joining parts by dots undo each other: the components of any text join to
it again (`intercalate_components`), and parts without dots are the components of their join
(`components_intercalate`). So a text is a module name if it is the join of components at all, in which
case it is that of its own ones and of no others (`ofText_iff_isJoin`).
-/

namespace HiddenImports

/-- The text is what some parts give when they are joined by dots: at least one part, each of them a
single component. -/
structure IsJoin (text : String) (parts : List String) : Prop where
  ne_nil : parts ≠ []
  isComponent : ∀ part ∈ parts, IsComponent part
  joined : ".".intercalate parts = text

variable {text : String} {parts : List String} {name : ModuleName}

/-! ## Cutting and joining -/

theorem components_ne_nil (text : String) : components text ≠ [] := by
  rw [components_eq]
  exact List.cons_ne_nil _ _

theorem dot_notMem_of_mem_components {text part : String} (h : part ∈ components text) :
    '.' ∉ part.toList := by
  rw [components_eq, List.mem_cons] at h
  rcases h with rfl | h
  · exact dot_notMem_beforeDot text
  · rcases hrest : afterDot? text with _ | rest
    · rw [hrest] at h
      cases h
    · rw [hrest] at h
      have hlength : rest.length < text.length := by
        have := congrArg String.length (eq_of_afterDot?_eq_some hrest)
        simp only [String.length_append] at this
        have hdot : ".".length = 1 := rfl
        omega
      exact dot_notMem_of_mem_components h
termination_by text.length

/-- The components of any text join to the text. -/
theorem intercalate_components (text : String) : ".".intercalate (components text) = text := by
  have hmap : (components text).map String.toList = List.splitOn '.' text.toList := by
    simp [components]
  apply String.toList_inj.1
  rw [String.toList_intercalate, hmap]
  exact List.intercalate_splitOn '.'

/-- Parts without dots are the components of their join. -/
theorem components_intercalate (hne : parts ≠ []) (h : ∀ part ∈ parts, '.' ∉ part.toList) :
    components (".".intercalate parts) = parts := by
  have hsplit : List.splitOn '.' (['.'].intercalate (parts.map String.toList)) =
      parts.map String.toList := by
    apply List.splitOn_intercalate
    · simpa using h
    · simpa using hne
  have htext : (".".intercalate parts).toList = ['.'].intercalate (parts.map String.toList) :=
    String.toList_intercalate
  rw [components, htext, hsplit, List.map_map]
  simp

/-! ## Names -/

theorem IsJoin.components_eq (h : IsJoin text parts) : components text = parts := by
  rw [← h.joined]
  exact components_intercalate h.ne_nil fun part hpart => (h.isComponent part hpart).2

theorem IsJoin.isModuleName (h : IsJoin text parts) : IsModuleName text := by
  intro part hpart
  rw [h.components_eq] at hpart
  exact (h.isComponent part hpart).1

theorem isJoin_components (h : IsModuleName text) : IsJoin text (components text) where
  ne_nil := components_ne_nil text
  isComponent part hpart := ⟨h part hpart, dot_notMem_of_mem_components hpart⟩
  joined := intercalate_components text

theorem isJoin_iff (h : IsModuleName text) : IsJoin text parts ↔ components text = parts := by
  constructor
  · exact IsJoin.components_eq
  · rintro rfl
    exact isJoin_components h

theorem ModuleName.ofText_eq_ok_iff :
    ofText text = .ok name ↔ name.text = text := by
  unfold ofText
  split
  · rename_i found hfound
    rw [Except.ok.injEq]
    have htext := text_of_ofText? hfound
    constructor
    · rintro rfl
      exact htext
    · exact fun h => eq_of_text_eq (htext.trans h.symm)
  · rename_i hnone
    simp only [reduceCtorEq, false_iff]
    rintro rfl
    simp at hnone

theorem ModuleName.exists_ofText_iff : (∃ name, ofText text = .ok name) ↔ IsModuleName text := by
  simp only [ofText_eq_ok_iff]
  constructor
  · rintro ⟨name, rfl⟩
    exact name.valid
  · exact fun h => ⟨⟨text, h⟩, rfl⟩

/-! ## The first two components -/

/-- What follows the first component of a text begins with a dot, if it is not empty. -/
theorem exists_eq_beforeDot_append (text : String) : ∃ rest, text = beforeDot text ++ rest ∧
    (rest = "" ∨ ∃ behind, rest = "." ++ behind) := by
  rcases h : afterDot? text with _ | behind
  · exact ⟨"", by rw [beforeDot_of_afterDot?_eq_none h, String.append_empty], .inl rfl⟩
  · refine ⟨"." ++ behind, ?_, .inr ⟨behind, rfl⟩⟩
    rw [← String.append_assoc]
    exact eq_of_afterDot?_eq_some h

theorem eq_of_topAndChild_eq_none {top : String} (h : topAndChild text = (top, none)) :
    text = top := by
  rw [topAndChild_eq, Prod.mk.injEq, Option.map_eq_none_iff] at h
  obtain ⟨rfl, hnone⟩ := h
  exact (beforeDot_of_afterDot?_eq_none hnone).symm

theorem eq_of_topAndChild_eq_some {top child : String} (h : topAndChild text = (top, some child)) :
    ∃ rest, text = top ++ "." ++ child ++ rest ∧ (rest = "" ∨ ∃ behind, rest = "." ++ behind) := by
  rw [topAndChild_eq, Prod.mk.injEq, Option.map_eq_some_iff] at h
  obtain ⟨rfl, below, hbelow, rfl⟩ := h
  obtain ⟨rest, hrest, hdot⟩ := exists_eq_beforeDot_append below
  refine ⟨rest, ?_, hdot⟩
  calc text = beforeDot text ++ "." ++ below := eq_of_afterDot?_eq_some hbelow
    _ = beforeDot text ++ "." ++ (beforeDot below ++ rest) :=
        congrArg (beforeDot text ++ "." ++ ·) hrest
    _ = beforeDot text ++ "." ++ beforeDot below ++ rest := String.append_assoc.symm

theorem dot_notMem_topAndChild (text : String) : '.' ∉ (topAndChild text).1.toList ∧
    ∀ child, (topAndChild text).2 = some child → '.' ∉ child.toList := by
  rw [topAndChild_eq]
  refine ⟨dot_notMem_beforeDot text, ?_⟩
  intro child h
  obtain ⟨below, -, rfl⟩ := Option.map_eq_some_iff.1 h
  exact dot_notMem_beforeDot below

theorem ModuleName.getElem?_components (name : ModuleName) :
    name.components[0]? = some name.top ∧ name.components[1]? = name.child := by
  obtain ⟨below, hparts, hbelow⟩ := exists_components_eq name.text
  rw [ModuleName.components, top, child, topAndChild_eq, hparts]
  exact ⟨rfl, by rw [← hbelow, List.head?_eq_getElem?]; rfl⟩

/-- A text is a module name exactly if it is the join of components, which are then the ones that it is
cut into; any other text is refused as it stands. The first two components of any text stand at its
front, and two components join to a name that has just these. -/
theorem ofText_iff_isJoin (text : String) :
    ((∃ name, ModuleName.ofText text = .ok name) ↔ ∃ parts, IsJoin text parts) ∧
    ((∀ parts, ¬ IsJoin text parts) → ModuleName.ofText text = .error (.invalidModuleName text)) ∧
    (∀ name, ModuleName.ofText text = .ok name →
      (∀ parts, IsJoin text parts ↔ name.components = parts) ∧
      ".".intercalate name.components = text ∧
      name.components[0]? = some name.top ∧ name.components[1]? = name.child) ∧
    (∀ top child, topAndChild text = (top, child) → '.' ∉ top.toList ∧
      (child = none → text = top) ∧
      ∀ below, child = some below → '.' ∉ below.toList ∧ ∃ rest,
        text = top ++ "." ++ below ++ rest ∧ (rest = "" ∨ ∃ behind, rest = "." ++ behind)) ∧
    ∀ parent child, IsComponent parent → IsComponent child →
      ∃ name, ModuleName.ofText (joinComponents parent child) = .ok name ∧
        name.components = [parent, child] := by
  have hiff : (∃ name, ModuleName.ofText text = .ok name) ↔ ∃ parts, IsJoin text parts := by
    rw [ModuleName.exists_ofText_iff]
    exact ⟨fun h => ⟨_, isJoin_components h⟩, fun ⟨_, h⟩ => h.isModuleName⟩
  refine ⟨hiff, ?_, ?_, ?_, ?_⟩
  · intro hnone
    rcases hname : ModuleName.ofText? text with _ | name
    · rw [ModuleName.ofText, hname]
    · obtain ⟨parts, hparts⟩ := hiff.1 ⟨name, by rw [ModuleName.ofText, hname]⟩
      exact absurd hparts (hnone parts)
  · intro name hname
    obtain rfl := ModuleName.ofText_eq_ok_iff.1 hname
    exact ⟨fun parts => isJoin_iff name.valid, intercalate_components name.text,
      name.getElem?_components⟩
  · rintro top child h
    obtain ⟨htop, hchild⟩ := dot_notMem_topAndChild text
    rw [h] at htop hchild
    refine ⟨htop, ?_, ?_⟩
    · rintro rfl
      exact eq_of_topAndChild_eq_none h
    · rintro below rfl
      exact ⟨hchild below rfl, eq_of_topAndChild_eq_some h⟩
  · intro parent child hparent hchild
    refine ⟨⟨_, isModuleName_joinComponents hparent hchild⟩, ?_, ?_⟩
    · exact ModuleName.ofText_eq_ok_iff.2 rfl
    · exact components_joinComponents hparent.2 hchild.2

/-- A name with three components, a text that ends in a dot, and a join of two components. -/
theorem ofText_iff_isJoin_assorted :
    (∃ name, ModuleName.ofText "a.b.c" = .ok name ∧ name.components = ["a", "b", "c"] ∧
      name.child = some "b") ∧
    ModuleName.ofText "a.b." = .error (.invalidModuleName "a.b.") ∧
    (∃ rest, "a..b" = "a" ++ "." ++ "" ++ rest ∧ (rest = "" ∨ ∃ behind, rest = "." ++ behind)) ∧
    ∃ name, ModuleName.ofText (joinComponents "a" "b") = .ok name ∧ name.components = ["a", "b"] := by
  obtain ⟨hiff, -, hname, -, hjoin⟩ := ofText_iff_isJoin "a.b.c"
  obtain ⟨-, hrefused, -, -, -⟩ := ofText_iff_isJoin "a.b."
  obtain ⟨-, -, -, hsplit, -⟩ := ofText_iff_isJoin "a..b"
  have hparts : IsJoin "a.b.c" ["a", "b", "c"] :=
    ⟨by decide, by decide +kernel, by decide +kernel⟩
  obtain ⟨name, hok⟩ := hiff.2 ⟨_, hparts⟩
  obtain ⟨hunique, -, -, hchild⟩ := hname name hok
  have hcomponents := (hunique _).1 hparts
  refine ⟨⟨name, hok, hcomponents, ?_⟩, ?_, ?_, ?_⟩
  · rw [← hchild, hcomponents]
    rfl
  · refine hrefused fun parts hparts => ?_
    exact absurd hparts.isModuleName (by decide +kernel)
  · obtain ⟨-, -, hbelow⟩ := hsplit "a" (some "") (by decide +kernel)
    exact (hbelow "" rfl).2
  · exact hjoin "a" "b" (by decide +kernel) (by decide +kernel)

end HiddenImports
