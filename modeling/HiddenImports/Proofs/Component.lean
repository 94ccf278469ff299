import Mathlib.Data.List.TakeWhile
import HiddenImports.ModuleName

/-!
# The components of a text

The first component of a text is what stands before its first dot, and the others are the components
of what stands behind it (`components_eq`). So the two components that a look-up uses are read off the
text from its front (`topAndChild_eq`), whether or not the text is a module name.
-/

namespace HiddenImports

/-- The text before the first dot; all of it if there is none. -/
def beforeDot (text : String) : String :=
  String.ofList (text.toList.takeWhile (· ≠ '.'))

/-- The text behind the first dot, if there is one. -/
def afterDot? (text : String) : Option String :=
  match text.toList.dropWhile (· ≠ '.') with
  | [] => none
  | _ :: rest => some (String.ofList rest)

variable {text rest : String}

theorem dot_notMem_beforeDot (text : String) : '.' ∉ (beforeDot text).toList := by
  intro h
  rw [beforeDot, String.toList_ofList] at h
  simpa using List.mem_takeWhile_imp h

theorem dot_of_dropWhile {cs tail : List Char} {c : Char}
    (h : cs.dropWhile (· ≠ '.') = c :: tail) : c = '.' := by
  have hne : cs.dropWhile (· ≠ '.') ≠ [] := by
    rw [h]
    simp
  have hc := List.head_dropWhile_not (· ≠ '.') hne
  simp only [h, List.head_cons, ne_eq, decide_eq_false_iff_not, not_not] at hc
  exact hc

theorem beforeDot_of_afterDot?_eq_none (h : afterDot? text = none) : beforeDot text = text := by
  unfold afterDot? at h
  split at h
  · rename_i hnil
    have hsplit := List.takeWhile_append_dropWhile (p := (· ≠ '.')) (l := text.toList)
    rw [hnil, List.append_nil] at hsplit
    rw [beforeDot, hsplit, String.ofList_toList]
  · cases h

/-- A text with a dot is what stands before the first one, the dot and what stands behind it. -/
theorem eq_of_afterDot?_eq_some (h : afterDot? text = some rest) :
    text = beforeDot text ++ "." ++ rest := by
  unfold afterDot? at h
  split at h
  · cases h
  · rename_i c tail hcons
    obtain rfl := dot_of_dropWhile hcons
    cases h
    have hsplit := List.takeWhile_append_dropWhile (p := (· ≠ '.')) (l := text.toList)
    rw [hcons] at hsplit
    apply String.toList_inj.1
    simp only [String.toList_append, beforeDot, String.toList_ofList, List.append_assoc]
    exact hsplit.symm

/-! ## Components -/

theorem components_of_dot_notMem (h : '.' ∉ text.toList) : components text = [text] := by
  rw [components, List.splitOn_eq_singleton h]
  simp

theorem components_dot {head : String} (h : '.' ∉ head.toList) (rest : String) :
    components (head ++ "." ++ rest) = head :: components rest := by
  have hlist : (head ++ "." ++ rest).toList = head.toList ++ '.' :: rest.toList := by simp
  rw [components, hlist, List.splitOn_append_cons_self_of_not_mem h, List.map_cons,
    String.ofList_toList]
  rfl

theorem components_eq (text : String) :
    components text = beforeDot text :: (afterDot? text).elim [] components := by
  rcases h : afterDot? text with _ | rest
  · have htext := beforeDot_of_afterDot?_eq_none h
    have hdot : '.' ∉ text.toList := htext ▸ dot_notMem_beforeDot text
    rw [components_of_dot_notMem hdot, htext]
    rfl
  · calc components text = components (beforeDot text ++ "." ++ rest) :=
          congrArg components (eq_of_afterDot?_eq_some h)
      _ = beforeDot text :: components rest := components_dot (dot_notMem_beforeDot text) rest

theorem exists_components_eq (name : String) : ∃ below,
    components name = beforeDot name :: below ∧ below.head? = (afterDot? name).map beforeDot := by
  refine ⟨_, components_eq name, ?_⟩
  rcases afterDot? name with _ | rest
  · rfl
  · rw [Option.elim_some, components_eq rest]
    rfl

/-- The two components that a look-up uses, from the front of any text. -/
theorem topAndChild_eq (text : String) :
    topAndChild text = (beforeDot text, (afterDot? text).map beforeDot) := by
  unfold topAndChild
  rw [components_eq text]
  rcases afterDot? text with _ | rest
  · rfl
  · rw [Option.elim_some, components_eq rest]
    rfl

theorem components_joinComponents {top child : String} (htop : '.' ∉ top.toList)
    (hchild : '.' ∉ child.toList) : components (joinComponents top child) = [top, child] := by
  rw [joinComponents, components_dot htop, components_of_dot_notMem hchild]

theorem isModuleName_joinComponents {top child : String} (htop : IsComponent top)
    (hchild : IsComponent child) : IsModuleName (joinComponents top child) := by
  intro part hpart
  rw [components_joinComponents htop.2 hchild.2, List.mem_cons, List.mem_singleton] at hpart
  rcases hpart with rfl | rfl
  · exact htop.1
  · exact hchild.1

/-- A module name begins with a component that is not empty. -/
theorem isComponent_beforeDot (h : IsModuleName text) : IsComponent (beforeDot text) := by
  refine ⟨h _ ?_, dot_notMem_beforeDot text⟩
  rw [components_eq]
  exact List.mem_cons_self

end HiddenImports
