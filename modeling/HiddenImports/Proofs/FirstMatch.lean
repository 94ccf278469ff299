import Mathlib.Logic.Basic
import HiddenImports.ImportIndex
import HiddenImports.Proofs.Outcome

/-!
# The index finds the first match

Each map of the index holds, for a key, the number of the first family that has it
(`getElem?_byTop`, `getElem?_byName`). The smaller one of two such numbers is that of the first
family that has either key, so a look-up is a search through the families in order
(`lookup_ofFamilies`).
-/

namespace HiddenImports

namespace Pattern

/-- The pattern asks for a package of this name. -/
def hasTop (pattern : Pattern) (top : String) : Bool :=
  match pattern with
  | topLevel names => top ∈ names
  | fullName _ => false

/-- The pattern asks for exactly this name. -/
def hasName (pattern : Pattern) (name : String) : Bool :=
  match pattern with
  | topLevel _ => false
  | fullName names => name ∈ names.map ModuleName.text

theorem matches_iff {pattern : Pattern} {name : String} : pattern.Matches name ↔
    (pattern.hasTop (topAndChild name).1 || pattern.hasName name) = true := by
  cases pattern <;> simp [Matches, hasTop, hasName]

end Pattern

namespace ImportIndex

variable (index : ImportIndex) (family : Family)

theorem getElem?_foldl_enter (number : Nat) (key : String) :
    ∀ (keys : List String) (numbers : Std.HashMap String Nat),
      (keys.foldl (enter number) numbers)[key]? =
        numbers[key]?.or (if key ∈ keys then some number else none)
  | [], numbers => by simp
  | first :: rest, numbers => by
    rw [List.foldl_cons, getElem?_foldl_enter number key rest, enter,
      Std.HashMap.getElem?_insertIfNew]
    by_cases hkey : first = key
    · subst hkey
      by_cases hm : first ∈ numbers
      · simp [hm]
      · simp [hm]
    · simp [hkey, Ne.symm hkey]

@[simp] theorem families_add : (index.add family).families = index.families ++ [family] := by
  unfold add
  cases family.pattern <;> rfl

theorem getElem?_byTop_add (top : String) : (index.add family).byTop[top]? =
    index.byTop[top]?.or (if family.pattern.hasTop top then some index.families.length else none) := by
  unfold add
  cases hp : family.pattern with
  | topLevel names => simp [getElem?_foldl_enter, Pattern.hasTop]
  | fullName names => simp [Pattern.hasTop]

theorem getElem?_byName_add (name : String) : (index.add family).byName[name]? =
    index.byName[name]?.or
      (if family.pattern.hasName name then some index.families.length else none) := by
  unfold add
  cases hp : family.pattern with
  | topLevel names => simp [Pattern.hasName]
  | fullName names => simp [getElem?_foldl_enter, Pattern.hasName]

theorem families_foldl_add : ∀ (families : List Family) (index : ImportIndex),
    (families.foldl add index).families = index.families ++ families
  | [], index => by simp
  | family :: rest, index => by
    rw [List.foldl_cons, families_foldl_add rest, families_add, List.append_assoc,
      List.singleton_append]

theorem families_ofFamilies (families : List Family) : (ofFamilies families).families = families :=
  families_foldl_add families {}

/-- The numbers that a fold enters go on from those of the families already there. -/
theorem getElem?_foldl_add (numbers : ImportIndex → Option Nat) (has : Family → Bool)
    (hadd : ∀ index family, numbers (add index family) =
      (numbers index).or (if has family then some index.families.length else none)) :
    ∀ (families : List Family) (index : ImportIndex), numbers (families.foldl add index) =
      (numbers index).or ((families.findIdx? has).map (· + index.families.length))
  | [], index => by simp
  | family :: rest, index => by
    rw [List.foldl_cons, getElem?_foldl_add numbers has hadd rest, hadd, List.findIdx?_cons,
      families_add, List.length_append, List.length_singleton]
    by_cases h : has family
    · simp [h]
    · simp only [h, Bool.false_eq_true, if_false, Option.or_none, Option.map_map]
      congr 2
      funext i
      simp only [Function.comp_apply]
      omega

/-- The number for a package name is that of the first family with it. -/
theorem getElem?_byTop (families : List Family) (top : String) :
    (ofFamilies families).byTop[top]? = families.findIdx? (·.pattern.hasTop top) := by
  have h := getElem?_foldl_add (fun index => index.byTop[top]?) (·.pattern.hasTop top)
    (fun index family => getElem?_byTop_add index family top) families {}
  simpa [ofFamilies] using h

/-- The number for a whole name is that of the first family with it. -/
theorem getElem?_byName (families : List Family) (name : String) :
    (ofFamilies families).byName[name]? = families.findIdx? (·.pattern.hasName name) := by
  have h := getElem?_foldl_add (fun index => index.byName[name]?) (·.pattern.hasName name)
    (fun index family => getElem?_byName_add index family name) families {}
  simpa [ofFamilies] using h

/-- The smaller of two first positions is the first position of either. -/
theorem least_findIdx? {α : Type} (p q : α → Bool) : ∀ l : List α,
    least (l.findIdx? p) (l.findIdx? q) = l.findIdx? (fun a => p a || q a)
  | [] => rfl
  | a :: l => by
    rw [List.findIdx?_cons, List.findIdx?_cons, List.findIdx?_cons, ← least_findIdx? p q l]
    rcases hp : p a <;> rcases hq : q a <;> rcases l.findIdx? p with _ | i <;>
      rcases l.findIdx? q with _ | j <;> simp [least]

theorem position?_ofFamilies (families : List Family) (name : String) :
    (ofFamilies families).position? name = families.findIdx? (·.pattern.Matches name) := by
  have hmatch : (fun family : Family => family.pattern.hasTop (topAndChild name).1 ||
      family.pattern.hasName name) = fun family => decide (family.pattern.Matches name) := by
    funext family
    rw [Bool.eq_iff_iff, decide_eq_true_iff, Pattern.matches_iff]
  rw [position?, getElem?_byTop, getElem?_byName, least_findIdx?, hmatch]

/-- A look-up finds the first family, in order, whose pattern matches. -/
theorem lookup_ofFamilies (families : List Family) (name : String) :
    (ofFamilies families).lookup name = families.find? (·.pattern.Matches name) := by
  rw [List.find?_eq_bind_findIdx?_getElem?, ← position?_ofFamilies, lookup, families_ofFamilies]
  rfl

/-- An answer depends on the family found and on nothing else of the index. -/
theorem resolve_congr {index other : ImportIndex} {name : String}
    (h : index.lookup name = other.lookup name) (runtime : Version) :
    index.resolve name runtime = other.resolve name runtime := by
  unfold resolve
  rw [h]

theorem resolve_of_lookup_eq_none {index : ImportIndex} {name : String}
    (h : index.lookup name = none) (runtime : Version) :
    index.resolve name runtime = pure .empty := by
  unfold resolve
  rw [h]

end ImportIndex

end HiddenImports
