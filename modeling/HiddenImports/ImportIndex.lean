import Std.Data.HashMap
import HiddenImports.Log
import HiddenImports.RuleTable

/-!
# The index of families

An `ImportIndex` finds the family for a module without a scan. Two maps lead from a package name and
from a whole name to the number of the first family that has it, and of the two numbers the smaller one
counts, so the family found is the first one whose pattern matches.

What a family has for one module is `Pending`: the companions not yet looked at, with the names that
they are looked at for. It gives its names one by one.
-/

namespace HiddenImports

/-- Companions not yet looked at, beside the module `top.child` on a runtime. -/
structure Pending where
  companions : List Companion := []
  top : String := ""
  child : Option String := none
  runtime : Version := Version.default
  deriving DecidableEq

namespace Pending

/-- Nothing is pending. -/
def empty : Pending := {}

/-- No more names than this are to come. -/
def bound (pending : Pending) : Nat := pending.companions.length

/-- The least and the greatest number of names to come, as far as it is known without asking. -/
def sizeHint (pending : Pending) : Nat × Option Nat := (0, some pending.bound)

/-- The names still to come. -/
def names (pending : Pending) : List String :=
  pending.companions.filterMap fun companion =>
    companion.emit pending.top pending.child pending.runtime

/-- The first name that one of the companions gives, and the companions after that one. -/
def firstOf (top : String) (child : Option String) (runtime : Version) :
    List Companion → Option String × List Companion
  | [] => (none, [])
  | companion :: rest =>
    match companion.emit top child runtime with
    | some name => (some name, rest)
    | none => firstOf top child runtime rest

/-- The next name, if one is to come, and what is pending after it. -/
def next (pending : Pending) : Option String × Pending :=
  let (name, rest) := firstOf pending.top pending.child pending.runtime pending.companions
  (name, { pending with companions := rest })

theorem length_firstOf {top : String} {child : Option String} {runtime : Version}
    {companions rest : List Companion} {name : String}
    (h : firstOf top child runtime companions = (some name, rest)) :
    rest.length < companions.length := by
  induction companions with
  | nil => simp [firstOf] at h
  | cons companion more ih =>
    unfold firstOf at h
    split at h
    · cases h
      simp
    · exact Nat.lt_succ_of_lt (ih h)

theorem bound_next {pending after : Pending} {name : String}
    (h : pending.next = (some name, after)) : after.bound < pending.bound := by
  simp only [next, Prod.mk.injEq] at h
  obtain ⟨hname, rfl⟩ := h
  exact length_firstOf (Prod.ext hname rfl)

/-- Takes all names; each stands with what is pending after it. -/
def walk (pending : Pending) : List (String × Pending) :=
  match _h : pending.next with
  | (none, _) => []
  | (some name, after) => (name, after) :: after.walk
termination_by pending.bound
decreasing_by exact bound_next _h

end Pending

/-- The families in order, with the number of the first family for each package name and each whole
name. -/
structure ImportIndex where
  families : List Family := []
  byTop : Std.HashMap String Nat := {}
  byName : Std.HashMap String Nat := {}

namespace ImportIndex

/-- Enters a key for a family, unless an earlier family has it. -/
def enter (number : Nat) (numbers : Std.HashMap String Nat) (key : String) :
    Std.HashMap String Nat :=
  numbers.insertIfNew key number

/-- Adds a family after the others. -/
def add (index : ImportIndex) (family : Family) : ImportIndex :=
  let number := index.families.length
  let index := { index with families := index.families ++ [family] }
  match family.pattern with
  | .topLevel names => { index with byTop := names.foldl (enter number) index.byTop }
  | .fullName names =>
    { index with byName := (names.map ModuleName.text).foldl (enter number) index.byName }

/-- The index of some families. -/
def ofFamilies (families : List Family) : ImportIndex :=
  families.foldl add {}

/-- The index of some families, with a record of its size. -/
def build (families : List Family) : Logged ImportIndex := do
  let index := ofFamilies families
  log .debug (s!"Import dispatch built: families={index.families.length}, "
    ++ s!"top_level_keys={index.byTop.size}, full_name_keys={index.byName.size}")
  return index

/-- The smaller of two numbers that may be missing. -/
def least : Option Nat → Option Nat → Option Nat
  | some i, some j => some (min i j)
  | some i, none => some i
  | none, j => j

/-- The number of the family for a module. -/
def position? (index : ImportIndex) (name : String) : Option Nat :=
  least index.byTop[(topAndChild name).1]? index.byName[name]?

/-- The family for a module. -/
def lookup (index : ImportIndex) (name : String) : Option Family := do
  index.families[← index.position? name]?

/-- What the index has for a module on a runtime. -/
def resolve (index : ImportIndex) (name : String) (runtime : Version) : Logged Pending :=
  match index.lookup name with
  | none => return .empty
  | some family => do
    log .debug (s!"Implicit import rule hit | Module: {name} | "
      ++ s!"Productions: {family.companions.length}")
    let (top, child) := topAndChild name
    return ⟨family.companions, top, child, runtime⟩

end ImportIndex

end HiddenImports
