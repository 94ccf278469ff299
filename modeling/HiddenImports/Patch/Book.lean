import Std.Data.HashMap
import HiddenImports.Log
import HiddenImports.Patch.Replacer
import HiddenImports.Text.Preview

/-!
# The patches of all modules

A `PatchBook` leads from each module that has patches to its replacers, in the order of declaration. A
patch is added only if it and the earlier ones of its module cannot trigger each other.

Applying the book to a source runs the replacers of the module once. The result counts only if running
them again would not change it; otherwise the source stays as it is.
-/

namespace HiddenImports

theorem PatchBook.occupied_empty (name : String) :
    ({} : Std.HashMap String (List Replacer))[name]? ≠ some [] := by simp

/-- The replacers of each module that has patches, in order. No other module is in the book. -/
structure PatchBook where
  byModule : Std.HashMap String (List Replacer) := {}
  occupied : ∀ name : String, byModule[name]? ≠ some [] := by exact PatchBook.occupied_empty

namespace PatchBook

/-- The replacers for one module, in order. -/
def forModule (book : PatchBook) (name : String) : List Replacer :=
  book.byModule.getD name []

/-- How many patches there are. -/
def size (book : PatchBook) : Nat := book.byModule.fold (fun total _ rs => total + rs.length) 0

def isEmpty (book : PatchBook) : Bool := book.byModule.isEmpty

/-- Enters a replacer after the others of its module. -/
def put (book : PatchBook) (entry : ModuleName × Replacer) : PatchBook where
  byModule := book.byModule.insert entry.1.text (book.forModule entry.1.text ++ [entry.2])
  occupied name := by
    rw [Std.HashMap.getElem?_insert]
    split
    · simp
    · exact book.occupied name

/-- Two replacers of one module can trigger each other. -/
def clash (r s : Replacer) : Bool :=
  r.mayRematch s.replacement || s.mayRematch r.replacement

/-- Adds a patch. -/
def add (engine : Engine) (book : PatchBook) (patch : Patch) : Except Fault PatchBook :=
  match patch.compileWith engine with
  | .error fault => .error fault
  | .ok r =>
    match (book.forModule patch.module.text).find? (clash · r) with
    | some other => .error (patch.fault (.chains other.describe))
    | none => .ok (book.put (patch.module, r))

/-- The book of some patches, with a given engine for patterns. -/
def buildWith (engine : Engine) (patches : List Patch) : Except Fault PatchBook :=
  patches.foldlM (add engine) {}

/-- The book of some patches. -/
def build (patches : List Patch) : Except Fault PatchBook :=
  buildWith Regex.engine patches

/-- The replacers of a module in words. -/
def describeAll (rs : List Replacer) : String :=
  ", ".intercalate (rs.map Replacer.describe)

/-- How much of a source a record shows. -/
def previewLength : Nat := 80

/-- What the replacers `rs` of a module make of its source. -/
def editWith (rs : List Replacer) (name source : String) : Logged Edit :=
  match Replacer.editAll rs source with
  | .unchanged => do
    log .debug (s!"Stale patch target, source left unchanged | Module: {name} | Rules: "
      ++ describeAll rs ++ s!" | Source preview: {Text.preview previewLength source}")
    return .unchanged
  | .changed text =>
    if (Replacer.editAll rs text).apply text = text then return .changed text
    else do
      log .warn (s!"Patch is not idempotent, source left unchanged | Module: {name} | Rules: "
        ++ describeAll rs)
      return .unchanged

/-- What the book makes of the source of a module. -/
def edit (book : PatchBook) (name source : String) : Logged Edit :=
  match book.byModule[name]? with
  | none => return .unchanged
  | some rs => editWith rs name source

end PatchBook

end HiddenImports
