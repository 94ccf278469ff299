import HiddenImports.Fault
import HiddenImports.Json.Value
import HiddenImports.RuleTable

/-!
# Rule tables as documents

The reader and the writer of each part of a rule table. Records may be written as objects or as arrays
of their fields; patterns and companions carry their kind in a tag and are taken apart after they were
read whole. The writer leaves out what is a default, except the mode of a patch.
-/

namespace HiddenImports

open Json

/-! ## Names and versions -/

/-- A fault of a text inside a document, in words. -/
def Fault.toMismatch (fault : Fault) : Mismatch := .refused fault.message

/-- The module name written as a text. -/
def ModuleName.refine (text : String) : Except Mismatch ModuleName :=
  (ModuleName.ofText text).mapError Fault.toMismatch

/-- The version written as a text. -/
def Version.refine (text : String) : Except Mismatch Version :=
  (Version.ofText text).mapError Fault.toMismatch

def ModuleName.reader : Reader ModuleName := readString.refine ModuleName.refine

def ModuleName.ofValue (v : Value) : Except Mismatch ModuleName := do
  ModuleName.refine (← v.asString)

def ModuleName.toValue (name : ModuleName) : Value := .string name.text

def Version.reader : Reader Version := readString.refine Version.refine

def Version.ofValue (v : Value) : Except Mismatch Version := do
  Version.refine (← v.asString)

def Version.toValue (version : Version) : Value := .string version.render

/-- A version, or `null` for none. -/
def Version.optionReader : Reader (Option Version) := fun input =>
  match skipGap input with
  | some 'n' :: rest => do return (none, ← readWord ['u', 'l', 'l'] rest)
  | other => Reader.map some Version.reader other

/-! ## Version ranges -/

namespace VersionRange

/-- The ends of a range read so far. -/
structure Partial where
  below : Option (Option Version) := none
  atLeast : Option (Option Version) := none

def Partial.finish (p : Partial) : VersionRange :=
  ⟨p.below.join, p.atLeast.join⟩

def field (p : Partial) (key : String) : Except Mismatch (Option (Reader Partial)) :=
  match key with
  | "below" => once key p.below (Version.optionReader.map fun v => { p with below := some v })
  | "at_least" => once key p.atLeast (Version.optionReader.map fun v => { p with atLeast := some v })
  | _ => .ok none

/-- How a range is worded where something else stands. -/
def wording : String := "struct RuntimeCondition"

def reader (depth : Nat) : Reader VersionRange :=
  readRecord wording depth
    (fun _ input => (members field (input.length + 1) true {}).map Partial.finish input)
    (fun _ input => do
      let (below, rest) ← positionOr 0 none Version.optionReader input
      let (atLeast, rest) ← positionOr 1 none Version.optionReader rest
      return (⟨below, atLeast⟩, rest))

def fieldOfValue (p : Partial) (key : String) :
    Except Mismatch (Option (Value → Except Mismatch Partial)) :=
  match key with
  | "below" => once key p.below fun v => do
    return { p with below := some (← v.asOption Version.ofValue) }
  | "at_least" => once key p.atLeast fun v => do
    return { p with atLeast := some (← v.asOption Version.ofValue) }
  | _ => .ok none

def ofValue : Value → Except Mismatch VersionRange
  | .object ms => do return (← Value.foldMembers fieldOfValue {} ms).finish
  | .array [] => .ok {}
  | .array [below] => do return ⟨← below.asOption Version.ofValue, none⟩
  | .array (below :: atLeast :: more) => do
    let range : VersionRange :=
      ⟨← below.asOption Version.ofValue, ← atLeast.asOption Version.ofValue⟩
    Value.noSurplus 2 (2 + more.length)
    return range
  | v => .error (v.mismatch wording)

def toValue (range : VersionRange) : Value :=
  .object ((range.below.toList.map fun v => ("below", v.toValue))
    ++ (range.atLeast.toList.map fun v => ("at_least", v.toValue)))

end VersionRange

/-! ## Patterns -/

namespace Pattern

/-- The kinds of pattern. -/
inductive Kind where
  | topLevel
  | fullName
  deriving DecidableEq

def Kind.name : Kind → String
  | .topLevel => "top_level"
  | .fullName => "full_name"

def Kind.refine (text : String) : Except Mismatch Kind :=
  match text with
  | "top_level" => .ok .topLevel
  | "full_name" => .ok .fullName
  | _ => .error (.unknownVariant text ["top_level", "full_name"])

def Kind.reader : Reader Kind := (readStringAs "variant identifier").refine Kind.refine

/-- How the fields of a kind of pattern are worded where they do not suffice. -/
def Kind.wording : Kind → String
  | .topLevel => "struct variant MatchKey::TopLevel with 1 element"
  | .fullName => "struct variant MatchKey::FullName with 1 element"

/-- The pattern of the given kind with the names in `v`. -/
def Kind.build (kind : Kind) (v : Value) : Except Mismatch Pattern :=
  match kind with
  | .topLevel => do return .topLevel (← v.asList Value.asString)
  | .fullName => do return .fullName (← v.asList ModuleName.ofValue)

def field (kind : Kind) (p : Option Pattern) (key : String) :
    Except Mismatch (Option (Value → Except Mismatch (Option Pattern))) :=
  match key with
  | "names" => once key p fun v => do return some (← kind.build v)
  | _ => .ok none

def ofTagged (t : Tagged Kind) : Except Mismatch Pattern :=
  match t.contents with
  | .object ms => do required "names" (← Value.foldMembers (field t.tag) none ms)
  | .array (names :: more) => do
    let pattern ← t.tag.build names
    Value.noSurplus 1 (1 + more.length)
    return pattern
  | _ => .error (.invalidLength 0 t.tag.wording)

def reader (depth : Nat) : Reader Pattern :=
  (readTagged "internally tagged enum MatchKey" "kind" Kind.reader depth).refine ofTagged

def toValue : Pattern → Value
  | topLevel names =>
    .object [("kind", .string Kind.topLevel.name), ("names", .array (names.map .string))]
  | fullName names =>
    .object [("kind", .string Kind.fullName.name), ("names", .array (names.map ModuleName.toValue))]

end Pattern

/-! ## Companions -/

namespace Companion

/-- The kinds of companion. -/
inductive Kind where
  | module
  | sibling
  deriving DecidableEq

def Kind.name : Kind → String
  | .module => "module"
  | .sibling => "sibling"

def Kind.refine (text : String) : Except Mismatch Kind :=
  match text with
  | "module" => .ok .module
  | "sibling" => .ok .sibling
  | _ => .error (.unknownVariant text ["module", "sibling"])

def Kind.reader : Reader Kind := (readStringAs "variant identifier").refine Kind.refine

/-- How the fields of a kind of companion are worded where they do not suffice. -/
def Kind.wording : Kind → String
  | .module => "struct variant Production::Module with 2 elements"
  | .sibling => "struct variant Production::Sibling with 2 elements"

/-- The fields of a module companion read so far. -/
structure ModuleFields where
  name : Option ModuleName := none
  on : Option VersionRange := none

def moduleField (p : ModuleFields) (key : String) :
    Except Mismatch (Option (Value → Except Mismatch ModuleFields)) :=
  match key with
  | "name" => once key p.name fun v => do return { p with name := some (← ModuleName.ofValue v) }
  | "when" => once key p.on fun v => do return { p with on := some (← VersionRange.ofValue v) }
  | _ => .ok none

/-- The fields of a sibling companion read so far. -/
structure SiblingFields where
  child : Option String := none
  sibling : Option String := none

def siblingField (p : SiblingFields) (key : String) :
    Except Mismatch (Option (Value → Except Mismatch SiblingFields)) :=
  match key with
  | "child" => once key p.child fun v => do return { p with child := some (← v.asString) }
  | "sibling" => once key p.sibling fun v => do return { p with sibling := some (← v.asString) }
  | _ => .ok none

def ofTagged (t : Tagged Kind) : Except Mismatch Companion :=
  match t.tag, t.contents with
  | .module, .object ms => do
    let p ← Value.foldMembers moduleField {} ms
    return .module (← required "name" p.name) (p.on.getD .always)
  | .module, .array [name] => do return .module (← ModuleName.ofValue name) .always
  | .module, .array (name :: on :: more) => do
    let companion := Companion.module (← ModuleName.ofValue name) (← VersionRange.ofValue on)
    Value.noSurplus 2 (2 + more.length)
    return companion
  | .sibling, .object ms => do
    let p ← Value.foldMembers siblingField {} ms
    return .sibling (← required "child" p.child) (← required "sibling" p.sibling)
  | .sibling, .array [child] => do
    let _ ← child.asString
    .error (.invalidLength 1 t.tag.wording)
  | .sibling, .array (child :: beside :: more) => do
    let companion := Companion.sibling (← child.asString) (← beside.asString)
    Value.noSurplus 2 (2 + more.length)
    return companion
  | kind, _ => .error (.invalidLength 0 kind.wording)

def reader (depth : Nat) : Reader Companion :=
  (readTagged "internally tagged enum Production" "kind" Kind.reader depth).refine ofTagged

def toValue : Companion → Value
  | module name on =>
    .object ([("kind", .string Kind.module.name), ("name", name.toValue)]
      ++ if on.isAlways then [] else [("when", on.toValue)])
  | sibling child beside =>
    .object [("kind", .string Kind.sibling.name), ("child", .string child),
      ("sibling", .string beside)]

end Companion

/-! ## Families -/

namespace Family

/-- The fields of a family read so far. -/
structure Partial where
  pattern : Option Pattern := none
  companions : Option (List Companion) := none

def field (depth : Nat) (p : Partial) (key : String) : Except Mismatch (Option (Reader Partial)) :=
  match key with
  | "pattern" => once key p.pattern
    ((Pattern.reader depth).map fun x => { p with pattern := some x })
  | "imports" => once key p.companions
    ((readList depth Companion.reader).map fun x => { p with companions := some x })
  | _ => .ok none

def Partial.finish (p : Partial) : Except Mismatch Family := do
  return ⟨← required "pattern" p.pattern, p.companions.getD []⟩

def reader (depth : Nat) : Reader Family :=
  readRecord "struct RuleFamily" depth
    (fun depth input => (members (field depth) (input.length + 1) true {}).refine Partial.finish input)
    (fun depth input => do
      let (pattern, rest) ←
        position 0 "struct RuleFamily with 2 elements" (Pattern.reader depth) input
      let (companions, rest) ← positionOr 1 [] (readList depth Companion.reader) rest
      return (⟨pattern, companions⟩, rest))

def toValue (family : Family) : Value :=
  .object [("pattern", family.pattern.toValue),
    ("imports", .array (family.companions.map Companion.toValue))]

end Family

/-! ## Patches -/

namespace Patch

def Mode.name : Mode → String
  | .literal => "literal"
  | .regex => "regex"

def Mode.refine (text : String) : Except Mismatch Mode :=
  match text with
  | "literal" => .ok .literal
  | "regex" => .ok .regex
  | _ => .error (.unknownVariant text ["literal", "regex"])

def Mode.nameReader : Reader Mode := (readStringAs "variant identifier").refine Mode.refine

/-- A mode: its name, or an object with the name as its only key and `null` as the value. -/
def Mode.reader (depth : Nat) : Reader Mode := fun input =>
  match skipGap input with
  | [] => .error .truncated
  | some '"' :: rest => Mode.nameReader (some '"' :: rest)
  | some '\x7b' :: rest =>
    nested depth (fun _ => closedBy '\x7d' fun input => do
      let (mode, rest) ← Mode.nameReader input
      match skipGap (← colon rest) with
      | some 'n' :: rest => return (mode, ← readWord ['u', 'l', 'l'] rest)
      | other => .error (unexpected "unit" other)) rest
  | _ => .error .malformed

/-- The fields of a patch read so far. -/
structure Partial where
  module : Option ModuleName := none
  find : Option String := none
  replace : Option String := none
  mode : Option Mode := none

def field (depth : Nat) (p : Partial) (key : String) : Except Mismatch (Option (Reader Partial)) :=
  match key with
  | "module" => once key p.module (ModuleName.reader.map fun x => { p with module := some x })
  | "find" => once key p.find (readString.map fun x => { p with find := some x })
  | "replace" => once key p.replace (readString.map fun x => { p with replace := some x })
  | "kind" => once key p.mode ((Mode.reader depth).map fun x => { p with mode := some x })
  | _ => .ok none

def Partial.finish (p : Partial) : Except Mismatch Patch := do
  return ⟨← required "module" p.module, ← required "find" p.find, ← required "replace" p.replace,
    p.mode.getD .literal⟩

def reader (depth : Nat) : Reader Patch :=
  readRecord "struct PatchRule" depth
    (fun depth input => (members (field depth) (input.length + 1) true {}).refine Partial.finish input)
    (fun depth input => do
      let wording := "struct PatchRule with 4 elements"
      let (module, rest) ← position 0 wording ModuleName.reader input
      let (find, rest) ← position 1 wording readString rest
      let (replace, rest) ← position 2 wording readString rest
      let (mode, rest) ← positionOr 3 .literal (Mode.reader depth) rest
      return (⟨module, find, replace, mode⟩, rest))

def toValue (patch : Patch) : Value :=
  .object [("module", patch.module.toValue), ("find", .string patch.find),
    ("replace", .string patch.replace), ("kind", .string patch.mode.name)]

end Patch

/-! ## Aliases -/

namespace Alias

/-- The fields of an alias read so far. -/
structure Partial where
  source : Option ModuleName := none
  target : Option ModuleName := none

def field (p : Partial) (key : String) : Except Mismatch (Option (Reader Partial)) :=
  match key with
  | "from" => once key p.source (ModuleName.reader.map fun x => { p with source := some x })
  | "to" => once key p.target (ModuleName.reader.map fun x => { p with target := some x })
  | _ => .ok none

def Partial.finish (p : Partial) : Except Mismatch Alias := do
  return ⟨← required "from" p.source, ← required "to" p.target⟩

def reader (depth : Nat) : Reader Alias :=
  readRecord "struct AliasEntry" depth
    (fun _ input => (members field (input.length + 1) true {}).refine Partial.finish input)
    (fun _ input => do
      let wording := "struct AliasEntry with 2 elements"
      let (source, rest) ← position 0 wording ModuleName.reader input
      let (target, rest) ← position 1 wording ModuleName.reader rest
      return (⟨source, target⟩, rest))

def toValue (a : Alias) : Value :=
  .object [("from", a.source.toValue), ("to", a.target.toValue)]

end Alias

/-! ## Tables -/

namespace RuleTable

/-- The fields of a table read so far. -/
structure Partial where
  families : Option (List Family) := none
  patches : Option (List Patch) := none
  aliases : Option (List Alias) := none
  suppressed : Option (List ModuleName) := none

def field (depth : Nat) (p : Partial) (key : String) : Except Mismatch (Option (Reader Partial)) :=
  match key with
  | "implicit_imports" => once key p.families
    ((readList depth Family.reader).map fun x => { p with families := some x })
  | "source_patches" => once key p.patches
    ((readList depth Patch.reader).map fun x => { p with patches := some x })
  | "module_aliases" => once key p.aliases
    ((readList depth Alias.reader).map fun x => { p with aliases := some x })
  | "suppressed_warnings" => once key p.suppressed
    ((readList depth fun _ => ModuleName.reader).map fun x => { p with suppressed := some x })
  | _ => .ok none

def Partial.finish (p : Partial) : RuleTable :=
  ⟨p.families.getD [], p.patches.getD [], p.aliases.getD [], p.suppressed.getD []⟩

def reader (depth : Nat) : Reader RuleTable :=
  readRecord "struct RuleTable" depth
    (fun depth input => (members (field depth) (input.length + 1) true {}).map Partial.finish input)
    (fun depth input => do
      let (families, rest) ← positionOr 0 [] (readList depth Family.reader) input
      let (patches, rest) ← positionOr 1 [] (readList depth Patch.reader) rest
      let (aliases, rest) ← positionOr 2 [] (readList depth Alias.reader) rest
      let (suppressed, rest) ← positionOr 3 [] (readList depth fun _ => ModuleName.reader) rest
      return (⟨families, patches, aliases, suppressed⟩, rest))

def toValue (table : RuleTable) : Value :=
  .object [("implicit_imports", .array (table.families.map Family.toValue)),
    ("source_patches", .array (table.patches.map Patch.toValue)),
    ("module_aliases", .array (table.aliases.map Alias.toValue)),
    ("suppressed_warnings", .array (table.suppressed.map ModuleName.toValue))]

end RuleTable

/-! ## Documents -/

/-- The value of a whole document, with the faults of rule tables. -/
def readWhole {α : Type} (reader : Nat → Reader α) (input : Input) : Except Fault α :=
  match readDocument (reader maxDepth) input with
  | .ok a => .ok a
  | .error cause => .error (.badDocument cause)

namespace RuleTable

/-- The table in a text. -/
def ofText (text : String) : Except Fault RuleTable := readWhole reader (Json.ofText text)

/-- The table in some bytes. -/
def ofBytes (bytes : ByteArray) : Except Fault RuleTable := readWhole reader (Json.ofBytes bytes)

/-- The table as a text. -/
def toText (table : RuleTable) : String := table.toValue.render

/-- The table as bytes. -/
def toBytes (table : RuleTable) : ByteArray := table.toText.toUTF8

end RuleTable

end HiddenImports
