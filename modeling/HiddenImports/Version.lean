import HiddenImports.Text.Blank

/-!
# Versions of the target runtime

A version is a major and a minor number. `Version.read?` takes one, two or three numbers joined by
dots, the third of which is checked and dropped, with blanks around them. A `VersionRange` is a
half-open range whose ends may be missing.
-/

namespace HiddenImports

/-- A version `major.minor`. -/
structure Version where
  major : UInt8
  minor : UInt8
  deriving DecidableEq, Repr

namespace Version

/-- The version that is assumed where none is given. -/
def default : Version := ⟨3, 12⟩

instance : Inhabited Version := ⟨default⟩

/-- Versions are ordered by major number, then by minor number. -/
def compare (a b : Version) : Ordering :=
  (Ord.compare a.major b.major).then (Ord.compare a.minor b.minor)

instance : Ord Version := ⟨compare⟩

/-- The first version comes before the second. -/
def before (a b : Version) : Bool :=
  a.major < b.major || (a.major == b.major && a.minor < b.minor)

/-- The written form `major.minor`. -/
def render (v : Version) : String :=
  s!"{v.major.toNat}.{v.minor.toNat}"

instance : ToString Version := ⟨render⟩

/-- The number written by a list of decimal digits. -/
def readDigits (digits : List Char) : Nat :=
  digits.foldl (fun n c => n * 10 + (c.toNat - 48)) 0

/-- A number from 0 to 255: decimal digits, at least one, with an optional plus sign before them. -/
def readNumber? (text : List Char) : Option UInt8 :=
  let digits := match text with
    | '+' :: rest => rest
    | _ => text
  if digits.isEmpty || !digits.all Char.isDigit then none
  else
    let n := readDigits digits
    if n ≤ 255 then some (UInt8.ofNat n) else none

/-- The version written by a text, if it is one. -/
def read? (text : String) : Option Version :=
  match List.splitOn '.' (Text.trim text.toList) with
  | [major] => do return ⟨← readNumber? major, 0⟩
  | [major, minor] => do return ⟨← readNumber? major, ← readNumber? minor⟩
  | [major, minor, micro] => do
    let version : Version := ⟨← readNumber? major, ← readNumber? minor⟩
    let _ ← readNumber? micro
    return version
  | _ => none

end Version

/-- The versions from `atLeast` on and before `below`; an end that is missing does not bound. -/
structure VersionRange where
  below : Option Version := none
  atLeast : Option Version := none
  deriving DecidableEq, Repr

namespace VersionRange

/-- The range of all versions. -/
def always : VersionRange := {}

/-- Neither end bounds. -/
def isAlways (range : VersionRange) : Bool :=
  range.below.isNone && range.atLeast.isNone

/-- The version lies in the range. -/
def holds (range : VersionRange) (version : Version) : Bool :=
  range.below.all (fun end_ => version.before end_)
    && range.atLeast.all (fun start => !version.before start)

end VersionRange

end HiddenImports
