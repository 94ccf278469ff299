/-!
# Why a pattern is refused
-/

namespace HiddenImports.Regex

/-- The ways in which a pattern can be wrong. -/
inductive Error where
  | groupUnclosed
  | groupUnopened
  | groupName
  | duplicateGroupName
  | lookAround
  | flag
  | repetitionMissing
  | repetitionCount
  | escape
  | backReference
  | hexadecimal
  | wordBoundary
  | classUnclosed
  | classRange
  | classItem
  | nestedTooDeep
  | invalidText
  | unknownProperty
  | tooLarge
  deriving DecidableEq, Repr

/-- The error in words. -/
def Error.message : Error → String
  | .groupUnclosed => "unclosed group"
  | .groupUnopened => "unopened group"
  | .groupName => "invalid name of a group"
  | .duplicateGroupName => "two groups of one name"
  | .lookAround => "look-around is not supported"
  | .flag => "invalid flags"
  | .repetitionMissing => "repetition of nothing"
  | .repetitionCount => "invalid repetition count"
  | .escape => "unknown escape"
  | .backReference => "back-references are not supported"
  | .hexadecimal => "invalid character number"
  | .wordBoundary => "unknown word boundary"
  | .classUnclosed => "unclosed character class"
  | .classRange => "invalid range in a character class"
  | .classItem => "invalid item in a character class"
  | .nestedTooDeep => "nested too deep"
  | .invalidText => "matches that are no text"
  | .unknownProperty => "unknown character property"
  | .tooLarge => "too large"

end HiddenImports.Regex
