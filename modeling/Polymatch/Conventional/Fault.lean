/-! # Errors of the conventional pattern syntax -/

namespace Polymatch.Conventional

/-- Why a text is no pattern in the conventional syntax. -/
inductive Fault
  | classEscapeInvalid
  | classRangeInvalid
  | classRangeLiteral
  | classUnclosed
  | countEmpty
  | countInvalid
  | countOutOfOrder
  | countUnclosed
  | escapeHexEmpty
  | escapeHexInvalid
  | escapeHexInvalidDigit
  | escapeUnexpectedEnd
  | escapeUnrecognized
  | flagDanglingNegation
  | flagDuplicate
  | flagRepeatedNegation
  | flagUnexpectedEnd
  | flagUnrecognized
  | groupNameDuplicate
  | groupNameEmpty
  | groupNameInvalid
  | groupNameUnexpectedEnd
  | groupUnclosed
  | groupUnopened
  | invalidUtf8
  | nestedTooDeep
  | propertyNotFound
  | propertyValueNotFound
  | repetitionMissing
  | unicodeClassInvalid
  | unicodeNotAllowed
  | unsupportedBackreference
  | unsupportedLookAround
  | wordBoundaryUnclosed
  | wordBoundaryUnrecognized
  deriving DecidableEq, Repr, Inhabited

namespace Fault

def message : Fault → String
  | classEscapeInvalid => "invalid escape sequence found in character class"
  | classRangeInvalid => "invalid character class range"
  | classRangeLiteral => "invalid range boundary, must be a literal"
  | classUnclosed => "unclosed character class"
  | countEmpty => "repetition quantifier expects a valid decimal"
  | countInvalid => "decimal literal invalid"
  | countOutOfOrder => "invalid repetition count range"
  | countUnclosed => "unclosed counted repetition"
  | escapeHexEmpty => "hexadecimal literal empty"
  | escapeHexInvalid => "hexadecimal literal is not a scalar value"
  | escapeHexInvalidDigit => "invalid hexadecimal digit"
  | escapeUnexpectedEnd => "incomplete escape sequence"
  | escapeUnrecognized => "unrecognized escape sequence"
  | flagDanglingNegation => "dangling flag negation operator"
  | flagDuplicate => "duplicate flag"
  | flagRepeatedNegation => "flag negation operator repeated"
  | flagUnexpectedEnd => "expected flag but got end of pattern"
  | flagUnrecognized => "unrecognized flag"
  | groupNameDuplicate => "duplicate capture group name"
  | groupNameEmpty => "empty capture group name"
  | groupNameInvalid => "invalid capture group character"
  | groupNameUnexpectedEnd => "unclosed capture group name"
  | groupUnclosed => "unclosed group"
  | groupUnopened => "unopened group"
  | invalidUtf8 => "pattern can match invalid UTF-8"
  | nestedTooDeep => "pattern is nested too deeply"
  | propertyNotFound => "property not found"
  | propertyValueNotFound => "property value not found"
  | repetitionMissing => "repetition operator missing expression"
  | unicodeClassInvalid => "invalid Unicode character class"
  | unicodeNotAllowed => "Unicode not allowed here"
  | unsupportedBackreference => "backreferences are not supported"
  | unsupportedLookAround => "look-around is not supported"
  | wordBoundaryUnclosed => "special word boundary assertion is unclosed"
  | wordBoundaryUnrecognized => "unrecognized special word boundary assertion"

end Fault

end Polymatch.Conventional
