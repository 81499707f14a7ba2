/-!
# What is wrong with an ordered expression

The mistakes that can be made in writing an ordered expression, and what is said about them.
-/

namespace Scaffold

namespace Ordered

/-- A mistake in an expression. -/
inductive Fault where
  | endsInBackslash
  | endsInControl
  | unknownEscape
  | countsOutOfOrder
  | countTooBig
  | unclosedSet
  | escapeInSet
  | rangeOutOfOrder
  | nothingToRepeat
  | unknownGroupKind
  | classOutsideSet
  | collatingElement
  | unclosedGroup
  | noSuchGroup
  | unclosedComment
  | tooDeep
  | unopenedGroup
  | unclosedCondition
  | unfixedWidth
  | relativeZero
  | tooManyBranches
  | assertionExpected
  | digitExpected
  | unknownClass
  | valueTooLarge
  | unsupportedEscape
  | calloutTooBig
  | unclosedCallout
  | unknownNamedKind
  | unclosedName
  | repeatedName
  | nameStartsWithDigit
  | malformedProperty
  | unknownProperty
  | nameTooLong
  | invalidRange
  | octalTooLarge
  | tooManyDefined
  | noBraceAfterOctal
  | badGroupEscape
  | unclosedCall
  | unknownVerb
  | groupNumberTooBig
  | nameExpected
  | notOctal
  | severalNames
  | markWithoutName
  | notHexadecimal
  | badControl
  | badNameEscape
  | anyInSet
  | noDigits
  | badVersion
  | unclosedCalloutText
  | badCalloutText
  | widthTooLarge
  | codePointByNumber
  | secondHyphen
  | unknownAssertion
  | keepInLook
deriving DecidableEq, Repr, Inhabited

/-- What is said about a mistake. -/
def Fault.message : Fault → String
  | .endsInBackslash => "\\ at end of pattern"
  | .endsInControl => "\\c at end of pattern"
  | .unknownEscape => "unrecognized character follows \\"
  | .countsOutOfOrder => "numbers out of order in \x7b\x7d quantifier"
  | .countTooBig => "number too big in \x7b\x7d quantifier"
  | .unclosedSet => "missing terminating ] for character class"
  | .escapeInSet => "escape sequence is invalid in character class"
  | .rangeOutOfOrder => "range out of order in character class"
  | .nothingToRepeat => "quantifier does not follow a repeatable item"
  | .unknownGroupKind => "unrecognized character after (? or (?-"
  | .classOutsideSet => "POSIX named classes are supported only within a class"
  | .collatingElement => "POSIX collating elements are not supported"
  | .unclosedGroup => "missing closing parenthesis"
  | .noSuchGroup => "reference to non-existent subpattern"
  | .unclosedComment => "missing ) after (?# comment"
  | .tooDeep => "parentheses are too deeply nested"
  | .unopenedGroup => "unmatched closing parenthesis"
  | .unclosedCondition => "missing closing parenthesis for condition"
  | .unfixedWidth => "lookbehind assertion is not fixed length"
  | .relativeZero => "a relative value of zero is not allowed"
  | .tooManyBranches => "conditional subpattern contains more than two branches"
  | .assertionExpected => "assertion expected after (?( or (?(?C)"
  | .digitExpected => "digit expected after (?+ or (?-"
  | .unknownClass => "unknown POSIX class name"
  | .valueTooLarge => "character code point value in \\x\x7b\x7d or \\o\x7b\x7d is too large"
  | .unsupportedEscape => "PCRE2 does not support \\F, \\L, \\l, \\N\x7bname\x7d, \\U, or \\u"
  | .calloutTooBig => "number after (?C is greater than 255"
  | .unclosedCallout => "closing parenthesis for (?C expected"
  | .unknownNamedKind => "unrecognized character after (?P"
  | .unclosedName => "syntax error in subpattern name (missing terminator?)"
  | .repeatedName => "two named subpatterns have the same name (PCRE2_DUPNAMES not set)"
  | .nameStartsWithDigit => "subpattern name must start with a non-digit"
  | .malformedProperty => "malformed \\P or \\p sequence"
  | .unknownProperty => "unknown property after \\P or \\p"
  | .nameTooLong => "subpattern name is too long (maximum 32 code units)"
  | .invalidRange => "invalid range in character class"
  | .octalTooLarge => "octal value is greater than \\377 in 8-bit non-UTF-8 mode"
  | .tooManyDefined => "DEFINE subpattern contains more than one branch"
  | .noBraceAfterOctal => "missing opening brace after \\o"
  | .badGroupEscape =>
    "\\g is not followed by a braced, angle-bracketed, or quoted name/number or by a plain number"
  | .unclosedCall => "(?R (recursive pattern call) must be followed by a closing parenthesis"
  | .unknownVerb => "(*VERB) not recognized or malformed"
  | .groupNumberTooBig => "subpattern number is too big"
  | .nameExpected => "subpattern name expected"
  | .notOctal => "non-octal character in \\o\x7b\x7d (closing brace missing?)"
  | .severalNames => "different names for subpatterns of the same number are not allowed"
  | .markWithoutName => "(*MARK) must have an argument"
  | .notHexadecimal => "non-hex character in \\x\x7b\x7d (closing brace missing?)"
  | .badControl => "\\c must be followed by a printable ASCII character"
  | .badNameEscape => "\\k is not followed by a braced, angle-bracketed, or quoted name"
  | .anyInSet => "\\N is not supported in a class"
  | .noDigits => "digits missing in \\x\x7b\x7d or \\o\x7b\x7d or \\N\x7bU+\x7d"
  | .badVersion => "syntax error or number too big in (?(VERSION condition"
  | .unclosedCalloutText => "missing terminating delimiter for callout with string argument"
  | .badCalloutText => "unrecognized string delimiter follows (?C"
  | .widthTooLarge => "lookbehind assertion is too long"
  | .codePointByNumber => "\\N\x7bU+dddd\x7d is supported only in Unicode (UTF) mode"
  | .secondHyphen => "invalid hyphen in option setting"
  | .unknownAssertion => "(*alpha_assertion) not recognized"
  | .keepInLook =>
    "\\K is not allowed in lookarounds (but see PCRE2_EXTRA_ALLOW_LOOKAROUND_BSK)"

end Ordered

end Scaffold
