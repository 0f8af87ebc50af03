/-!
# What can be wrong with a document
-/

namespace Handover.Yaml

/-- Why a text is no YAML stream, or a value has no written form. -/
inductive Fault where
  | forbiddenCharacter (c : Char)
  | tabInIndentation
  | missingColon
  | badEscape
  | unclosedQuote
  | markerInQuote
  | badAnchor
  | badTag
  | badDirective
  | badBlockHeader
  | sequenceNotAllowedHere
  | keyNotAllowedHere
  | valueNotAllowedHere
  | unexpectedColon
  | noToken (c : Char)
  | expectedDocument
  | expectedNode
  | expectedKey
  | expectedItem
  | expectedComma
  | undefinedTagHandle
  | unknownAlias (name : String)
  | nestedTooDeep
  | tooManyAliases
  | oversizedInteger (text : String)
  | badTaggedScalar (tag : String)
  | repeatedKey
  | severalDocuments
  | nestedTags
  | lostMapping
  deriving DecidableEq, Repr, Inhabited

def Fault.message : Fault → String
  | .forbiddenCharacter c => s!"control characters are not allowed: {c.toNat}"
  | .tabInIndentation => "found a tab character where indentation is expected"
  | .missingColon => "could not find expected ':'"
  | .badEscape => "found an unknown or malformed escape sequence"
  | .unclosedQuote => "found unexpected end of stream in a quoted scalar"
  | .markerInQuote => "found unexpected document indicator in a quoted scalar"
  | .badAnchor => "did not find expected alphabetic or numeric character"
  | .badTag => "found a malformed tag"
  | .badDirective => "found a malformed directive"
  | .badBlockHeader => "found a malformed block scalar header"
  | .sequenceNotAllowedHere => "block sequence entries are not allowed in this context"
  | .keyNotAllowedHere => "mapping keys are not allowed in this context"
  | .valueNotAllowedHere => "mapping values are not allowed in this context"
  | .unexpectedColon => "found unexpected ':'"
  | .noToken c => s!"found character that cannot start any token: {c.toNat}"
  | .expectedDocument => "did not find expected <document start>"
  | .expectedNode => "did not find expected node content"
  | .expectedKey => "did not find expected key"
  | .expectedItem => "did not find expected '-' indicator"
  | .expectedComma => "did not find expected ',' or closing bracket"
  | .undefinedTagHandle => "found undefined tag handle"
  | .unknownAlias name => s!"unknown anchor: {name}"
  | .nestedTooDeep => "recursion limit exceeded"
  | .tooManyAliases => "repetition limit exceeded"
  | .oversizedInteger text => s!"integer out of range: {text}"
  | .badTaggedScalar tag => s!"the scalar does not have the type of its tag {tag}"
  | .repeatedKey => "duplicate entry in a mapping"
  | .severalDocuments => "more than one document where one is expected"
  | .nestedTags => "a tag directly below a tag has no written form"
  | .lostMapping => "a mapping of one entry cannot start another one as its key"

end Handover.Yaml
