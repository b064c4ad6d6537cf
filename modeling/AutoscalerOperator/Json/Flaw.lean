namespace AutoscalerOperator.Json

inductive Flaw
  | listEnds
  | objectEnds
  | textEnds
  | valueEnds
  | noColon
  | noListComma
  | noObjectComma
  | noWord
  | noValue
  | noKey
  | trailingComma
  | trailing
  | badEscape
  | badNumber
  | numberTooGreat
  | controlInText
  | unpairedHalf
  | missingHalf
  | tooDeep
  deriving DecidableEq

def Flaw.message : Flaw → String
  | .listEnds => "EOF while parsing a list"
  | .objectEnds => "EOF while parsing an object"
  | .textEnds => "EOF while parsing a string"
  | .valueEnds => "EOF while parsing a value"
  | .noColon => "expected `:`"
  | .noListComma => "expected `,` or `]`"
  | .noObjectComma => "expected `,` or `\x7d`"
  | .noWord => "expected ident"
  | .noValue => "expected value"
  | .noKey => "key must be a string"
  | .trailingComma => "trailing comma"
  | .trailing => "trailing characters"
  | .badEscape => "invalid escape"
  | .badNumber => "invalid number"
  | .numberTooGreat => "number out of range"
  | .controlInText => "control character (\\u0000-\\u001F) found while parsing a string"
  | .unpairedHalf => "lone leading surrogate in hex escape"
  | .missingHalf => "unexpected end of hex escape"
  | .tooDeep => "recursion limit exceeded"

end AutoscalerOperator.Json
