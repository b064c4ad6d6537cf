namespace AutoscalerOperator.Api

inductive UriError
  | tooLong
  | character
  deriving DecidableEq

def UriError.message : UriError → String
  | .tooLong => "uri too long"
  | .character => "invalid uri character"

namespace Uri

def limit : Nat := 65534

def isVisible (c : Char) : Bool := 0x21 ≤ c.toNat && c.toNat != 0x7F

def isPathChar (c : Char) : Bool := isVisible c && !(c == '<' || c == '>' || c.toNat == 0x60)

def isQueryChar (c : Char) : Bool := isVisible c && !(c == '<' || c == '>' || c == '"')

/-- A path and what follows it up to a fragment, which the server does not get to see. -/
def targetFrom : (inQuery : Bool) → List Char → Except UriError (List Char)
  | _, [] | _, '#' :: _ => .ok []
  | false, '?' :: rest => ('?' :: ·) <$> targetFrom true rest
  | inQuery, c :: rest =>
    if if inQuery then isQueryChar c else isPathChar c then (c :: ·) <$> targetFrom inQuery rest
    else .error .character

def target (text : String) : Except UriError String :=
  if limit < text.utf8ByteSize then .error .tooLong
  else String.ofList <$> targetFrom false text.toList

end Uri

end AutoscalerOperator.Api
