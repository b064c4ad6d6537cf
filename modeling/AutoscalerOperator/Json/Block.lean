import AutoscalerOperator.Json.Render

namespace AutoscalerOperator.Json

/-! Documents as YAML in block style. -/

def isPlainChar (c : Char) : Bool := c.isAlphanum || c == '.' || c == '/' || c == '-' || c == '_'

def reservedWords : List String := ["null", "true", "false", "yes", "no", "on", "off", "y", "n"]

def blockText (text : String) : String :=
  let chars := text.toList
  let plain := (chars.head?.any Char.isAlpha) && chars.all isPlainChar &&
    !reservedWords.contains text.toLower
  if plain then text else renderText text

def inline? : Json → Option String
  | .arr [] => some "[]"
  | .obj [] => some "\x7b\x7d"
  | .arr _ | .obj _ => none
  | .str text => some (blockText text)
  | json => some json.render

def indented (lines : List String) : List String := lines.map ("  " ++ ·)

def dashed : List String → List String
  | [] => ["-"]
  | line :: lines => ("- " ++ line) :: indented lines

def isArray : Json → Bool
  | .arr _ => true
  | _ => false

mutual

def blockLines : Json → List String
  | .arr (item :: items) => blockItems (item :: items)
  | .obj (member :: members) => blockMembers (member :: members)
  | json => (inline? json).toList

def blockItems : List Json → List String
  | [] => []
  | item :: items => dashed (blockLines item) ++ blockItems items

def blockMembers : List (String × Json) → List String
  | [] => []
  | (key, value) :: members =>
    (match inline? value with
      | some text => [blockText key ++ ": " ++ text]
      | none =>
        (blockText key ++ ":") ::
          if value.isArray then blockLines value else indented (blockLines value)) ++
      blockMembers members

end

def toYaml (json : Json) : String := "\n".intercalate json.blockLines ++ "\n"

end AutoscalerOperator.Json
