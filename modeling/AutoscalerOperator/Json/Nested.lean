import AutoscalerOperator.Json.Skip

namespace AutoscalerOperator.Json

/-! Arrays and objects at the front of a text, read part by part. -/

namespace Reading

variable {α σ : Type}

def close : Nest → Reading Unit
  | .array => do
    match ← ahead? with
    | none => failNext .listEnds
    | some ']' => pass
    | some ',' => do
      pass
      if (← ahead?) = some ']' then failNext .trailingComma else failNext .trailing
    | some _ => failNext .trailing
  | .object => do
    match ← ahead? with
    | none => failNext .objectEnds
    | some '\x7d' => pass
    | some ',' => failNext .trailingComma
    | some _ => failNext .trailing

def leave (nest : Nest) (text : List Char) : List Char :=
  match nest, text.dropWhile isBlank with
  | .array, ']' :: rest => rest
  | .array, ',' :: rest => rest.dropWhile isBlank
  | .object, '\x7d' :: rest => rest
  | _, rest => rest

/-- An array or object whose bracket is next. Faults of it as a whole show at its end. -/
def nested (nest : Nest) (body : Reading α) : Reading α := do
  pass
  let value ← fun text => (body text).mapError (·.around (leave nest))
  close nest
  return value

def enclosed (nest : Nest) (body : TextReader α) : TextReader α
  | 0 => failNext .tooDeep
  | depth + 1 => nested nest (body depth)

def nextItem (isFirst : Bool) : Reading Bool := do
  match ← ahead? with
  | none => failNext .listEnds
  | some ']' => return false
  | some c =>
    if isFirst then return true
    if c = ',' then
      pass
      match ← ahead? with
      | none => failNext .valueEnds
      | some ']' => failNext .trailingComma
      | some _ => return true
    else failNext .noListComma

def nextKey (isFirst : Bool) : Reading (Option String) := do
  match ← ahead? with
  | none => failNext .objectEnds
  | some '\x7d' => return none
  | some c =>
    if !isFirst then
      if c = ',' then
        pass
        match ← ahead? with
        | none => failNext .valueEnds
        | some '\x7d' => failNext .trailingComma
        | some _ => pure ()
      else failNext .noObjectComma
    if (← next?) = some '"' then
      pass
      return some (← text)
    failNext .noKey

/-- The items of an array after those that were read before, the last of them first. Each step reads
    one character of `fuel` or more. -/
def itemsAfter (item : Reading α) (before : List α) : (fuel : List Char) → Reading (List α)
  | [] => failNext .listEnds
  | _ :: fuel => do
    if ← nextItem before.isEmpty then
      let value ← item
      itemsAfter item (value :: before) fuel
    else return before.reverse

def items (item : Reading α) : Reading (List α) := do itemsAfter item [] (← get)

def membersFrom (member : σ → String → Reading σ) (isFirst : Bool) (state : σ) :
    (fuel : List Char) → Reading σ
  | [] => failNext .objectEnds
  | _ :: fuel => do
    match ← nextKey isFirst with
    | none => return state
    | some key => do
      let state ← member state key
      membersFrom member false state fuel

def members (member : σ → String → Reading σ) (start : σ) : Reading σ := do
  membersFrom member true start (← get)

def mismatch (wanted : String) : Reading α := settled do
  match ← ahead? with
  | some '[' => refuse (.wrongType .sequence wanted)
  | some '\x7b' => refuse (.wrongType .map wanted)
  | _ => refuse (.wrongType (.ofJson (← simple)) wanted)

def documentOf (array object : Reading Json) : Reading Json := do
  match ← ahead? with
  | some '[' => array
  | some '\x7b' => object
  | _ => simple

def plainDocument : TextReader Json
  | 0 => documentOf (failNext .tooDeep) (failNext .tooDeep)
  | depth + 1 =>
    let member (before : List (String × Json)) (key : String) : Reading (List (String × Json)) := do
      colon
      return (key, ← plainDocument depth) :: before
    documentOf (nested .array (.arr <$> items (plainDocument depth)))
      (nested .object ((.obj ·.reverse) <$> members member []))

end Reading

end AutoscalerOperator.Json
