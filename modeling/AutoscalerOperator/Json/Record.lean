import AutoscalerOperator.Json.Coding

namespace AutoscalerOperator

inductive Presence
  | optional
  /-- The field may be missing among members, but not among the items of an array. -/
  | inArrays
  | always
  deriving DecidableEq

/-- A field of a record type: the key of the member that holds it, and what the member's value makes
    of a record. -/
structure Field (α : Type) where
  key : String
  presence : Presence := .optional
  value : Decoder (α → α)

namespace Field

open Json Reading

variable {α β : Type}

def put [OfJson β] (presence : Presence) (key : String) (set : α → β → α) : Field α where
  key
  presence
  value := (fun value record => set record value) <$> OfJson.decoder

def defaulted [OfJson β] (key : String) (set : α → β → α) : Field α := put .optional key set

def optional [OfJson β] (key : String) (set : α → Option β → α) : Field α := defaulted key set

def lenient [OfJson β] (key : String) (default : β) (set : α → β → α) : Field α :=
  optional key fun record value => set record (value.getD default)

def required [OfJson β] (key : String) (set : α → β → α) : Field α := put .always key set

def fixed (key wanted : String) : Field α where
  key
  value := (OfJson.decoder : Decoder String).check fun text =>
    if text = wanted then .ok id else .error (.wrongValue (.text text) wanted)

def checked (decoder : Decoder β) (key : String) : Field α where
  key
  value := (fun _ => id) <$> decoder.optional

def find? (fields : List (Field α)) (key : String) : Option (Field α) := fields.find? (·.key = key)

def fill (fields : List (Field α)) (record : α) (key : String) (json : Json) : Decoded α :=
  match find? fields key with
  | some field => (· record) <$> field.value.ofJson json
  | none => .ok record

def readMember (fields : List (Field α)) (depth : Nat) (record : α) (key : String) :
    Reading α := do
  colon
  match find? fields key with
  | some field => return (← field.value.reader depth) record
  | none =>
    skip
    return record

def requireAll (fields : List (Field α)) (keys : List String) : Decoded Unit :=
  match fields.find? fun field => field.presence = .always ∧ field.key ∉ keys with
  | some field => .error (.missingField field.key)
  | none => .ok ()

/-- A record from the items of an array, one for each field in order. The fields may be more than
    the items if they are optional. -/
def fillItems (wanted : String) (count : Nat) :
    (index : Nat) → List (Field α) → List Json → α → Decoded α
  | _, [], [], record => .ok record
  | _, [], _ :: _, _ => .error (.wrongLength count "fewer elements in array")
  | index, field :: fields, [], record =>
    if field.presence = .optional then fillItems wanted count (index + 1) fields [] record
    else .error (.wrongLength index wanted)
  | index, field :: fields, item :: items, record => do
    fillItems wanted count (index + 1) fields items ((← field.value.ofJson item) record)

def readItems (wanted : String) (depth : Nat) :
    (index : Nat) → List (Field α) → α → Reading α
  | _, [], record => return record
  | index, field :: fields, record => do
    if ← nextItem (index = 0) then
      readItems wanted depth (index + 1) fields ((← field.value.reader depth) record)
    else if field.presence = .optional then readItems wanted depth (index + 1) fields record
    else refuse (.wrongLength index wanted)

def readOnce (fields : List (Field α)) (depth : Nat) (state : α × List String) (key : String) :
    Reading (α × List String) := do
  let (record, keys) := state
  if (find? fields key).isSome ∧ key ∈ keys then refuse (.duplicateField key)
  return (← readMember fields depth record key, key :: keys)

end Field

namespace Decoder

open Json Reading

variable {α : Type}

/-- The members of an object as a record of the Kubernetes API. Of two members under one key the
    later counts. -/
def objectBody (start : α) (fields : List (Field α)) : TextReader α := fun depth =>
  members (Field.readMember fields depth) start

def object (type : String) (start : α) (fields : List (Field α)) : Decoder α :=
  let ofJson (json : Json) : Decoded α :=
    match json with
    | .obj members =>
      members.foldlM (fun record (key, json) => Field.fill fields record key json) start
    | json => json.mismatch type
  { ofJson
    reader := fun depth => do
      match ← ahead? with
      | some '\x7b' => enclosed .object (objectBody start fields) depth
      | some '[' => enclosed .array (fun _ => refuse (.wrongType .sequence type)) depth
      | _ => Reading.mismatch type }

/-- A record of the operator's own API: an object, or an array of its fields in their order. -/
def record (type : String) (start : α) (fields : List (Field α)) : Decoder α :=
  let wanted := "struct " ++ type
  let wantedItems := wanted ++ " with " ++ toString fields.length ++
    if fields.length = 1 then " element" else " elements"
  { ofJson := fun
      | .obj members => do
        let record ← members.foldlM (fun record (key, json) => Field.fill fields record key json)
          start
        Field.requireAll fields (members.map (·.1))
        return record
      | .arr items => Field.fillItems wantedItems items.length 0 fields items start
      | json => json.mismatch wanted
    reader := fun depth => do
      let object (depth : Nat) : Reading α := do
        let (record, keys) ← members (Field.readOnce fields depth) (start, [])
        ofDecoded (Field.requireAll fields keys)
        return record
      match ← ahead? with
      | some '\x7b' => enclosed .object object depth
      | some '[' =>
        enclosed .array (fun depth => Field.readItems wantedItems depth 0 fields start) depth
      | _ => Reading.mismatch wanted }

end Decoder

end AutoscalerOperator
