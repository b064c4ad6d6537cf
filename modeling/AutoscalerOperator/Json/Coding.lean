import AutoscalerOperator.Json.Reader

namespace AutoscalerOperator

/-- How the values of a type are read, from a document or from the front of a text. In a document
    members come in the order of their keys, in a text as they stand. -/
structure Decoder (α : Type) where
  ofJson : Json → Decoded α
  reader : Json.TextReader α

class ToJson (α : Type) where
  toJson : α → Json

class OfJson (α : Type) where
  decoder : Decoder α

export ToJson (toJson)

def ofJson {α : Type} [OfJson α] (json : Json) : Decoded α :=
  (OfJson.decoder : Decoder α).ofJson json

namespace Decoder

open Json Reading

variable {α β : Type}

instance : Functor Decoder where
  map f d := ⟨fun json => f <$> d.ofJson json, fun depth => f <$> d.reader depth⟩

/-- A value that not every document of its form gives. In a text, what is wrong with it shows at the
    end of the array or object around it. -/
def check (d : Decoder α) (f : α → Decoded β) : Decoder β where
  ofJson json := do f (← d.ofJson json)
  reader depth := do ofDecoded (f (← d.reader depth))

def simple (ofJson : Json → Decoded α) : Decoder α where
  ofJson
  reader _ := settled do
    match ← ahead? with
    | some '[' => ofDecoded (ofJson (.arr []))
    | some '\x7b' => ofDecoded (ofJson (.obj []))
    | _ => ofDecoded (ofJson (← Reading.simple))

/-- A type with several kinds of values. Arrays and objects of no such kind are refused once they
    are entered. -/
def either (ofJson : Json → Decoded α) (array object : Option (TextReader α)) : Decoder α where
  ofJson
  reader depth := do
    match ← ahead? with
    | some '[' => enclosed .array (array.getD fun _ => ofDecoded (ofJson (.arr []))) depth
    | some '\x7b' => enclosed .object (object.getD fun _ => ofDecoded (ofJson (.obj []))) depth
    | _ => settled do ofDecoded (ofJson (← Reading.simple))

def optional (d : Decoder α) : Decoder (Option α) where
  ofJson
    | .null => .ok none
    | json => some <$> d.ofJson json
  reader depth := do
    if (← ahead?) = some 'n' then
      discard Reading.simple
      return none
    else some <$> d.reader depth

def list (d : Decoder α) : Decoder (List α) where
  ofJson
    | .arr items => items.mapM d.ofJson
    | json => json.mismatch "a sequence"
  reader depth := do
    if (← ahead?) = some '[' then enclosed .array (fun depth => items (d.reader depth)) depth
    else Reading.mismatch "a sequence"

def sortedMap (d : Decoder α) : Decoder (SortedMap α) where
  ofJson
    | .obj members =>
      members.foldlM (fun map (key, json) => map.insert key <$> d.ofJson json) .empty
    | json => json.mismatch "a map"
  reader depth := do
    let member (depth : Nat) (map : SortedMap α) (key : String) : Reading (SortedMap α) := do
      colon
      return map.insert key (← d.reader depth)
    if (← ahead?) = some '\x7b' then
      enclosed .object (fun depth => members (member depth) .empty) depth
    else Reading.mismatch "a map"

def integer (type : String) (least greatest : Int) (ofInt : Int → α) : Decoder α :=
  simple fun
    | .int n =>
      if least ≤ n ∧ n ≤ greatest then .ok (ofInt n) else .error (.wrongValue (.integer n) type)
    | json => json.mismatch type

end Decoder

namespace Json

instance : ToJson Json := ⟨id⟩

instance : OfJson Json := ⟨⟨.ok, Reading.document⟩⟩

instance : ToJson String := ⟨.str⟩

instance : OfJson String := ⟨.simple fun
  | .str text => .ok text
  | json => json.mismatch "a string"⟩

instance : ToJson Bool := ⟨.bool⟩

instance : OfJson Bool := ⟨.simple fun
  | .bool value => .ok value
  | json => json.mismatch "a boolean"⟩

instance : ToJson Int32 := ⟨fun n => .int n.toInt⟩

instance : OfJson Int32 := ⟨.integer "i32" Int32.minValue.toInt Int32.maxValue.toInt Int32.ofInt⟩

instance : ToJson Int64 := ⟨fun n => .int n.toInt⟩

instance : OfJson Int64 := ⟨.integer "i64" Int64.minValue.toInt Int64.maxValue.toInt Int64.ofInt⟩

instance : OfJson UInt16 := ⟨.integer "u16" 0 (UInt16.size - 1 : Nat) fun n => .ofNat n.toNat⟩

instance : OfJson UInt32 := ⟨.integer "u32" 0 (UInt32.size - 1 : Nat) fun n => .ofNat n.toNat⟩

instance : ToJson Double := ⟨.float⟩

instance : OfJson Double := ⟨.simple fun
  | .float d => .ok d
  | .int n =>
    match Double.ofInt? n with
    | some d => .ok d
    | none => .error (.wrongValue (.integer n) "f64")
  | json => json.mismatch "f64"⟩

instance : ToJson Instant := ⟨fun t => .str t.toText⟩

instance : OfJson Instant := ⟨.simple fun
  | .str text => (Instant.ofText text).mapError .instant
  | json => json.mismatch "an RFC 3339 formatted date and time string"⟩

section

variable {α : Type}

instance [ToJson α] : ToJson (Option α) where
  toJson
    | none => .null
    | some value => toJson value

instance [OfJson α] : OfJson (Option α) := ⟨OfJson.decoder.optional⟩

instance [ToJson α] : ToJson (List α) := ⟨fun values => .arr (values.map toJson)⟩

instance [OfJson α] : OfJson (List α) := ⟨OfJson.decoder.list⟩

instance [ToJson α] : ToJson (SortedMap α) :=
  ⟨fun map => .obj (map.entries.map fun (key, value) => (key, toJson value))⟩

instance [OfJson α] : OfJson (SortedMap α) := ⟨OfJson.decoder.sortedMap⟩

end

/-- Reads a text as a value, arrays and objects nested at most `depth` deep. The first problem in
    the text counts. -/
def decodeText (α : Type) [OfJson α] (depth : Nat) (text : String) : Except TextProblem α :=
  ((OfJson.decoder : Decoder α).reader depth).ofText text

end Json

end AutoscalerOperator
