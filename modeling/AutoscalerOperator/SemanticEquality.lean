import AutoscalerOperator.Quantity

namespace AutoscalerOperator

namespace Json

/-- What the place of a value says about the strings in it: whether a string there is an amount, and
    whether one that is a member of an object there is. -/
structure Place where
  amount : Bool := false
  amounts : Bool := false
  deriving DecidableEq

namespace Place

/-- The members whose strings are amounts, as are all strings below `amountMaps`. -/
def amountFields : List String := ["sizeLimit"]

def amountMaps : List String := ["limits", "requests", "overhead"]

def member (place : Place) (key : String) : Place where
  amount := place.amounts || amountFields.contains key
  amounts := amountMaps.contains key

def canonicalText (place : Place) (text : String) : String :=
  if place.amount then (Quantity.mk text).canonical.text else text

end Place

def arrayOrNone : List Json → Option Json
  | [] => none
  | items => some (.arr items)

def objectOrNone : List (String × Json) → Option Json
  | [] => none
  | members => some (.obj members)

def putMember (key : String) : Option Json → List (String × Json) → List (String × Json)
  | some json, members => Entries.insert key json members
  | none, members => Entries.erase key members

mutual

/-- The form in which a document is compared: no member of an object says nothing, and amounts are
    in one spelling. None if the document itself says nothing: null, or empty after that. -/
def normal? (place : Place) : Json → Option Json
  | .null => none
  | .bool value => some (.bool value)
  | .int value => some (.int value)
  | .float value => some (.float value.plainZero)
  | .str text => some (.str (place.canonicalText text))
  | .arr items => arrayOrNone (normalItems items)
  | .obj members => objectOrNone (normalMembers place members)

/-- An array keeps its length: an item that says nothing is null. -/
def normalItems : List Json → List Json
  | [] => []
  | item :: items => (normal? {} item).getD .null :: normalItems items

def normalMembers (place : Place) : List (String × Json) → List (String × Json)
  | [] => []
  | (key, json) :: members =>
    putMember key (normal? (place.member key) json) (normalMembers place members)

end

def agree (place : Place) (left right : Json) : Bool :=
  decide (left.normal? place = right.normal? place)

end Json

/-- Whether two values say the same: their documents agree once nulls, empty arrays and empty
    objects are dropped from objects and amounts of resources are compared by amount. -/
def semanticEq {α : Type} [ToJson α] (left right : α) : Bool :=
  (toJson left).agree {} (toJson right)

/-- Amounts are the same if they are the same number, or, where one is no amount, the same text. -/
def Quantity.semanticEq (left right : Quantity) : Bool :=
  (toJson left).agree { amount := true } (toJson right)

end AutoscalerOperator
