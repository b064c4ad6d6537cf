import AutoscalerOperator.Json.Basic
import AutoscalerOperator.Text.Numeral

namespace AutoscalerOperator

structure JsonPointer where
  path : List String
  deriving DecidableEq

namespace JsonPointer

def unescaped : List Char → List Char
  | '~' :: '1' :: rest => '/' :: unescaped rest
  | '~' :: '0' :: rest => '~' :: unescaped rest
  | c :: rest => c :: unescaped rest
  | [] => []

def tokens : List Char → List (List Char)
  | [] => [[]]
  | '/' :: rest => [] :: tokens rest
  | c :: rest =>
    match tokens rest with
    | [] => [[c]]
    | token :: others => (c :: token) :: others

def ofText? (text : String) : Option JsonPointer :=
  match text.toList with
  | [] => some ⟨[]⟩
  | '/' :: rest => some ⟨(tokens rest).map fun token => String.ofList (unescaped token)⟩
  | _ => none

def position? (token : String) : Option Nat :=
  match token.toList with
  | ['0'] => some 0
  | '0' :: _ | [] => none
  | digits => if digits.all Char.isDigit then some (Text.numeralValue digits) else none

def child? (token : String) : Json → Option Json
  | .obj members => Entries.get? token members
  | .arr items => (position? token).bind (items[·]?)
  | _ => none

def resolve? (pointer : JsonPointer) (document : Json) : Option Json :=
  pointer.path.foldlM (fun part token => child? token part) document

end JsonPointer

end AutoscalerOperator
