import AutoscalerOperator.Json.Basic

namespace AutoscalerOperator.Json

def membersOf : Json → List (String × Json)
  | .obj members => members
  | _ => []

mutual

/-- A document changed by a merge patch: members of the patch replace those of the document, a null
    removes one, objects are merged, and a patch that is no object replaces the whole. -/
def mergePatch (document : Json) : Json → Json
  | .obj patch => .obj (mergeMembers (membersOf document) patch)
  | patch => patch

def mergeMembers (members : List (String × Json)) : List (String × Json) → List (String × Json)
  | [] => members
  | (key, value) :: rest =>
    mergeMembers
      (match value with
        | .null => Entries.erase key members
        | value =>
          Entries.insert key (mergePatch ((Entries.get? key members).getD .null) value) members)
      rest

end

end AutoscalerOperator.Json
