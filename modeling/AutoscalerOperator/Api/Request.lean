import AutoscalerOperator.Error
import AutoscalerOperator.Kind

namespace AutoscalerOperator

namespace Api

structure Request where
  method : String
  path : String
  contentType : Option String := none
  body : Option Json := none
  deriving DecidableEq, Inhabited

namespace Request

def read (path : String) : Request := { method := "GET", path }

def write (method path contentType : String) (body : Json) : Request :=
  { method, path := path ++ "?", contentType := some contentType, body := some body }

def post (path : String) (body : Json) : Request := write "POST" path "application/json" body

def put (path : String) (body : Json) : Request := write "PUT" path "application/json" body

def mergePatch (path : String) (body : Json) : Request :=
  write "PATCH" path "application/merge-patch+json" body

def aimed (r : Request) : Except Error Request :=
  match Uri.target r.path with
  | .ok path => .ok { r with path }
  | .error problem => .error (.noTarget problem)

end Request

/-- Where resources of an API version are served, in a namespace or not. The versions of the core
    have no group and a place of their own. -/
def resourcePath (apiVersion : String) (namespaceName : Option String) (plural : String) : String :=
  let root := if apiVersion.toList.contains '/' then "/apis/" else "/api/"
  let place :=
    match namespaceName with
    | some name => "namespaces/" ++ name ++ "/"
    | none => ""
  root ++ apiVersion ++ "/" ++ place ++ plural

def collectionPath (ownNamespace : String) (kind : Kind) (namespaceName : Option String) : String :=
  let place := if kind.isNamespaced then some (namespaceName.getD ownNamespace) else none
  resourcePath kind.apiVersion place kind.plural

def objectPath (ownNamespace : String) (kind : Kind) (namespaceName : Option String)
    (name : String) : Except Error String :=
  if name = "" then .error .emptyName
  else .ok (collectionPath ownNamespace kind namespaceName ++ "/" ++ name)

def getRequest (ownNamespace : String) (kind : Kind) (namespaceName : Option String)
    (name : String) : Except Error Request :=
  .read <$> objectPath ownNamespace kind namespaceName name

def createRequest (ownNamespace : String) (kind : Kind) (object : kind.Object) : Request :=
  .post (collectionPath ownNamespace kind (kind.metadata object).namespaceName) (toJson object)

def ownPath (ownNamespace : String) (kind : Kind) (object : kind.Object) : Except Error String :=
  let metadata := kind.metadata object
  match metadata.name with
  | some name => objectPath ownNamespace kind metadata.namespaceName name
  | none => .error (.missingName kind.name)

def replaceRequest (ownNamespace : String) (kind : Kind) (object : kind.Object) :
    Except Error Request :=
  return .put (← ownPath ownNamespace kind object) (toJson object)

/-- What a write of the status says: the version it is about, and the status. -/
def statusPatch (kind : Kind) (object : kind.Object) : Json := .obj [
  ("metadata", .obj [("resourceVersion", toJson (kind.metadata object).resourceVersion)]),
  ("status", (kind.statusJson? object).getD .null)]

def replaceStatusRequest (ownNamespace : String) (kind : Kind) (object : kind.Object) :
    Except Error Request :=
  return .mergePatch ((← ownPath ownNamespace kind object) ++ "/status") (statusPatch kind object)

def versionRequest : Request := .read "/version"

end Api

end AutoscalerOperator
