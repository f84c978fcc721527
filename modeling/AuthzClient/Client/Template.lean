import AuthzClient.Client
import AuthzClient.Url.Query

/-!
Requests to any endpoint, written as templates: a path with placeholders in braces, parameters that fill them, query
parameters, headers and a body. A filled template is put behind the URL of the server and read as a URL.
-/

namespace AuthzClient

open Http

inductive Template.Body
  | empty
  | json (value : Except Json.Fault Json)
  | text (s : String)

structure Template where
  method : String
  path : String
  pathParameters : Entries String
  queryParameters : Entries String
  headers : List (String × String)
  body : Template.Body

/-- A text with a filling in place of every occurrence of a pattern, from left to right. `skip` characters at the front
belong to an occurrence that is replaced already. -/
def Text.replaceAll (pattern filling : List Char) : (skip : Nat) → List Char → List Char
  | _, [] => []
  | skip + 1, _ :: cs => replaceAll pattern filling skip cs
  | 0, c :: cs =>
    if pattern.isPrefixOf (c :: cs) then filling ++ replaceAll pattern filling (pattern.length - 1) cs
    else c :: replaceAll pattern filling 0 cs

namespace Template

/-- A template without parameters, headers and body. -/
def new (method path : String) : Template := ⟨method, path, [], [], [], .empty⟩

def pathParameter (name value : String) (template : Template) : Template :=
  { template with pathParameters := Entries.put name value template.pathParameters }

def queryParameter (name value : String) (template : Template) : Template :=
  { template with queryParameters := Entries.put name value template.queryParameters }

def header (name value : String) (template : Template) : Template :=
  { template with headers := template.headers ++ [(name, value)] }

def withBody (body : Body) (template : Template) : Template := { template with body := body }

/-- The name of the call: the method and the path as they were given. -/
def operation (template : Template) : String := "apiExecutor:" ++ template.method ++ ":" ++ template.path

def placeholder (name : String) : List Char := '\x7b' :: name.toList ++ ['\x7d']

def fill (path : List Char) (name value : String) : List Char :=
  Text.replaceAll (placeholder name) (Text.Percent.component value).toList 0 path

/-- Fills the placeholders of all given names, one name after the other. -/
def fillAll (path : List Char) (parameters : Entries String) : List Char :=
  parameters.foldl (fun path (name, value) => fill path name value) path

/-- The name of the placeholder that a configured store fills. -/
def storeName : String := "store_id"

/-- Fills the placeholder of the store with the configured one, unless that is blank. -/
def fillStore (path : List Char) (storeId : Option String) : List Char :=
  match storeId with
  | some id => if Text.isBlank id then path else fill path storeName (Text.trim id)
  | none => path

/-- What stands between the first opening brace and the next closing one. -/
def openPlaceholder? (path : List Char) : Option String :=
  match path.dropWhile (· != '\x7b') with
  | [] => none
  | _ :: rest => if rest.contains '\x7d' then some (String.ofList (rest.takeWhile (· != '\x7d'))) else none

/-- The path as it was given, with a slash in front and no white space around it. -/
def startPath (path : String) : List Char :=
  match Text.trimChars path.toList with
  | '/' :: rest => '/' :: rest
  | rest => '/' :: rest

/-- The filled path, or the placeholder that nothing fills. -/
def filledPath (template : Template) (storeId : Option String) : Except ClientError (List Char) :=
  let path := fillStore (fillAll (startPath template.path) template.pathParameters) storeId
  match openPlaceholder? path with
  | some name => .error (.invalidParameter name template.operation)
  | none => .ok path

def setHeaders (operation : String) (request : Request) : List (String × String) → Except ClientError Request
  | [] => .ok request
  | (name, value) :: rest =>
    match Configuration.headerPair name value operation with
    | .error error => .error error
    | .ok (name, value) => setHeaders operation (request.setHeader name value) rest

/-- The request with its body. A text keeps the content type that was set for it. -/
def setBody (operation : String) (request : Request) : Body → Except ClientError Request
  | .empty => .ok request
  | .json (.ok value) => .ok (request.withJson value)
  | .json (.error fault) => .error (.encode operation (.json fault))
  | .text s =>
    let typed := if Headers.has .contentType request.headers then request else request.setHeader .contentType Request.textType
    .ok (typed.withBody (Text.Utf8.encode s))

def describe (template : Template) : String :=
  "RawRequest \x7b method: " ++ template.method ++ ", path: " ++ Text.Quoted.encode template.path ++ ", path_params: " ++
    Text.Quoted.encodePairs template.pathParameters ++ ", query_params: " ++
    Text.Quoted.encodePairs template.queryParameters ++ ", .. \x7d"

end Template

namespace Client

/-- The text of the server's URL without slashes at its end. -/
def basePart (client : Client) : List Char := (client.baseUrl.chars.reverse.dropWhile (· == '/')).reverse

/-- The URL that a path behind the server's URL writes. -/
def join (client : Client) (path : List Char) (operation : String) : Except ClientError Url :=
  match Url.ofChars? (client.basePart ++ path) with
  | some url => .ok url
  | none => .error (.invalidParameter "path" operation)

def templateUrl (client : Client) (template : Template) : Except ClientError Url := do
  let path ← template.filledPath client.config.storeId
  let url ← client.join path template.operation
  return if template.queryParameters.isEmpty then url else url.appendPairs template.queryParameters

def fillTemplate (client : Client) (template : Template) : Except ClientError Request := do
  requirePresent (some template.path) "path" template.operation
  let url ← client.templateUrl template
  let request ← Template.setHeaders template.operation (.new template.operation template.method url) template.headers
  Template.setBody template.operation request template.body

def objectsOperation : String := "streamedListObjects"

def objectsPath (storeId : String) : List Char :=
  "/stores/".toList ++ (Text.Percent.component (Text.trim storeId)).toList ++ "/streamed-list-objects".toList

def objectsRequest (client : Client) (storeId : String) (body : Except Json.Fault Json) : Except ClientError Request := do
  requirePresent (some storeId) "storeId" objectsOperation
  match body with
  | .error fault => throw (.encode objectsOperation (.json fault))
  | .ok .null => throw (.invalidParameter "body" objectsOperation)
  | .ok value =>
    let url ← client.join (objectsPath storeId) objectsOperation
    return (Request.new objectsOperation "POST" url).withJson value

def listObjects (client : Client) (storeId : String) (body : Except Json.Fault Json) (options : Options) :
    Act (Stream.Delivery String) := do
  let request ← Act.lift (client.objectsRequest storeId body)
  client.stream Stream.objectDecoder request options

end Client

end AuthzClient
