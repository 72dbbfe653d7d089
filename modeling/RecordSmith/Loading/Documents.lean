import RecordSmith.Files.Tree
import RecordSmith.Loading.Url
import RecordSmith.Schema.Record
import RecordSmith.Settings.Warnings
import RecordSmith.Text.Casing

/-!
# Loading documents

Schema documents come from files, from directories, which are searched for files with a schema
suffix, and from URLs.  A document is named after the last part of where it came from, without its
suffix.
-/

namespace RecordSmith

/-- Why documents cannot be loaded. -/
inductive LoadError where
  | fileMissing (path : Path)
  | pathMissing (path : Path)
  | notUtf8 (path : Path)
  | unreadable (path : Path) (fault : FileFault)
  | invalidUrl (url : Text)
  | timeout (url : Text)
  | connectionFailed (url : Text)
  | httpStatus (status : Int) (url : Text)
  | requestFailed (url detail : Text)
  /-- An error of the protocol that comes without a response. -/
  | noResponse (url : Text)
  /-- A response without a text in its encoding. -/
  | responseUnreadable (url : Text)
  | malformedUrl (error : UrlError)
  | pathUnusable (error : FileError)
  /-- A suffix that is none, reached while a path was compared with the suffixes before it. -/
  | suffixUnusable (error : SettingsError)
  deriving Repr

/-- The message of an announced failure. -/
def LoadError.message? : LoadError → Option Text
  | fileMissing path => some ("File not found: " ++ path.toText)
  | pathMissing path => some ("Path not found: " ++ path.toText)
  | notUtf8 path => some ("File is not UTF-8 text: " ++ path.toText)
  | unreadable path fault =>
    some ("Error reading file " ++ path.toText ++ ": " ++ fault.message path)
  | invalidUrl url => some ("Invalid URL: " ++ url)
  | timeout url => some ("Request timeout for URL: " ++ url)
  | connectionFailed url => some ("Connection error for URL: " ++ url)
  | httpStatus status url =>
    some ("HTTP error " ++ Text.ofInt status ++ " for URL: " ++ url)
  | requestFailed url detail => some ("Request error for URL " ++ url ++ ": " ++ detail)
  | _ => none

/-- The failure is that something is not there, and no fault of what is there. -/
def LoadError.isMissing : LoadError → Bool
  | fileMissing _ => true
  | pathMissing _ => true
  | _ => false

namespace Loading

/-- The suffixes of schema files, up to the first that is unusable. -/
structure Suffixes where
  texts : List Text := [".avsc"]
  defect? : Option SettingsError := none
  deriving Repr

namespace Suffixes

/-- The suffixes among parts, up to the first that is not a text. -/
def ofParts : List Value → Suffixes
  | [] => { texts := [] }
  | .text t :: rest => { ofParts rest with texts := t :: (ofParts rest).texts }
  | value :: _ => { texts := [], defect? := some (.suffixNotText value) }

/-- The suffixes that a setting gives. -/
def ofValue (value : Value) : Suffixes :=
  match Settings.parts? value with
  | none => { texts := [], defect? := some (.suffixesNotIterable value) }
  | some parts => ofParts parts

end Suffixes

/-- A path ends in one of the suffixes, in any case. -/
def hasSchemaSuffix (path : Text) (suffixes : List Text) : Bool :=
  suffixes.any fun suffix => Text.endsWith (Text.toLower path) (Text.toLower suffix)

/-- A path is one of a schema file.  An unusable suffix matters only after all others. -/
def isSchemaFile (suffixes : Suffixes) (path : Text) : Except LoadError Bool :=
  if hasSchemaSuffix path suffixes.texts then .ok true
  else
    match suffixes.defect? with
    | none => .ok false
    | some error => .error (.suffixUnusable error)

/-- The name of a document from a path or URL. -/
def documentName (path : Text) : Except UrlError Text := do
  return (Path.ofText (← Url.ofText path).path).stem

/-- The failure that follows from a failure to read a file. -/
def readError (path : Path) : FileError → LoadError
  | .notUtf8 => .notUtf8 path
  | .fault fault _ => .unreadable path fault
  | error => .pathUnusable error

/-- What is at a path, if there is anything. -/
def nodeAt (files : FileTree) (path : Path) : Except LoadError (Option Node) :=
  (files.node? path).mapError fun fault => .pathUnusable (.fault fault path)

/-- Loads a document from a file.  A byte order mark at the start is dropped. -/
def loadFile (files : FileTree) (path : Path) : Except LoadError Schema.Document := do
  if (← nodeAt files path).isNone then throw (.fileMissing path)
  let content ← ((FileAction.readMarkedText path).run files).1.mapError (readError path)
  return { name := ← (documentName path.toText).mapError .malformedUrl, content }

/-- The path itself, if it is one of a schema file. -/
def keepSchema (suffixes : Suffixes) (path : Path) : Except LoadError (List Path) := do
  return if ← isSchemaFile suffixes path.toText then [path] else []

/-- The path itself, if it leads to a schema file. -/
def keepSchemaFile (files : FileTree) (suffixes : Suffixes) (path : Path) :
    Except LoadError (List Path) := do
  match ← nodeAt files path with
  | some (.file _) => keepSchema suffixes path
  | _ => return []

/-- The schema files at a path: the file itself, or those below a directory. -/
def schemaFiles (files : FileTree) (suffixes : Suffixes) (path : Path) :
    Except LoadError (List Path) := do
  match ← nodeAt files path with
  | none => throw (.pathMissing path)
  | some (.file _) => keepSchema suffixes path
  | some .directory =>
    let around ← (files.locate path).mapError fun fault => .pathUnusable (.fault fault path)
    let below := (files.nodesBelow around).map fun node => path.join { names := node.1 }
    return (← below.mapM (keepSchemaFile files suffixes)).flatten

/-- The schema files at paths, in the order of their paths and each once. -/
def schemaPaths (files : FileTree) (paths : List Path) (suffixes : Suffixes := {}) :
    Except LoadError (List Path) := do
  return Path.sortUnique (← paths.mapM (schemaFiles files suffixes)).flatten

/-- Loads every document at paths. -/
def loadDocuments (files : FileTree) (paths : List Path) (suffixes : Suffixes := {}) :
    Except LoadError (List Schema.Document) := do
  (← schemaPaths files paths suffixes).mapM (loadFile files)

end Loading

/-- The least status that stands for a failure. -/
def Response.failureStatus : Int := 400

/-- A response to a request. -/
structure Response where
  status : Int
  /-- The encoding that the response names, if it names one. -/
  encoding? : Option Text := none
  /-- The text of the response, as it reads in an encoding, if it does. -/
  textIn : Text → Option Text
  /-- The response stands for a failure. -/
  isFailure : Bool := decide (Response.failureStatus ≤ status)

namespace Response

/-- The encoding of a response that names none. -/
def defaultEncoding : Text := "utf-8"

/-- The encoding in which a response is read. -/
def encoding (response : Response) : Text :=
  match response.encoding? with
  | some name => if name.isEmpty then defaultEncoding else name
  | none => defaultEncoding

/-- The text of a response in its encoding. -/
def text? (response : Response) : Option Text := response.textIn response.encoding

end Response

/-- What came of a request. -/
inductive Reply where
  | answered (response : Response)
  | timeout
  | noConnection
  /-- A failure of the protocol, with the status of the response if it comes with one. -/
  | protocolFailure (status? : Option Int := none)
  | failure (detail : Text)

/-- A response with a text that does not depend on the encoding. -/
def Reply.response (status : Int) (content : Text) : Reply :=
  .answered { status, textIn := fun _ => some content }

namespace Loading

/-- The content of a reply to a request for a URL. -/
def replyContent (url : Text) : Reply → Except LoadError Text
  | .answered response =>
    if response.isFailure then .error (.httpStatus response.status url)
    else response.text?.elim (.error (.responseUnreadable url)) .ok
  | .timeout => .error (.timeout url)
  | .noConnection => .error (.connectionFailed url)
  | .protocolFailure (some status) => .error (.httpStatus status url)
  | .protocolFailure none => .error (.noResponse url)
  | .failure detail => .error (.requestFailed url detail)

/-- Loads a document from a URL, given what requests for URLs come to.  Without scheme or authority
there is no request. -/
def loadUrl (request : Text → Reply) (url : Text) : Except LoadError Schema.Document := do
  let parts ← (Url.ofText url).mapError .malformedUrl
  if parts.scheme.isEmpty || parts.authority.isEmpty then throw (.invalidUrl url)
  let content ← replyContent url (request url)
  return {
    name := ← (documentName url).mapError .malformedUrl
    content := Text.dropByteOrderMark content }

end Loading

end RecordSmith
