import TypedClient.Document.Reading
import TypedClient.Extract
import TypedClient.FileSystem
import TypedClient.Version

namespace TypedClient

inductive Fetched
  | reply (status : Int) (text : String)
  | failure (reason : String)

inductive LoadError
  | file (path : Path) (error : FileError)
  | decoding (error : DecodingError)
  | status (source : String) (code : Int)
  | transport (source reason : String)
  | unparsable (source : String)
  | scalar (error : DocumentError)
  | notAMap (kind : String)
  | version (error : VersionError)
  | nonconforming (source : String)
  | extraction (error : ExtractError)

def LoadError.message : LoadError → String
  | .file path error =>
    if error.isReported then s!"Failed to read OpenAPI file {path.toString}: {error.message}"
    else error.message
  | .decoding error => error.message
  | .status source code => s!"HTTP {code} fetching OpenAPI document from {source}"
  | .transport source reason => s!"Failed to fetch OpenAPI document from {source}: {reason}"
  | .unparsable source => "Failed to parse document from " ++ source
  | .scalar error => error.message
  | .notAMap kind => s!"OpenAPI document must deserialize to a mapping, got <class '{kind}'>"
  | .version error => error.message
  | .nonconforming source => "OpenAPI schema validation failed for " ++ source
  | .extraction error => error.message

/-- Whether an error is told to the user. The others, of bytes, scalars and locations that have no
meaning, end the program. -/
def LoadError.isReported : LoadError → Bool
  | .file _ error => error.isReported
  | .decoding _ => false
  | .scalar _ => false
  | .extraction .listLocation => false
  | .extraction .mapLocation => false
  | .extraction .longInteger => false
  | _ => true

namespace Load

def urlStarts : List String := ["http://", "https://"]

def isUrl (source : String) : Bool :=
  urlStarts.any fun start => start.toList.isPrefixOf source.toList

def fileText (fs : FileSystem) (source : String) : Except LoadError String := do
  let path := Path.ofString source
  let file ← (fs.read path).mapError (.file path)
  let text ← file.text.mapError .decoding
  return String.ofList (Text.unifyLineEnds text.toList)

def fetchedText (source : String) : Fetched → Except LoadError String
  | .reply status text =>
    if 200 ≤ status ∧ status < 300 then .ok text else .error (.status source status)
  | .failure reason => .error (.transport source reason)

def scalarKind : Scalar → String
  | .null => "NoneType"
  | .bool _ => "bool"
  | .int _ => "int"
  | .float _ => "float"
  | .text _ => "str"
  | .date _ => "datetime.date"
  | .timestamp _ => "datetime.datetime"
  | .bytes _ => "bytes"

def kind : Value → String
  | .scalar s => scalarKind s
  | .list _ => "list"
  | .map _ => "dict"
  | .set _ => "set"
  | .pair .. => "tuple"
  | .named _ v => kind v
  | .again _ isMap => if isMap then "dict" else "list"

def documentError (source : String) : DocumentError → LoadError
  | .malformed => .unparsable source
  | error => .scalar error

section

variable (conforms : Value → Bool)

def document (source text : String) : Except LoadError Value := do
  let value ← (Value.ofText text).mapError (documentError source)
  if !value.isMap then throw (.notAMap (kind value))
  let _ ← (Version.supported value).mapError .version
  if conforms value then return value else throw (.nonconforming source)

def spec (source text : String) : Except LoadError Spec := do
  (Spec.ofDocument (← document conforms source text)).mapError .extraction

end

end Load

namespace Spec

def ofFile (conforms : Value → Bool) (fs : FileSystem) (source : String) :
    Except LoadError Spec := do
  Load.spec conforms source (← Load.fileText fs source)

def ofFetched (conforms : Value → Bool) (source : String) (fetched : Fetched) :
    Except LoadError Spec := do
  Load.spec conforms source (← Load.fetchedText source fetched)

end Spec

end TypedClient
