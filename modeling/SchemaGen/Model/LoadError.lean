import SchemaGen.Files.Error

/-!
# Why a document could not be loaded
-/

namespace SchemaGen.Model

/-- Why the document of a model could not be loaded. -/
inductive LoadError where
  | noInput
  /-- A file and a URL were given. -/
  | twoInputs
  | fileNotFound (p : Path)
  | unreadable (p : Path) (e : Files.Error)
  | incompleteUrl (url : String)
  | timedOut (url : String)
  | noConnection (url : String)
  | errorStatus (url : String) (status : Int)
  | requestFailed (url text : String)
deriving DecidableEq, Repr

def LoadError.message : LoadError → String
  | noInput => "no input file defined"
  | twoInputs => "Cannot specify both file_path and url"
  | fileNotFound p => s!"File not found: {p.toString}"
  | unreadable p e => s!"Error reading file {p.toString}: {e.message}"
  | incompleteUrl url => s!"Invalid URL: {url}"
  | timedOut url => s!"Request timeout for URL: {url}"
  | noConnection url => s!"Connection error for URL: {url}"
  | errorStatus url status => s!"HTTP error {status} for URL: {url}"
  | requestFailed url text => s!"Request error for URL {url}: {text}"

end SchemaGen.Model
