import SchemaGen.Host.Run

/-!
# Loading the document of a model

A document comes from a file or from the web. Neither its name nor its type has to tell that it is
XML, but a warning is given if they do not.
-/

namespace SchemaGen.Model

variable {m : Type → Type} [Monad m] [Host m]

/-- A document, and where it was loaded from. -/
structure Document where
  source : String
  content : List UInt8
deriving DecidableEq, Repr

/-- Ends a run, with a record on the reason. -/
def failLoading {α : Type} (record : String) (e : LoadError) : Run m α := do
  Run.note .error .loader record
  throw (.loading e)

/-- Loads the file at a path. -/
def loadFile (p : Path) : Run m Document := do
  let name := p.toString
  Run.note .debug .loader s!"Attempting to load model from file: {name}"
  if (← Run.status p) = .absent then failLoading s!"File not found: {name}" (.fileNotFound p)
  if Text.lower p.suffix ≠ ".xml" then
    Run.note .warning .loader s!"File does not have .xml extension: {name}"
  match ← ExceptT.lift (Host.readFile p) with
  | .error cause =>
    let e : LoadError := .unreadable p ⟨cause, p⟩
    failLoading e.message e
  | .ok content =>
    Run.note .info .loader s!"Successfully loaded model from {name}"
    pure ⟨name, content⟩

/-- Whether a type, in lower case, is that of an XML document. -/
def isXmlType (contentType : String) : Bool :=
  1 < (Text.split "xml" contentType).length

/-- Loads the document at a URL. -/
def loadUrl (url : String) (timeout : Int) : Run m Document := do
  Run.note .debug .loader s!"Attempting to load model from URL: {url}"
  let parts ← Run.ofExcept .url (Web.UrlParts.read url)
  if !parts.isComplete then failLoading s!"Invalid URL format: {url}" (.incompleteUrl url)
  match ← ExceptT.lift (Host.fetch { url, timeout }) with
  | .timedOut => failLoading s!"Request timeout for URL: {url}" (.timedOut url)
  | .noConnection text =>
    failLoading s!"Connection error for URL {url}: {text}" (.noConnection url)
  | .failed text => failLoading s!"Request error for URL {url}: {text}" (.requestFailed url text)
  | .broken e => throw (.request e)
  | .response r =>
    if r.isError then
      failLoading s!"HTTP error {r.status} for URL: {url}" (.errorStatus url r.status)
    let contentType := Text.lower (r.contentType.getD "")
    if !isXmlType contentType && !url.endsWith ".xml" then
      Run.note .warning .loader s!"URL {url} does not have an XML content type: {contentType}"
    Run.note .info .loader s!"Successfully loaded model from {url}"
    pure ⟨url, r.body⟩

/-- A text, if it is there and not empty. -/
def given? : Option String → Option String
  | none => none
  | some s => if s = "" then none else some s

/-- Loads the document of a file or of a URL, just one of which has to be given. -/
def load (file url : Option String) (timeout : Int) : Run m Document :=
  match given? file, given? url with
  | none, none => failLoading "Neither file_path nor url provided" .noInput
  | some _, some _ => failLoading "Both file_path and url provided" .twoInputs
  | some path, none => loadFile (Path.ofString path)
  | none, some url => loadUrl url timeout

end SchemaGen.Model
