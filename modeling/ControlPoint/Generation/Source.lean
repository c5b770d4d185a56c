import ControlPoint.Host.Basic
import ControlPoint.Url.Parse

/-!
The documents that descriptions are read from, by an address or by a path in the file system.
-/

namespace ControlPoint.Generation

open Host Url

/-- Why a document cannot be read. -/
inductive SourceFault
  | notOpened (source : String)
  | notFilePath (url : Url)
  | notRead (path : String)
  | notFetched (url : Url)
  | foreignScheme (url : Url)
  deriving DecidableEq, Repr

def SourceFault.message : SourceFault → String
  | notOpened source => "Cannot open " ++ source
  | notFilePath url => "Invalid file URL " ++ url.text
  | notRead path => "Cannot read " ++ path
  | notFetched url => "HTTP error when fetching " ++ url.text
  | foreignScheme url => "Unsupported URL scheme " ++ url.scheme ++ " for " ++ url.text

/-- A document and the address that it was read from, to which the addresses in it are relative. -/
structure Source where
  location : Url
  text : String

variable {m : Type → Type} [Monad m] [Host m]

/-- The schemes of addresses that documents are read from. -/
def isReadable (scheme : String) : Bool :=
  ["http", "https", "file"].contains scheme

/-- The address meant by a text: the text itself if it is an address of a scheme that is read, else that
    of the file at the path. -/
def addressOf (source : String) : m (Except SourceFault Url) := do
  match (Url.parse source).toOption.filter fun url => isReadable url.scheme with
  | some url => return .ok url
  | none =>
    match ← realPath source with
    | .ok path => return .ok (ofFilePath path)
    | .error _ => return .error (.notOpened source)

/-- The document at an address. -/
def readAddress (url : Url) : m (Except SourceFault String) := do
  if url.scheme == "file" then
    match url.filePath? with
    | none => return .error (.notFilePath url)
    | some path =>
      report (Log.debug "Reading description file" [("path", path)])
      match ← readFile path with
      | .ok text => return .ok text
      | .error _ => return .error (.notRead path)
  else if isReadable url.scheme then
    report (Log.debug "Fetching description" [("url", url.text)])
    match ← send (.fetch url.text) with
    | some response =>
      return if Http.isFault response.status then .error (.notFetched url) else .ok response.text
    | none => return .error (.notFetched url)
  else return .error (.foreignScheme url)

/-- The document that a text names. -/
def Source.read (source : String) : m (Except SourceFault Source) := do
  match ← addressOf source with
  | .error fault => return .error fault
  | .ok url => return (← readAddress url).map fun text => ⟨url, text⟩

end ControlPoint.Generation
