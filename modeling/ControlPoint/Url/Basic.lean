import ControlPoint.Url.Host

/-!
Addresses of documents and services: a scheme, perhaps a host with a port, a path, and perhaps a query
and a fragment, each in the form in which it is written back.
-/

namespace ControlPoint.Url

open Text

/-- Who answers at an address. The parts are written as they stand here; a missing port is the usual
    one of the scheme. -/
structure Authority where
  user : String
  password : String
  host : String
  port : Option Nat
  deriving DecidableEq, Repr

/-- Where a document lies: in a tree of named segments, or under a text without structure. -/
inductive UrlPath
  | opaqueText (text : String)
  | segments (segments : List String)
  deriving DecidableEq, Repr

end ControlPoint.Url

namespace ControlPoint

/-- An address. -/
structure Url where
  scheme : String
  authority : Option Url.Authority
  path : Url.UrlPath
  query : Option String
  fragment : Option String
  deriving DecidableEq, Repr

end ControlPoint

namespace ControlPoint.Url

/-- The schemes whose addresses have a host and whose paths may be written with backslashes. -/
def isSpecialScheme (scheme : String) : Bool :=
  ["http", "https", "ws", "wss", "ftp", "file"].contains scheme

/-- The port that a scheme uses where none is written. -/
def defaultPort? (scheme : String) : Option Nat :=
  match scheme with
  | "http" => some 80
  | "ws" => some 80
  | "https" => some 443
  | "wss" => some 443
  | "ftp" => some 21
  | _ => none

def Authority.text (a : Authority) : String :=
  let password := if a.password == "" then "" else ":" ++ a.password
  let credentials := a.user ++ password
  let mark := if credentials == "" then "" else "@"
  let port := match a.port with
    | some n => ":" ++ toString n
    | none => ""
  credentials ++ mark ++ a.host ++ port

/-- The text of a path. -/
def UrlPath.text : UrlPath → String
  | .opaqueText text => text
  | .segments parts => String.join (parts.map fun part => "/" ++ part)

/-- The text of a path in an address. Without a host, a path that starts with an empty segment is
    kept from looking like one. -/
def pathText (u : Url) : String :=
  match u.authority, u.path with
  | none, .segments ("" :: _ :: _) => "/." ++ u.path.text
  | _, _ => u.path.text

/-- The text of an address. -/
def text (u : Url) : String :=
  let authority := match u.authority with
    | some a => "//" ++ a.text
    | none => ""
  let query := match u.query with
    | some q => "?" ++ q
    | none => ""
  let fragment := match u.fragment with
    | some f => "#" ++ f
    | none => ""
  u.scheme ++ ":" ++ authority ++ u.pathText ++ query ++ fragment

/-- Whether an address has a path without structure, so that no path can be relative to it. -/
def isOpaque (u : Url) : Bool :=
  match u.path with
  | .opaqueText _ => true
  | .segments _ => false

/-- The segments of the path, none if it has no structure. -/
def pathSegments (u : Url) : List String :=
  match u.path with
  | .opaqueText _ => []
  | .segments parts => parts

/-- The path in the file system that a file's address names, unless it names another host. A drive
    letter at the end is followed by a slash. -/
def filePath? (u : Url) : Option String :=
  match u.path, u.authority with
  | .segments parts, some a =>
    if a.host == "" then
      let bytes := parts.flatMap fun s => '/'.toUInt8 :: percentDecode s.toList
      let letter := bytes.reverse.drop 1 |>.head?
      let isDrive := 2 < bytes.length &&
        (match letter with
          | some b => (Char.ofNat b.toNat).isAlpha
          | none => false) &&
        (bytes.getLast? == some ':'.toUInt8 || bytes.getLast? == some '|'.toUInt8)
      some (textOfBytes (if isDrive then bytes ++ ['/'.toUInt8] else bytes))
    else none
  | _, _ => none

/-- The address of a file, from its absolute path in the file system. -/
def ofFilePath (path : String) : Url where
  scheme := "file"
  authority := some ⟨"", "", "", none⟩
  path :=
    let names := (Text.splitChar '/' path).filter (· != "")
    let encoded := names.map fun name => String.ofList (percentEncode inSegmentSet name.toList)
    .segments (if encoded.isEmpty then [""] else encoded)
  query := none
  fragment := none

end ControlPoint.Url
