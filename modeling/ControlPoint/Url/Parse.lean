import ControlPoint.Text.Blank
import ControlPoint.Url.Basic

/-!
The reading of addresses, absolute ones and those relative to a base. White space and control
characters around an address are dropped, tabs and line ends inside it too; what remains is read from
left to right.
-/

namespace ControlPoint.Url

open Text

/-- The characters of an address that count. -/
def relevant (s : String) : List Char :=
  (trimWhere (fun c => c.toNat ≤ 0x20) s.toList).filter
    fun c => !(c == '\t' || c == '\n' || c == '\r')

/-- A scheme in lower case and what follows its colon. -/
def readScheme? (cs : List Char) : Option (String × List Char) :=
  match cs with
  | first :: _ =>
    if first.isAlpha then
      match cutAt ':' cs with
      | some (scheme, rest) =>
        if scheme.all fun c => c.isAlphanum || c == '+' || c == '-' || c == '.' then
          some (lowerAscii (String.ofList scheme), rest)
        else none
      | none => none
    else none
  | [] => none

/-- A drive letter: a letter and a colon or a bar. -/
def isDrive (segment : List Char) : Bool :=
  match segment with
  | [a, b] => a.isAlpha && (b == ':' || b == '|')
  | _ => false

/-- A drive letter with a colon. -/
def isNormalDrive (segment : List Char) : Bool :=
  isDrive segment && segment.getLast? == some ':'

/-- Whether a text begins with a segment that is a drive letter. -/
def startsWithDrive (cs : List Char) : Bool :=
  isDrive (cs.take 2) &&
    (match cs.drop 2 with
      | [] => true
      | c :: _ => c == '/' || c == '\\' || c == '?' || c == '#')

def isSingleDot (segment : List Char) : Bool :=
  let s := lowerAscii (String.ofList segment)
  s == "." || s == "%2e"

def isDoubleDot (segment : List Char) : Bool :=
  let s := lowerAscii (String.ofList segment)
  s == ".." || s == "%2e%2e" || s == "%2e." || s == ".%2e"

/-- The segments without the last one; a drive letter stays. -/
def dropSegment (segments : List (List Char)) : List (List Char) :=
  match segments.getLast? with
  | some last => if isDrive last then segments else segments.dropLast
  | none => []

/-- The segments after one more segment, which a slash follows or not. -/
def addSegment (isFile : Bool) (done : List (List Char)) (segment : List Char) (slash : Bool) :
    List (List Char) :=
  let atEnd (segments : List (List Char)) := if slash then segments else segments ++ [[]]
  if isDoubleDot segment then atEnd (dropSegment done)
  else if isSingleDot segment then atEnd done
  else if isFile && done.isEmpty && isDrive segment then done ++ [segment.take 1 ++ [':']]
  else done ++ [segment]

/-- The segments of a path that continues after the segments in `done`, and what follows the path.
    `segment` is the current segment so far, encoded. -/
def readSegments (special isFile : Bool) (done : List (List Char)) (segment : List Char) :
    List Char → List (List Char) × List Char
  | [] => (addSegment isFile done segment false, [])
  | c :: rest =>
    if c == '?' || c == '#' then (addSegment isFile done segment false, c :: rest)
    else if c == '/' || (special && c == '\\') then
      readSegments special isFile (addSegment isFile done segment true) [] rest
    else if isFile && done.isEmpty && isNormalDrive segment then
      readSegments special isFile [segment] (percentEncode inPathSet [c]) rest
    else readSegments special isFile done (segment ++ percentEncode inPathSet [c]) rest

/-- A path that continues after some segments. The path of a file does not start with empty
    segments. -/
def readPath (scheme : String) (done : List (List Char)) (cs : List Char) : UrlPath × List Char :=
  let isFile := scheme == "file"
  let (segments, rest) := readSegments (isSpecialScheme scheme) isFile done [] cs
  let segments :=
    if isFile then
      match segments.dropWhile List.isEmpty with
      | [] => [[]]
      | kept => kept
    else segments
  (.segments (segments.map String.ofList), rest)

/-- The query and the fragment at the end of an address. -/
def readEnd (scheme : String) (cs : List Char) : Option String × Option String :=
  let fragment (cs : List Char) := String.ofList (percentEncode inFragmentSet cs)
  match cs with
  | '?' :: rest =>
    let encode (cs : List Char) :=
      String.ofList (percentEncode (inQuerySet (isSpecialScheme scheme)) cs)
    match cutAt '#' rest with
    | some (query, after) => (some (encode query), some (fragment after))
    | none => (some (encode rest), none)
  | '#' :: rest => (none, some (fragment rest))
  | _ => (none, none)

/-- An address whose path and end remain to be read, given the segments that come first. -/
def withRest (scheme : String) (authority : Option Authority) (done : List (List Char))
    (cs : List Char) : Url :=
  let (path, rest) := readPath scheme done cs
  let (query, fragment) := readEnd scheme rest
  ⟨scheme, authority, path, query, fragment⟩

/-- The user name and password of an authority, encoded, and what follows them. They end at the last
    at sign before the path. -/
def readUser (special : Bool) (cs : List Char) :
    Except UrlFault (String × String × List Char) :=
  let isInside := fun c => !(c == '/' || c == '?' || c == '#' || (special && c == '\\'))
  let inside := cs.takeWhile isInside
  match cutAtLast '@' inside with
  | none => .ok ("", "", cs)
  | some (user, _) =>
    let rest := cs.drop (user.length + 1)
    if user.isEmpty then
      match rest with
      | c :: _ => if isInside c then .ok ("", "", rest) else .error .emptyHost
      | [] => .ok ("", "", rest)
    else
      let encode (cs : List Char) := String.ofList (percentEncode inUserSet cs)
      match cutAt ':' user with
      | some (name, password) => .ok (encode name, encode password, rest)
      | none => .ok (encode user, "", rest)

/-- The text of a host as written, and what follows it. A colon ends it outside square brackets. -/
def cutHost (special : Bool) (inBrackets : Bool) : List Char → List Char × List Char
  | [] => ([], [])
  | c :: rest =>
    if (c == ':' && !inBrackets) || (c == '\\' && special) || c == '/' || c == '?' || c == '#' then
      ([], c :: rest)
    else
      let inBrackets := if c == '[' then true else if c == ']' then false else inBrackets
      let (host, after) := cutHost special inBrackets rest
      (c :: host, after)

/-- The port after a colon, none if it is the usual one, and what follows it. -/
def readPort (scheme : String) (cs : List Char) : Except UrlFault (Option Nat × List Char) :=
  let digits := cs.takeWhile Char.isDigit
  let rest := cs.dropWhile Char.isDigit
  let ends := match rest with
    | [] => true
    | c :: _ => c == '/' || c == '\\' || c == '?' || c == '#'
  match digits? digits with
  | none => if ends then .ok (none, rest) else .error .invalidPort
  | some port =>
    if 0xFFFF < port || !ends then .error .invalidPort
    else .ok (if defaultPort? scheme = some port then none else some port, rest)

/-- The authority after two slashes, and what follows it. -/
def readAuthority (scheme : String) (cs : List Char) : Except UrlFault (Authority × List Char) := do
  let special := isSpecialScheme scheme
  let (user, password, rest) ← readUser special cs
  let (written, rest) := cutHost special false rest
  let host ←
    if special then (if written.isEmpty then .error .emptyHost else readHost written)
    else readOpaqueHost written
  let (port, rest) ← match rest with
    | ':' :: after => if host == "" then .error .emptyHost else readPort scheme after
    | _ => pure (none, rest)
  if host == "" && (user != "" || password != "") then .error .emptyHost
  else .ok (⟨user, password, host, port⟩, rest)

/-- An address with an authority, given what follows the two slashes. The path of a special scheme
    is never empty. -/
def readAfterSlashes (scheme : String) (cs : List Char) : Except UrlFault Url := do
  let (authority, rest) ← readAuthority scheme cs
  let special := isSpecialScheme scheme
  let atEnd := match rest with
    | [] => true
    | c :: _ => c == '?' || c == '#'
  if !special && atEnd then
    let (query, fragment) := readEnd scheme rest
    .ok ⟨scheme, some authority, .segments [], query, fragment⟩
  else
    let path := match rest with
      | '/' :: after => after
      | '\\' :: after => if special then after else rest
      | _ => rest
    .ok (withRest scheme (some authority) [] path)

def noAuthority : Authority := ⟨"", "", "", none⟩

/-- The address of a file, given what follows the scheme, perhaps relative to another file's. -/
def readFile (base : Option Url) (cs : List Char) : Except UrlFault Url := do
  let isSlash := fun c => c == '/' || c == '\\'
  match cs with
  | a :: b :: rest =>
    if isSlash a && isSlash b then
      let isInside := fun c => !(c == '/' || c == '\\' || c == '?' || c == '#')
      let written := rest.takeWhile isInside
      if written.isEmpty || isDrive written then
        let path := match rest with
          | c :: after => if isSlash c then after else rest
          | [] => rest
        return withRest "file" (some noAuthority) [] path
      else
        let host ← readHost written
        let path := (rest.dropWhile isInside)
        let path := match path with
          | c :: after => if isSlash c then after else path
          | [] => path
        let host := if host == "localhost" then "" else host
        let url := withRest "file" (some ⟨"", "", host, none⟩) [] path
        match url.pathSegments with
        | first :: _ =>
          if isNormalDrive first.toList then return { url with authority := some noAuthority }
          else return url
        | [] => return url
    else relative cs
  | _ => relative cs
where
  /-- A file's address without a host of its own. -/
  relative (cs : List Char) : Except UrlFault Url :=
    let authority := match base with
      | some b => b.authority
      | none => some noAuthority
    let segments := match base with
      | some b => b.pathSegments.map String.toList
      | none => []
    match cs with
    | '/' :: rest => .ok (rooted authority segments rest)
    | '\\' :: rest => .ok (rooted authority segments rest)
    | _ =>
      match base with
      | none => .ok (withRest "file" (some noAuthority) [] cs)
      | some b =>
        match cs with
        | [] => .ok { b with fragment := none }
        | '?' :: _ =>
          let (query, fragment) := readEnd "file" cs
          .ok { b with query, fragment }
        | '#' :: _ => .ok { b with fragment := (readEnd "file" cs).2 }
        | _ =>
          if startsWithDrive cs then .ok (withRest "file" (some noAuthority) [] cs)
          else
            let kept := match segments.getLast? with
              | some last => if isNormalDrive last then segments else segments.dropLast
              | none => []
            .ok (withRest "file" authority kept cs)
  /-- A file's address with a path from the root, on the drive or host of the base. -/
  rooted (authority : Option Authority) (segments : List (List Char)) (rest : List Char) : Url :=
    if startsWithDrive rest then withRest "file" (some noAuthority) [] rest
    else
      match segments with
      | first :: _ =>
        if isNormalDrive first then withRest "file" (some noAuthority) [first] rest
        else withRest "file" authority [] rest
      | [] => withRest "file" authority [] rest

/-- An address without a scheme of its own, relative to a base that is no file. -/
def readRelative (base : Url) (cs : List Char) : Except UrlFault Url :=
  let isSlash := fun c => c == '/' || c == '\\'
  match cs with
  | [] => .ok { base with fragment := none }
  | '?' :: _ =>
    let (query, fragment) := readEnd base.scheme cs
    .ok { base with query, fragment }
  | '#' :: _ => .ok { base with fragment := (readEnd base.scheme cs).2 }
  | c :: rest =>
    if isSlash c then
      match rest with
      | d :: after =>
        if isSlash d then
          readAfterSlashes base.scheme
            (if c == '/' && d == '/' then after else rest.dropWhile isSlash)
        else .ok (withRest base.scheme base.authority [] rest)
      | [] => .ok (withRest base.scheme base.authority [] rest)
    else .ok (withRest base.scheme base.authority (base.pathSegments.dropLast.map String.toList) cs)

/-- Reads an address, relative to a base if there is one. -/
def parseFrom (base : Option Url) (s : String) : Except UrlFault Url :=
  let cs := relevant s
  let isSlash := fun c => c == '/' || c == '\\'
  match readScheme? cs with
  | some ("file", rest) =>
    readFile (base.filter fun b => b.scheme == "file") rest
  | some (scheme, rest) =>
    if isSpecialScheme scheme then
      match base with
      | some b =>
        if (rest.takeWhile isSlash).length < 2 && b.scheme == scheme then readRelative b rest
        else readAfterSlashes scheme (rest.dropWhile isSlash)
      | none => readAfterSlashes scheme (rest.dropWhile isSlash)
    else
      match rest with
      | '/' :: '/' :: after => readAfterSlashes scheme after
      | '/' :: after => .ok (withRest scheme none [] after)
      | _ =>
        let isInside := fun c => !(c == '?' || c == '#')
        let path := String.ofList (percentEncode isControl (rest.takeWhile isInside))
        let (query, fragment) := readEnd scheme (rest.dropWhile isInside)
        .ok ⟨scheme, none, .opaqueText path, query, fragment⟩
  | none =>
    match base with
    | none => .error .relativeWithoutBase
    | some b =>
      match cs with
      | '#' :: _ => .ok { b with fragment := (readEnd b.scheme cs).2 }
      | _ =>
        if b.isOpaque then .error .relativeToOpaque
        else if b.scheme == "file" then readFile (some b) cs
        else readRelative b cs

/-- Reads an absolute address. -/
def parse (s : String) : Except UrlFault Url := parseFrom none s

/-- Reads an address that may be relative to a base. -/
def join (base : Url) (s : String) : Except UrlFault Url := parseFrom (some base) s

end ControlPoint.Url
