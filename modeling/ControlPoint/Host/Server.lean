import ControlPoint.Http.Basic
import ControlPoint.Text.Case
import ControlPoint.Text.Split

/-!
A server in memory, which answers requests with what is prepared for their paths.
-/

namespace ControlPoint.Host

/-- A server: its address, the answers for each path, and the requests that it saw with their paths. The
    last answer for a path is given again and again. -/
structure Server where
  authority : String
  answers : List (String × List Http.Response)
  seen : List (String × Http.Request)

namespace Server

/-- A character that may stand in the path of an address that a request is sent to. -/
def inRequestPath (c : Char) : Bool :=
  '!' ≤ c && c ≤ '~' && !(['#', '<', '>', '?', '\x60'].contains c)

/-- A character that may stand in the query of such an address. -/
def inRequestQuery (c : Char) : Bool :=
  '!' ≤ c && c ≤ '~' && !(['"', '#', '<', '>'].contains c)

/-- The path and the query of an address without its fragment, if they may stand in a request. -/
def target? (rest : List Char) : Option String :=
  let rest := rest.takeWhile (· != '#')
  let path := rest.takeWhile (· != '?')
  let query := (rest.dropWhile (· != '?')).drop 1
  if path.all inRequestPath && query.all inRequestQuery then
    some (String.ofList (if path.isEmpty then '/' :: rest else rest))
  else none

/-- The path and the query that a request to this server asks for, if it is one. -/
def pathOf? (s : Server) (url : String) : Option String := do
  let scheme := "http://".toList
  let cs := url.toList
  if Text.lowerAscii (String.ofList (cs.take scheme.length)) != "http://" then none
  else
    let rest := cs.drop scheme.length
    let isInside (c : Char) : Bool := !(['/', '?', '#'].contains c)
    let authority := rest.takeWhile isInside
    let address := match Text.cutAtLast '@' authority with
      | some (_, address) => address
      | none => authority
    if String.ofList address == s.authority then target? (rest.dropWhile isInside) else none

/-- What the server answers to a path that was asked for some times before. -/
def answer (s : Server) (path : String) : Http.Response :=
  let before := (s.seen.filter fun (known, _) => known == path).length
  match s.answers.find? fun (known, _) => known == path with
  | some (_, answers) => ((answers[before]?).or answers.getLast?).getD ⟨404, ""⟩
  | none => ⟨404, ""⟩

/-- Answers a request, if it comes here, and keeps it. -/
def send (s : Server) (request : Http.Request) : Option Http.Response × Server :=
  if !request.isSendable then (none, s)
  else
    match s.pathOf? request.url with
    | some path => (some (s.answer path), { s with seen := s.seen ++ [(path, request)] })
    | none => (none, s)

end Server

end ControlPoint.Host
