/-!
Requests and responses, as far as descriptions are fetched and actions invoked by them.
-/

namespace ControlPoint.Http

inductive Method
  | get
  | post
  deriving DecidableEq, Repr

def Method.name : Method → String
  | .get => "GET"
  | .post => "POST"

/-- What is asked of a server. -/
structure Request where
  method : Method
  url : String
  headers : List (String × String)
  body : String
  deriving DecidableEq, Repr

/-- What a server answers. -/
structure Response where
  status : Nat
  body : String
  deriving DecidableEq, Repr

/-- The request for a document. -/
def Request.fetch (url : String) : Request :=
  ⟨.get, url, [], ""⟩

/-- The value of a header. -/
def Request.header? (r : Request) (name : String) : Option String :=
  (r.headers.find? fun (key, _) => key == name).map Prod.snd

/-- A text that may be the value of a header: without control characters other than the tab. -/
def isHeaderValue (text : String) : Bool :=
  text.toList.all fun c => c == '\t' || (' ' ≤ c && c != '\x7f')

/-- Whether a server can be asked at all: every header has a value that may stand there. -/
def Request.isSendable (r : Request) : Bool :=
  r.headers.all fun (_, value) => isHeaderValue value

/-- A status that says that all went well. -/
def isSuccess (status : Nat) : Bool :=
  200 ≤ status && status < 300

/-- A status that says that the request or the server is at fault. -/
def isFault (status : Nat) : Bool :=
  400 ≤ status && status < 600

/-- A status whose responses never have a body. -/
def isBodiless (status : Nat) : Bool :=
  status == 204 || status == 304

/-- The text of a response. -/
def Response.text (r : Response) : String :=
  if isBodiless r.status then "" else r.body

/-- The usual words for statuses. -/
def reasons : List (Nat × String) :=
  [(100, "Continue"), (101, "Switching Protocols"), (102, "Processing"), (103, "Early Hints"),
    (200, "OK"), (201, "Created"), (202, "Accepted"), (203, "Non Authoritative Information"),
    (204, "No Content"), (205, "Reset Content"), (206, "Partial Content"), (207, "Multi-Status"),
    (208, "Already Reported"), (226, "IM Used"),
    (300, "Multiple Choices"), (301, "Moved Permanently"), (302, "Found"), (303, "See Other"),
    (304, "Not Modified"), (305, "Use Proxy"), (307, "Temporary Redirect"),
    (308, "Permanent Redirect"),
    (400, "Bad Request"), (401, "Unauthorized"), (402, "Payment Required"), (403, "Forbidden"),
    (404, "Not Found"), (405, "Method Not Allowed"), (406, "Not Acceptable"),
    (407, "Proxy Authentication Required"), (408, "Request Timeout"), (409, "Conflict"),
    (410, "Gone"), (411, "Length Required"), (412, "Precondition Failed"),
    (413, "Payload Too Large"), (414, "URI Too Long"), (415, "Unsupported Media Type"),
    (416, "Range Not Satisfiable"), (417, "Expectation Failed"), (418, "I'm a teapot"),
    (421, "Misdirected Request"), (422, "Unprocessable Entity"), (423, "Locked"),
    (424, "Failed Dependency"), (425, "Too Early"), (426, "Upgrade Required"),
    (428, "Precondition Required"), (429, "Too Many Requests"),
    (431, "Request Header Fields Too Large"), (451, "Unavailable For Legal Reasons"),
    (500, "Internal Server Error"), (501, "Not Implemented"), (502, "Bad Gateway"),
    (503, "Service Unavailable"), (504, "Gateway Timeout"), (505, "HTTP Version Not Supported"),
    (506, "Variant Also Negotiates"), (507, "Insufficient Storage"), (508, "Loop Detected"),
    (510, "Not Extended"), (511, "Network Authentication Required")]

/-- A status with the usual words for it, whatever words the server used. -/
def statusText (status : Nat) : String :=
  let reason := match reasons.find? fun (code, _) => code == status with
    | some (_, words) => words
    | none => "<unknown status code>"
  toString status ++ " " ++ reason

end ControlPoint.Http
