import ValidatorWatch.Document.Value
import ValidatorWatch.Time.Instant
/-!
# Requests and answers

What goes over the wire, as values. A request may be answered, refused, or left without an answer.
An answer has a status and a body, and the body may break off. How the other side behaves is a
`Wire`: for each endpoint, what its first request gets, its second, and so on.
-/

namespace ValidatorWatch.Http

/-- Where a request goes. -/
structure Endpoint where
  method : String
  url : String
  deriving DecidableEq, Inhabited

/-- A request, with the document that it posts, if any. -/
structure Request where
  endpoint : Endpoint
  body : Option Document.Value
  deriving Inhabited

namespace Request

/-- Asks for a document. -/
def get (url : String) : Request :=
  ⟨⟨"GET", url⟩, none⟩

/-- Hands a document over. -/
def post (url : String) (body : Document.Value) : Request :=
  ⟨⟨"POST", url⟩, some body⟩

end Request

/-- The body of an answer. -/
inductive Body where
  | text (s : String)
  | broken (reason : String)
  deriving DecidableEq, Inhabited

/-- What becomes of a request. -/
inductive Exchange where
  | answered (status : Nat) (body : Body)
  | refused (reason : String)
  | silent
  deriving DecidableEq, Inhabited

/-- How the other side behaves: what the `n`-th request to an endpoint gets, counted from zero. -/
abbrev Wire := Endpoint → Nat → Exchange

/-- How many of the requests went to an endpoint. -/
def requestsTo (endpoint : Endpoint) (sent : List Request) : Nat :=
  sent.countP fun r => r.endpoint = endpoint

/-! ## Statuses -/

/-- Statuses that mean success. -/
def isSuccess (status : Nat) : Bool :=
  200 ≤ status && status < 300

/-- Statuses that mean a fault of the server. -/
def isServerError (status : Nat) : Bool :=
  500 ≤ status && status < 600

/-- The status of a server that is asked too often. -/
def tooManyRequests : Nat := 429

/-- The status of a server that has no such thing. -/
def notFound : Nat := 404

/-- The phrases that go with the registered statuses. -/
def phrases : List (Nat × String) :=
  [(100, "Continue"), (101, "Switching Protocols"), (102, "Processing"), (200, "OK"),
    (201, "Created"), (202, "Accepted"), (203, "Non Authoritative Information"),
    (204, "No Content"), (205, "Reset Content"), (206, "Partial Content"), (207, "Multi-Status"),
    (208, "Already Reported"), (226, "IM Used"), (300, "Multiple Choices"),
    (301, "Moved Permanently"), (302, "Found"), (303, "See Other"), (304, "Not Modified"),
    (305, "Use Proxy"), (307, "Temporary Redirect"), (308, "Permanent Redirect"),
    (400, "Bad Request"), (401, "Unauthorized"), (402, "Payment Required"), (403, "Forbidden"),
    (404, "Not Found"), (405, "Method Not Allowed"), (406, "Not Acceptable"),
    (407, "Proxy Authentication Required"), (408, "Request Timeout"), (409, "Conflict"),
    (410, "Gone"), (411, "Length Required"), (412, "Precondition Failed"),
    (413, "Payload Too Large"), (414, "URI Too Long"), (415, "Unsupported Media Type"),
    (416, "Range Not Satisfiable"), (417, "Expectation Failed"), (418, "I'm a teapot"),
    (421, "Misdirected Request"), (422, "Unprocessable Entity"), (423, "Locked"),
    (424, "Failed Dependency"), (425, "Too Early"), (426, "Upgrade Required"),
    (428, "Precondition Required"), (429, "Too Many Requests"),
    (431, "Request Header Fields Too Large"), (451, "Unavailable For Legal Reasons"),
    (500, "Internal Server Error"), (501, "Not Implemented"), (502, "Bad Gateway"),
    (503, "Service Unavailable"), (504, "Gateway Timeout"), (505, "HTTP Version Not Supported"),
    (506, "Variant Also Negotiates"), (507, "Insufficient Storage"), (508, "Loop Detected"),
    (510, "Not Extended"), (511, "Network Authentication Required")]

/-- The words for a status. -/
def statusText (status : Nat) : String :=
  let phrase := (phrases.lookup status).getD "<unknown status code>"
  s!"HTTP {status} {phrase}"

end ValidatorWatch.Http
