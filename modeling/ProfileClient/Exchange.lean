import ProfileClient.Text.Utf8
import ProfileClient.Json.Reader
/-!
One request to the backend and what comes of it. The backend may be out of reach, may close the
connection without an answer, or may answer; an answer is read to its end or breaks off.
-/
namespace ProfileClient

inductive Method where
  | get
  | post
deriving DecidableEq, Repr

structure Request where
  method : Method
  /-- In normal form. -/
  url : String
  /-- Of the account in the URL. -/
  credentials : Option String
  authorization : Option String
  contentType : Option String
  body : String
deriving DecidableEq, Repr

structure Response where
  status : Nat
  body : List UInt8
  /-- The connection is closed before the announced end of the body. -/
  truncated : Bool
deriving DecidableEq, Repr

inductive Delivery where
  /-- No connection: the request never arrives. -/
  | unreachable
  /-- The request arrives, the connection is closed without an answer. -/
  | dropped
  | answered (response : Response)
deriving DecidableEq, Repr

/-- The request as the backend gets it, if it gets it. -/
def Delivery.arrived? (request : Option Request) : Delivery → Option Request
  | .unreachable => none
  | .dropped => request
  | .answered _ => request

namespace Response

def isSuccess (response : Response) : Bool := 200 ≤ response.status && response.status < 300

/-- Answers of these statuses have no body, whatever follows them. -/
def isBodiless (response : Response) : Bool := response.status == 204 || response.status == 304

/-- The octets of the body; `none` if it breaks off. -/
def received? (response : Response) : Option (List UInt8) :=
  if response.isBodiless then some []
  else if response.truncated then none
  else some response.body

/-- The JSON value that makes up the whole body. -/
def json? (response : Response) : Option Json :=
  (response.received?.bind Text.Utf8.decode?).bind fun text => (Json.read text).toOption

/-- The body as a text, empty if it breaks off. -/
def text (response : Response) : List Char :=
  match response.received? with
  | none => []
  | some body => Text.Utf8.decodeLossy body

end Response

def reason? : Nat → Option String
  | 100 => some "Continue"
  | 101 => some "Switching Protocols"
  | 102 => some "Processing"
  | 103 => some "Early Hints"
  | 200 => some "OK"
  | 201 => some "Created"
  | 202 => some "Accepted"
  | 203 => some "Non Authoritative Information"
  | 204 => some "No Content"
  | 205 => some "Reset Content"
  | 206 => some "Partial Content"
  | 207 => some "Multi-Status"
  | 208 => some "Already Reported"
  | 226 => some "IM Used"
  | 300 => some "Multiple Choices"
  | 301 => some "Moved Permanently"
  | 302 => some "Found"
  | 303 => some "See Other"
  | 304 => some "Not Modified"
  | 305 => some "Use Proxy"
  | 307 => some "Temporary Redirect"
  | 308 => some "Permanent Redirect"
  | 400 => some "Bad Request"
  | 401 => some "Unauthorized"
  | 402 => some "Payment Required"
  | 403 => some "Forbidden"
  | 404 => some "Not Found"
  | 405 => some "Method Not Allowed"
  | 406 => some "Not Acceptable"
  | 407 => some "Proxy Authentication Required"
  | 408 => some "Request Timeout"
  | 409 => some "Conflict"
  | 410 => some "Gone"
  | 411 => some "Length Required"
  | 412 => some "Precondition Failed"
  | 413 => some "Payload Too Large"
  | 414 => some "URI Too Long"
  | 415 => some "Unsupported Media Type"
  | 416 => some "Range Not Satisfiable"
  | 417 => some "Expectation Failed"
  | 418 => some "I'm a teapot"
  | 421 => some "Misdirected Request"
  | 422 => some "Unprocessable Entity"
  | 423 => some "Locked"
  | 424 => some "Failed Dependency"
  | 425 => some "Too Early"
  | 426 => some "Upgrade Required"
  | 428 => some "Precondition Required"
  | 429 => some "Too Many Requests"
  | 431 => some "Request Header Fields Too Large"
  | 451 => some "Unavailable For Legal Reasons"
  | 500 => some "Internal Server Error"
  | 501 => some "Not Implemented"
  | 502 => some "Bad Gateway"
  | 503 => some "Service Unavailable"
  | 504 => some "Gateway Timeout"
  | 505 => some "HTTP Version Not Supported"
  | 506 => some "Variant Also Negotiates"
  | 507 => some "Insufficient Storage"
  | 508 => some "Loop Detected"
  | 510 => some "Not Extended"
  | 511 => some "Network Authentication Required"
  | _ => none

def statusText (status : Nat) : String :=
  let reason := (reason? status).getD "<unknown status code>"
  s!"{status} {reason}"

end ProfileClient
