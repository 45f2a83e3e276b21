import EnumOrdering.Definition
import EnumOrdering.Store
import EnumOrdering.Url.Parse

/-!
# Documents from afar

A document is asked for at a URL of the web. Whatever comes back with a status
that tells of no error is taken for the document; all that can go wrong before
makes the source unavailable.
-/

namespace EnumOrdering.Source

/-- What came of asking for a document: an answer, or why there was none. -/
inductive Exchange
  | answered (status : Nat) (body : Bytes)
  | unreachable (reason : String)
deriving Repr, DecidableEq

/-- What is wrong with a request for a document. -/
inductive RequestFault
  | malformed (e : Url.Malformed)
  | scheme (url : Url)
  | connection (url : Url) (reason : String)
  | status (url : Url) (code : Nat)
deriving Repr, DecidableEq

/-- What a status means, in the words of the standard. -/
def statusPhrase? : Nat → Option String
  | 400 => "Bad Request"
  | 401 => "Unauthorized"
  | 402 => "Payment Required"
  | 403 => "Forbidden"
  | 404 => "Not Found"
  | 405 => "Method Not Allowed"
  | 406 => "Not Acceptable"
  | 407 => "Proxy Authentication Required"
  | 408 => "Request Timeout"
  | 409 => "Conflict"
  | 410 => "Gone"
  | 411 => "Length Required"
  | 412 => "Precondition Failed"
  | 413 => "Payload Too Large"
  | 414 => "URI Too Long"
  | 415 => "Unsupported Media Type"
  | 416 => "Range Not Satisfiable"
  | 417 => "Expectation Failed"
  | 418 => "I'm a teapot"
  | 421 => "Misdirected Request"
  | 422 => "Unprocessable Entity"
  | 423 => "Locked"
  | 424 => "Failed Dependency"
  | 426 => "Upgrade Required"
  | 428 => "Precondition Required"
  | 429 => "Too Many Requests"
  | 431 => "Request Header Fields Too Large"
  | 451 => "Unavailable For Legal Reasons"
  | 500 => "Internal Server Error"
  | 501 => "Not Implemented"
  | 502 => "Bad Gateway"
  | 503 => "Service Unavailable"
  | 504 => "Gateway Timeout"
  | 505 => "HTTP Version Not Supported"
  | 506 => "Variant Also Negotiates"
  | 507 => "Insufficient Storage"
  | 508 => "Loop Detected"
  | 510 => "Not Extended"
  | 511 => "Network Authentication Required"
  | _ => none

/-- A status with its meaning. -/
def statusText (status : Nat) : String :=
  Decimal.natText status ++ " " ++ (statusPhrase? status).getD "<unknown status code>"

/-- Whether a status tells of an error of the request. -/
def isClientError (status : Nat) : Bool := 400 ≤ status && status < 500

/-- Whether a status tells of an error of the server. -/
def isServerError (status : Nat) : Bool := 500 ≤ status && status < 600

/-- The wording of what is wrong with a request. -/
def RequestFault.message : RequestFault → String
  | .malformed e => s!"builder error: {e.message}"
  | .scheme url => s!"builder error for url ({url.text}): URL scheme is not allowed"
  | .connection url reason =>
    s!"error sending request for url ({url.text}): error trying to connect: {reason}"
  | .status url code =>
    (if isClientError code then "HTTP status client error (" else "HTTP status server error (")
      ++ s!"{statusText code}) for url ({url.text})"

/-- The URL that is asked for a text, without credentials. -/
def requestUrl (address : String) : Except RequestFault Url :=
  match Url.parse address with
  | .error e => .error (.malformed e)
  | .ok url =>
    if !url.hasHost then .error (.scheme url)
    else
      let url := url.anonymous
      if url.scheme = "http" || url.scheme = "https" then .ok url else .error (.scheme url)

/-- The body of an answer that tells of no error. -/
def exchangeBody (url : Url) : Exchange → Except RequestFault Bytes
  | .unreachable reason => .error (.connection url reason)
  | .answered status body =>
    if isClientError status || isServerError status then .error (.status url status)
    else .ok body

/-- The enumerations of the document that was asked for at an address, or the
failure to get it. -/
def loadBody (address : String) (body : Except RequestFault Bytes) : Load :=
  match body with
  | .error fault => ⟨.error (.sourceUnavailable address fault.message), []⟩
  | .ok body => ⟨EnumerationSet.parse address body, [.fetched address body.length]⟩

/-- Why nothing can be reached from a machine without a network: a name is not
even found, and an address has no way to it. -/
def offlineReason (url : Url) : String :=
  match url.authority with
  | some ⟨_, _, .domain name, _⟩ =>
    if name = "localhost".toList then "tcp connect error: Network is unreachable (os error 101)"
    else
      "dns error: failed to lookup address information: Temporary failure in name resolution"
  | _ => "tcp connect error: Network is unreachable (os error 101)"

/-- What comes of asking for a document without a network. -/
def offline (url : Url) : Exchange := .unreachable (offlineReason url)

end EnumOrdering.Source
