import MarkdownIntake.Number.Decimal
import MarkdownIntake.Web.Address
import MarkdownIntake.Web.Charset

/-!
This module contains the download of a document: the requests that are sent, redirections followed on
the way, and what the last reply means.
-/

namespace MarkdownIntake.Web

open MarkdownIntake.Number MarkdownIntake.Text

structure Request where
  method : String := "GET"
  address : Address
  accept : String := "text/markdown, text/plain;q=0.9, */*;q=0.5"
  agent : String := "mdimport-cli"
deriving Repr, DecidableEq

structure Response where
  status : Int := 200
  reason : Option String := none
  headers : List (String × String) := []
  text : Except CodeError String := .ok ""

inductive Reply where
  | response (response : Response)
  | timedOut
  | broken (reason : String)

def usualReason : Int → String
  | 100 => "Continue"
  | 101 => "Switching Protocols"
  | 102 => "Processing"
  | 103 => "Early Hints"
  | 200 => "OK"
  | 201 => "Created"
  | 202 => "Accepted"
  | 203 => "Non-Authoritative Information"
  | 204 => "No Content"
  | 205 => "Reset Content"
  | 206 => "Partial Content"
  | 207 => "Multi-Status"
  | 208 => "Already Reported"
  | 226 => "IM Used"
  | 300 => "Multiple Choices"
  | 301 => "Moved Permanently"
  | 302 => "Found"
  | 303 => "See Other"
  | 304 => "Not Modified"
  | 305 => "Use Proxy"
  | 307 => "Temporary Redirect"
  | 308 => "Permanent Redirect"
  | 400 => "Bad Request"
  | 401 => "Unauthorized"
  | 402 => "Payment Required"
  | 403 => "Forbidden"
  | 404 => "Not Found"
  | 405 => "Method Not Allowed"
  | 406 => "Not Acceptable"
  | 407 => "Proxy Authentication Required"
  | 408 => "Request Timeout"
  | 409 => "Conflict"
  | 410 => "Gone"
  | 411 => "Length Required"
  | 412 => "Precondition Failed"
  | 413 => "Request Entity Too Large"
  | 414 => "Request-URI Too Long"
  | 415 => "Unsupported Media Type"
  | 416 => "Requested Range Not Satisfiable"
  | 417 => "Expectation Failed"
  | 418 => "I'm a teapot"
  | 421 => "Misdirected Request"
  | 422 => "Unprocessable Entity"
  | 423 => "Locked"
  | 424 => "Failed Dependency"
  | 425 => "Too Early"
  | 426 => "Upgrade Required"
  | 428 => "Precondition Required"
  | 429 => "Too Many Requests"
  | 431 => "Request Header Fields Too Large"
  | 451 => "Unavailable For Legal Reasons"
  | 500 => "Internal Server Error"
  | 501 => "Not Implemented"
  | 502 => "Bad Gateway"
  | 503 => "Service Unavailable"
  | 504 => "Gateway Timeout"
  | 505 => "HTTP Version Not Supported"
  | 506 => "Variant Also Negotiates"
  | 507 => "Insufficient Storage"
  | 508 => "Loop Detected"
  | 510 => "Not Extended"
  | 511 => "Network Authentication Required"
  | _ => ""

namespace Response

def header? (response : Response) (name : String) : Option String :=
  let key (name : String) := name.toList.map Char.toLower
  (response.headers.find? (key ·.1 = key name)).map (·.2)

def reasonText (response : Response) : String :=
  response.reason.getD (usualReason response.status)

def isSuccess (response : Response) : Bool :=
  200 ≤ response.status && response.status ≤ 299

def redirectStatuses : List Int := [301, 302, 303, 307, 308]

def redirect? (response : Response) : Option String :=
  if redirectStatuses.contains response.status then response.header? "location" else none

/-- The response with these bytes as its body, if the character set that its header tells is held here. -/
def withBody? (response : Response) (bytes : List Nat) : Option Response := do
  let text ← Charset.text? (response.header? "content-type") bytes
  return { response with text }

end Response

inductive DownloadError where
  | timedOut (url : String) (seconds : Binary64)
  | broken (reason : String)
  | refused (status : Int) (reason : String)
  | badAddress (error : AddressError)
  | unreadable (code : CodeError)
deriving Repr

namespace DownloadError

def message : DownloadError → String
  | .timedOut _ _ => "Request timed out"
  | .broken _ => "Failed to fetch markdown"
  | .refused status reason => s!"Failed to fetch markdown: {status} {reason}"
  | .badAddress error => error.message
  | .unreadable code => code.message

def status? : DownloadError → Option Int
  | .refused status _ => some status
  | _ => none

def detail? : DownloadError → Option String
  | .timedOut url seconds => some ("No response from " ++ url ++ " within " ++ seconds.wholeText ++ "s")
  | .broken reason => some reason
  | .refused _ reason => some reason
  | .badAddress _ | .unreadable _ => none

end DownloadError

def DownloadError.note? (url : String) : DownloadError → Option String
  | .timedOut _ seconds => some s!"Fetching {url} timed out after {seconds.tenthsText}s"
  | .broken reason => some s!"Fetching {url} failed: {reason}"
  | .refused status _ => some s!"Fetching {url} returned HTTP {status}"
  | .badAddress _ | .unreadable _ => none

def maxRedirects : Nat := 20

/-- The address of the first request. One that does not lead anywhere becomes a path at the root. -/
def firstAddress (url : String) : Except AddressError Address := do
  let address ← Address.parse url
  if address.isAbsolute then
    return address
  else
    return {
      path := '/' :: address.path.dropWhile (· = '/')
      query := address.query }

def followed (origin address : Address) : Except AddressError Address := do
  let address ←
    if !address.scheme.isEmpty && address.host.isEmpty then address.withHost origin.host
    else pure address
  let address ← if address.isAbsolute then pure address else origin.join address
  match origin.fragment, address.fragment with
  | some fragment, none | some fragment, some [] =>
    if fragment.isEmpty then return address else address.withFragment (percentDecode fragment)
  | _, _ => return address

def nextAddress (origin : Address) (location : String) : Except DownloadError Address :=
  match Address.parse location with
  | .ok address => (followed origin address).mapError .badAddress
  | .error e => .error (.broken ("Invalid URL in location header: " ++ e.message ++ "."))

abbrev Exchange := List Request × Except DownloadError String

/-- `redirects` is the number of redirections that may still be followed. -/
def exchange (replies : Nat → Reply) (url : String) (timeout : Binary64) :
    (redirects : Nat) → (sent : List Request) → Address → Exchange
  | redirects, sent, address =>
    let requests := sent ++ [{ address }]
    match replies sent.length with
    | .timedOut => (requests, .error (.timedOut url timeout))
    | .broken reason => (requests, .error (.broken reason))
    | .response response =>
      match response.redirect? with
      | some location =>
        match nextAddress address location with
        | .error e => (requests, .error e)
        | .ok next =>
          match redirects with
          | 0 => (requests, .error (.broken "Exceeded maximum allowed redirects."))
          | redirects + 1 => exchange replies url timeout redirects requests next
      | none =>
        if response.isSuccess then (requests, response.text.mapError .unreadable)
        else (requests, .error (.refused response.status response.reasonText))

def defaultTimeout : Binary64 := .ofInt 30

def download (replies : Nat → Reply) (url : String) (timeout : Binary64) : Exchange :=
  match firstAddress url with
  | .error e => ([], .error (.badAddress e))
  | .ok address => exchange replies url timeout maxRedirects [] address

end MarkdownIntake.Web
