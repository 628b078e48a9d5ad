/-
# Answers of the web

A request is answered by a status with a body, or fails on the way. Statuses from 200 to 299 mean
success; every other one is a failure with a text of its own.
-/

import CatalogClient.Web.Address

namespace CatalogClient

/-- What comes back for a request. -/
inductive WebAnswer
  | failed (reason : String)
  | response (status : Nat) (body : ByteArray)

/-- The answers of the web to requests. -/
abbrev Web := String → WebAnswer

/-- The usual phrases for statuses. -/
def statusPhrases : List (Nat × String) :=
  [(100, "Continue"), (101, "Switching Protocols"), (102, "Processing"), (103, "Early Hints"),
    (200, "OK"), (201, "Created"), (202, "Accepted"), (203, "Non-Authoritative Information"),
    (204, "No Content"), (205, "Reset Content"), (206, "Partial Content"), (207, "Multi-Status"),
    (208, "Already Reported"), (226, "IM Used"), (300, "Multiple Choices"),
    (301, "Moved Permanently"), (302, "Found"), (303, "See Other"), (304, "Not Modified"),
    (305, "Use Proxy"), (307, "Temporary Redirect"), (308, "Permanent Redirect"),
    (400, "Bad Request"), (401, "Unauthorized"), (402, "Payment Required"), (403, "Forbidden"),
    (404, "Not Found"), (405, "Method Not Allowed"), (406, "Not Acceptable"),
    (407, "Proxy Authentication Required"), (408, "Request Timeout"), (409, "Conflict"),
    (410, "Gone"), (411, "Length Required"), (412, "Precondition Failed"),
    (413, "Request Entity Too Large"), (414, "Request-URI Too Long"),
    (415, "Unsupported Media Type"), (416, "Requested Range Not Satisfiable"),
    (417, "Expectation Failed"), (418, "I'm a teapot"), (421, "Misdirected Request"),
    (422, "Unprocessable Entity"), (423, "Locked"), (424, "Failed Dependency"), (425, "Too Early"),
    (426, "Upgrade Required"), (428, "Precondition Required"), (429, "Too Many Requests"),
    (431, "Request Header Fields Too Large"), (451, "Unavailable For Legal Reasons"),
    (500, "Internal Server Error"), (501, "Not Implemented"), (502, "Bad Gateway"),
    (503, "Service Unavailable"), (504, "Gateway Timeout"), (505, "HTTP Version Not Supported"),
    (506, "Variant Also Negotiates"), (507, "Insufficient Storage"), (508, "Loop Detected"),
    (510, "Not Extended"), (511, "Network Authentication Required")]

/-- The phrase for a status; unusual ones have none. -/
def statusPhrase (status : Nat) : String :=
  (statusPhrases.lookup status).getD ""

/-- Whether a status means success. -/
def isSuccess (status : Nat) : Bool :=
  decide (200 ≤ status) && decide (status ≤ 299)

/-- The sort of a status that is no success. -/
def statusSort (status : Nat) : String :=
  match status / 100 with
  | 1 => "Informational response"
  | 3 => "Redirect response"
  | 4 => "Client error"
  | 5 => "Server error"
  | _ => "Invalid status code"

/-- The place on the web that explains statuses. -/
def statusGuide : String :=
  "https" ++ "://" ++ "developer.mozilla.org" ++ "/en-US/docs/Web/HTTP/Status/"

/-- A status that is no success, in words. -/
def statusMessage (status : Nat) (url : String) : String :=
  statusSort status ++ " '" ++ toString status ++ " " ++ statusPhrase status ++ "' for url '" ++ url
    ++ "'\nFor more information check: " ++ statusGuide ++ toString status

/-- Why a request brings no body: it fails on the way or by its status, or its address cannot be
asked for. -/
inductive RequestFault
  | failed (reason : String)
  | address (fault : AddressFault)
  deriving DecidableEq, Repr

/-- The body of an answer that means success. The message about a status shows the usual form of the
address. -/
def WebAnswer.body (answer : WebAnswer) (url : String) : Except RequestFault ByteArray :=
  match answer with
  | .failed reason => .error (.failed reason)
  | .response status body =>
      match Address.read url.toList with
      | .error fault => .error (.address fault)
      | .ok address =>
          if isSuccess status then .ok body
          else .error (.failed (statusMessage status (String.ofList address.print)))

end CatalogClient
