import Clearance.Decimal.Layout

/-!
# Statuses of a response

The status of a response has a number, a phrase and a class; only the two hundreds are success.
-/

namespace Clearance.Confirmation

structure Status where
  code : Nat
  deriving DecidableEq, Repr, Inhabited

namespace Status

def phrases : List (Nat × String) :=
  [ (100, "Continue"), (101, "Switching Protocols"), (102, "Processing"), (103, "Early Hints"),
    (200, "OK"), (201, "Created"), (202, "Accepted"), (203, "Non-Authoritative Information"),
    (204, "No Content"), (205, "Reset Content"), (206, "Partial Content"), (207, "Multi-Status"),
    (208, "Already Reported"), (226, "IM Used"), (300, "Multiple Choices"),
    (301, "Moved Permanently"), (302, "Found"), (303, "See Other"), (304, "Not Modified"),
    (305, "Use Proxy"), (307, "Temporary Redirect"), (308, "Permanent Redirect"),
    (400, "Bad Request"), (401, "Unauthorized"), (402, "Payment Required"), (403, "Forbidden"),
    (404, "Not Found"), (405, "Method Not Allowed"), (406, "Not Acceptable"),
    (407, "Proxy Authentication Required"), (408, "Request Timeout"), (409, "Conflict"),
    (410, "Gone"), (411, "Length Required"), (412, "Precondition Failed"),
    (413, "Request Entity Too Large"), (414, "Request-URI Too Long"),
    (415, "Unsupported Media Type"), (416, "Requested Range Not Satisfiable"),
    (417, "Expectation Failed"), (418, "I'm a teapot"), (421, "Misdirected Request"),
    (422, "Unprocessable Entity"), (423, "Locked"), (424, "Failed Dependency"), (425, "Too Early"),
    (426, "Upgrade Required"), (428, "Precondition Required"), (429, "Too Many Requests"),
    (431, "Request Header Fields Too Large"), (451, "Unavailable For Legal Reasons"),
    (500, "Internal Server Error"), (501, "Not Implemented"), (502, "Bad Gateway"),
    (503, "Service Unavailable"), (504, "Gateway Timeout"), (505, "HTTP Version Not Supported"),
    (506, "Variant Also Negotiates"), (507, "Insufficient Storage"), (508, "Loop Detected"),
    (510, "Not Extended"), (511, "Network Authentication Required") ]

/-- The phrase of a status; an unknown one has none. -/
def phrase (s : Status) : String :=
  (phrases.lookup s.code).getD ""

def isSuccess (s : Status) : Bool :=
  s.code / 100 == 2

/-- The class of a status that is no success. -/
def complaint (s : Status) : String :=
  match s.code / 100 with
  | 1 => "Informational response"
  | 3 => "Redirect response"
  | 4 => "Client error"
  | 5 => "Server error"
  | _ => "Invalid status code"

/-- An address that is reached safely. -/
def secureAddress (host path : String) : String :=
  "https" ++ "://" ++ host ++ "/" ++ path

/-- Where the status is explained. -/
def explanation (s : Status) : String :=
  secureAddress "developer.mozilla.org" ("en-US/docs/Web/HTTP/Status/" ++ Decimal.natText s.code)

/-- What is said of a response that is no success. -/
def message (s : Status) (url : String) : String :=
  s.complaint ++ " '" ++ Decimal.natText s.code ++ " " ++ s.phrase ++ "' for url '" ++ url
    ++ "'\nFor more information check: " ++ s.explanation

end Status

end Clearance.Confirmation
