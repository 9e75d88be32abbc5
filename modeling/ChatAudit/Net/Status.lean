import ChatAudit.Dict

/-! Status codes of replies. -/
namespace ChatAudit.Status

def isSuccess (code : Int) : Bool := 200 ≤ code && code ≤ 299

/-- Whether a location in the reply says where to go instead. -/
def isRedirect (code : Int) : Bool := [301, 302, 303, 307, 308].contains code

def reasons : List (Int × String) := [
  (100, "Continue"), (101, "Switching Protocols"), (102, "Processing"), (103, "Early Hints"),
  (300, "Multiple Choices"), (301, "Moved Permanently"), (302, "Found"), (303, "See Other"),
  (304, "Not Modified"), (305, "Use Proxy"), (307, "Temporary Redirect"),
  (308, "Permanent Redirect"),
  (400, "Bad Request"), (401, "Unauthorized"), (402, "Payment Required"), (403, "Forbidden"),
  (404, "Not Found"), (405, "Method Not Allowed"), (406, "Not Acceptable"),
  (407, "Proxy Authentication Required"), (408, "Request Timeout"), (409, "Conflict"),
  (410, "Gone"), (411, "Length Required"), (412, "Precondition Failed"),
  (413, "Request Entity Too Large"), (414, "Request-URI Too Long"),
  (415, "Unsupported Media Type"), (416, "Requested Range Not Satisfiable"),
  (417, "Expectation Failed"), (418, "I'm a teapot"), (421, "Misdirected Request"),
  (422, "Unprocessable Entity"), (423, "Locked"), (424, "Failed Dependency"), (425, "Too Early"),
  (426, "Upgrade Required"), (428, "Precondition Required"), (429, "Too Many Requests"),
  (431, "Request Header Fields Too Large"), (451, "Unavailable For Legal Reasons"),
  (500, "Internal Server Error"), (501, "Not Implemented"), (502, "Bad Gateway"),
  (503, "Service Unavailable"), (504, "Gateway Timeout"), (505, "HTTP Version Not Supported"),
  (506, "Variant Also Negotiates"), (507, "Insufficient Storage"), (508, "Loop Detected"),
  (510, "Not Extended"), (511, "Network Authentication Required")]

/-- The kind of a status that is no success. -/
def kind (code : Int) : String :=
  if code / 100 = 1 then "Informational response"
  else if code / 100 = 3 then "Redirect response"
  else if code / 100 = 4 then "Client error"
  else if code / 100 = 5 then "Server error"
  else "Invalid status code"

/-- What is said about a reply without a text of its own. -/
def describe (code : Int) (url : String) (location : Option String) : String :=
  kind code ++ " '" ++ toString code ++ " " ++ (reasons.lookup code).getD "" ++ "' for url '" ++
    url ++ "'\n" ++ location.elim "" (fun l => "Redirect location: '" ++ l ++ "'\n") ++
    "For more information check: https://developer.mozilla.org/en-US/docs/Web/HTTP/Status/" ++
    toString code

end ChatAudit.Status
