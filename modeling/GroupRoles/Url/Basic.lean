import GroupRoles.Url.Percent

/-!
# HTTP URLs

A URL in normal form. Its path has at least one segment; the path of one empty segment is `/`.
Segments are added to the path in encoded form, so that each stays a segment of its own.
-/

namespace GroupRoles

/-- A URL of the scheme `http` or `https`. -/
structure Url where
  secure : Bool
  /-- The user and the password, as they stand in front of the host. -/
  user : List Char := []
  host : List Char
  /-- The port, unless it is the usual one. -/
  port : Option Nat := none
  path : List (List Char) := [[]]
  query : Option (List Char) := none
  fragment : Option (List Char) := none
deriving Repr, DecidableEq

namespace Url

/-! ## Text -/

/-- The path, each segment behind a slash. -/
def pathText (path : List (List Char)) : List Char :=
  path.flatMap fun segment => '/' :: segment

/-- A part behind its mark, if it is there. -/
def partText (mark : Char) : Option (List Char) → List Char
  | some cs => mark :: cs
  | none => []

/-- The characters of a URL. -/
def chars (url : Url) : List Char :=
  (if url.secure then "https://" else "http://").toList
    ++ (if url.user.isEmpty then [] else url.user ++ ['@'])
    ++ url.host
    ++ partText ':' (url.port.map (Nat.toDigits 10))
    ++ pathText url.path
    ++ partText '?' url.query
    ++ partText '#' url.fragment

/-- The text of a URL. -/
def text (url : Url) : String :=
  String.ofList url.chars

/-- The URL as it is sent: without user and fragment. -/
def sent (url : Url) : Url :=
  { url with user := [], fragment := none }

/-- The URL without its user, as failed requests show it. -/
def shown (url : Url) : Url :=
  { url with user := [] }

/-! ## Paths -/

/-- Drops an empty segment at the end, unless it is the only one. -/
def dropEmptyEnd (path : List (List Char)) : List (List Char) :=
  if 1 < path.length && path.getLast? = some [] then path.dropLast else path

/-- A drive letter, which a path does not give up. -/
def isDrive : List Char → Bool
  | [c, d] => c.isAlpha && (d = ':' || d = '|')
  | _ => false

/-- The path without its last segment, unless that is a drive letter. -/
def dropLastSegment (path : List (List Char)) : List (List Char) :=
  match path.getLast? with
  | some segment => if isDrive segment then path else path.dropLast
  | none => []

/-- Characters that URLs leave out. -/
def isIgnored (c : Char) : Bool :=
  c = '\t' || c = '\n' || c = '\r'

/-- Adds a segment to a path; the path `/` takes it as its first. -/
def put (path : List (List Char)) (segment : List Char) : List (List Char) :=
  if path = [[]] then [segment] else path ++ [segment]

/-- Adds the segment of a text to a path, encoded. The segments `.` and `..` are left out; where
a text reads so only once tabs and line breaks are dropped, it still moves within the path. -/
def push (path : List (List Char)) (text : String) : List (List Char) :=
  if text = "." || text = ".." then path
  else
    let cs := text.toList.filter fun c => !isIgnored c
    if cs = ['.'] then put path []
    else if cs = ['.', '.'] then
      if path = [[]] then path else dropLastSegment path ++ [[]]
    else put path (encode keepsInSegment cs)

/-- The URL with more segments, behind its path without an empty end. -/
def extend (url : Url) (segments : List String) : Url :=
  { url with path := segments.foldl push (dropEmptyEnd url.path) }

/-! ## Queries -/

/-- The URL with one more pair in its query. -/
def addPair (url : Url) (name value : String) : Url :=
  let pair := formPair name value
  { url with
    query := some <|
      match url.query with
      | some (c :: cs) => c :: cs ++ '&' :: pair
      | _ => pair }

end Url

end GroupRoles
