import GroupRoles.Url.Basic
import GroupRoles.Url.Host

/-!
# Reading URLs

Spaces and controls around a URL are dropped, and tabs and line breaks anywhere. What remains is
brought into normal form: scheme and host in lower case, the usual port left out, `.` and `..`
resolved, a backslash read as a slash, and characters encoded where their part needs it.
-/

namespace GroupRoles.Url

/-- A slash of either kind. -/
def isSlash (c : Char) : Bool :=
  c = '/' || c = '\\'

/-- The end of an authority. -/
def endsAuthority (special : Bool) (c : Char) : Bool :=
  c = '/' || c = '?' || c = '#' || (special && c = '\\')

/-- The text without what URLs leave out. -/
def clean (cs : List Char) : List Char :=
  let outside (c : Char) : Bool := c.toNat ≤ 0x20
  (((cs.dropWhile outside).reverse.dropWhile outside).reverse).filter fun c => !isIgnored c

/-- A character of a scheme. -/
def isSchemeChar (c : Char) : Bool :=
  c.isAlphanum || c = '+' || c = '-' || c = '.'

/-- The scheme in lower case, and what follows its colon. -/
def scheme? (cs : List Char) : Except UrlFault (String × List Char) :=
  match cs.takeWhile isSchemeChar, cs.dropWhile isSchemeChar with
  | c :: name, ':' :: rest =>
    if c.isAlpha then pure (String.ofList ((c :: name).map Char.toLower), rest)
    else throw .relative
  | _, _ => throw .relative

/-! ## Authorities -/

/-- Splits an authority at its last `@`. -/
def splitUser (cs : List Char) : Option (List Char × List Char) :=
  if cs.contains '@' then
    let host := (cs.reverse.takeWhile (· ≠ '@')).reverse
    some (cs.take (cs.length - host.length - 1), host)
  else none

/-- A user and a password in encoded form; an empty password is left out. -/
def userText (cs : List Char) : List Char :=
  let name := encode keepsInUser (cs.takeWhile (· ≠ ':'))
  match cs.dropWhile (· ≠ ':') with
  | _ :: c :: rest => name ++ ':' :: encode keepsInUser (c :: rest)
  | _ => name

/-- Splits a host from its port: at the first colon outside of brackets. -/
def splitPort (brackets : Bool) : List Char → List Char × Option (List Char)
  | [] => ([], none)
  | c :: rest =>
    if c = ':' && !brackets then ([], some rest)
    else
      let brackets := if c = '[' then true else if c = ']' then false else brackets
      let (host, port) := splitPort brackets rest
      (c :: host, port)

/-- The port that digits write; no digits write none. -/
def port? (cs : List Char) : Except UrlFault (Option Nat) :=
  if !cs.all Char.isDigit then throw .invalidPort
  else if cs.isEmpty then pure none
  else
    let n := cs.foldl (fun n c => n * 10 + (c.toNat - 48)) 0
    if n < 65536 then pure (some n) else throw .invalidPort

/-- The user, host and port of an authority. -/
structure Authority where
  user : List Char
  host : List Char
  port : Option Nat

/-- The user and what follows it; a user without any characters needs a host. -/
def readUser? (cs rest : List Char) : Except UrlFault (List Char × List Char) :=
  match splitUser cs with
  | none => pure ([], cs)
  | some ([], host) =>
    if host.isEmpty && !rest.isEmpty then throw .emptyHost else pure ([], host)
  | some (user, host) => pure (userText user, host)

/-- The host of a URL whose scheme leaves its form open. -/
def openHost? (cs : List Char) : Except UrlFault (List Char) :=
  match cs with
  | '[' :: _ => host? cs
  | _ => if cs.any isForbidden then throw .invalidCharacter else pure cs

/-- Reads an authority in front of `rest`. -/
def authority? (special : Bool) (cs rest : List Char) : Except UrlFault Authority := do
  let (user, cs) ← readUser? cs rest
  let (name, digits) := splitPort false cs
  if name.isEmpty then
    if special || digits.isSome || !user.isEmpty then throw .emptyHost
    else pure ⟨user, [], none⟩
  else do
    let host ← if special then host? name else openHost? name
    -- a backslash that does not end the authority still ends the port
    let port ← port? ((digits.getD []).takeWhile (· ≠ '\\'))
    pure ⟨user, host, port⟩

/-- The host of a file, in front of its path; a drive letter is none. -/
def fileHost? (cs : List Char) : Except UrlFault (List Char) :=
  if cs.isEmpty || isDrive cs then pure [] else host? cs

/-! ## Paths -/

/-- How many dots, plain or encoded, a segment consists of. -/
def dots? : List Char → Option Nat
  | [] => some 0
  | '.' :: rest | '%' :: '2' :: 'e' :: rest | '%' :: '2' :: 'E' :: rest => (dots? rest).map (· + 1)
  | _ :: _ => none

/-- A segment that stays where it is. -/
def isHere (cs : List Char) : Bool :=
  dots? cs = some 1

/-- A segment that goes up. -/
def isUp (cs : List Char) : Bool :=
  dots? cs = some 2

/-- Resolves the segments of a path behind those resolved before. -/
def resolve (before : List (List Char)) : List (List Char) → List (List Char)
  | [] => before
  | [segment] =>
    if isUp segment then dropLastSegment before ++ [[]]
    else if isHere segment then before ++ [[]]
    else before ++ [segment]
  | segment :: next :: rest =>
    if isUp segment then resolve (dropLastSegment before) (next :: rest)
    else if isHere segment then resolve before (next :: rest)
    else resolve (before ++ [segment]) (next :: rest)

/-- Splits a path at slashes of either kind. -/
def splitPath (cs : List Char) : List (List Char) :=
  Text.splitAt '/' (cs.map fun c => if c = '\\' then '/' else c)

/-- The resolved segments of a path. -/
def readPath (cs : List Char) : List (List Char) :=
  let cs :=
    match cs with
    | c :: rest => if isSlash c then rest else cs
    | [] => []
  resolve [] ((splitPath cs).map (encode keepsInPath))

/-! ## URLs -/

/-- Splits off what follows a mark. -/
def splitMark (mark : Char) (cs : List Char) : List Char × Option (List Char) :=
  match cs.dropWhile (· ≠ mark) with
  | _ :: rest => (cs.takeWhile (· ≠ mark), some rest)
  | [] => (cs, none)

/-- Reads a URL of a scheme whose authority stands behind any number of slashes. -/
def http? (secure : Bool) (cs : List Char) : Except UrlFault Url := do
  let cs := cs.dropWhile isSlash
  let name := cs.takeWhile fun c => !endsAuthority true c
  let rest := cs.dropWhile fun c => !endsAuthority true c
  let a ← authority? true name rest
  let (rest, fragment) := splitMark '#' rest
  let (rest, query) := splitMark '?' rest
  let usual := if secure then 443 else 80
  pure
    { secure
      user := a.user
      host := a.host
      port := a.port.filter (· ≠ usual)
      path := readPath rest
      query := query.map (encode keepsInQuery)
      fragment := fragment.map (encode keepsInFragment) }

/-- Checks the host of a URL of another scheme, which is none that can be used. -/
def other? (scheme : String) (cs : List Char) : Except UrlFault Url := do
  if scheme = "file" then
    match cs with
    | a :: b :: rest =>
      if isSlash a && isSlash b then
        let _ ← fileHost? (rest.takeWhile fun c => !endsAuthority true c)
    | _ => pure ()
  else if scheme = "ftp" || scheme = "ws" || scheme = "wss" then
    let cs := cs.dropWhile isSlash
    let _ ← authority? true (cs.takeWhile fun c => !endsAuthority true c)
      (cs.dropWhile fun c => !endsAuthority true c)
  else
    match cs with
    | '/' :: '/' :: cs =>
      let _ ← authority? false (cs.takeWhile fun c => !endsAuthority false c)
        (cs.dropWhile fun c => !endsAuthority false c)
    | _ => pure ()
  throw .notHttp

/-- The URL that a text names. -/
def ofText? (text : String) : Except UrlFault Url := do
  let (scheme, rest) ← scheme? (clean text.toList)
  if scheme = "http" then http? false rest
  else if scheme = "https" then http? true rest
  else other? scheme rest

end GroupRoles.Url
