import GroupRoles.Url.Bidi
import GroupRoles.Url.Label
import GroupRoles.Url.Percent

/-!
# Domains

A domain in lower case. A label with characters beyond ASCII is written in Punycode.
-/

namespace GroupRoles.Url

/-- Why a text is no URL that can be used. -/
inductive UrlFault where
  | relative
  | emptyHost
  | invalidPort
  | invalidDomain
  | invalidCharacter
  | invalidAddress4
  | invalidAddress6
  | notHttp
deriving Repr, DecidableEq

/-- The text of a fault. -/
def UrlFault.message : UrlFault → String
  | relative => "relative URL without a base"
  | emptyHost => "empty host"
  | invalidPort => "invalid port number"
  | invalidDomain => "invalid international domain name"
  | invalidCharacter => "invalid domain character"
  | invalidAddress4 => "invalid IPv4 address"
  | invalidAddress6 => "invalid IPv6 address"
  | notHttp => "expected an http(s) URL"

/-- A character that no host holds. -/
def isForbidden (c : Char) : Bool :=
  ['\x00', '\t', '\n', '\r', ' ', '#', '/', ':', '<', '>', '?', '@', '[', '\\', ']', '^',
    '|'].contains c

/-- A character that no domain holds. -/
def isForbiddenInDomain (c : Char) : Bool :=
  isForbidden c || c.toNat < 0x20 || c.toNat = 0x7f || c = '%'

/-- What the labels of a text stand for. -/
def labels? (cs : List Char) : Option (List (List Char)) := do
  let cs ← mapped? cs
  if cs.any isForbiddenInDomain then none
  else
    let labels ← (Text.splitAt '.' cs).mapM Label.read?
    if labels.any hasRight && !labels.all keepsDirection then none else some labels

/-- The domain that a text names. -/
def domain? (cs : List Char) : Except UrlFault (List Char) :=
  match (decode? cs).bind fun s => labels? s.toList with
  | none => throw .invalidDomain
  | some labels =>
    let cs := Text.joinWith '.' (labels.map Label.text)
    if cs.isEmpty then throw .emptyHost else pure cs

end GroupRoles.Url
