import GroupRoles.Shape.OfJson
import GroupRoles.Text.Blank

/-!
# What an error response says

A response that tells of an error holds its message under one of three keys of a JSON object, or
it is shown as it is, without white space around it and cut to `maxErrorText` characters.
-/

namespace GroupRoles.Http

namespace Node

open Json

mutual

/-- Whether a draft is plain data: lists and records nest less than `depth` deep, no number is
out of range and no string holds half of a pair. -/
def isPlain : Nat → Draft → Bool
  | _, .broken => false
  | _, .number n => n.value.isSome
  | _, .text s => s.isSome
  | 0, .list _ | 0, .record _ => false
  | depth + 1, .list ds => arePlain depth ds
  | depth + 1, .record ms => membersPlain depth ms
  | _, _ => true

/-- Whether all items are plain data. -/
def arePlain (depth : Nat) : List Draft → Bool
  | [] => true
  | d :: rest => isPlain depth d && arePlain depth rest

/-- Whether all members are plain data. -/
def membersPlain (depth : Nat) : List (Draft × Draft) → Bool
  | [] => true
  | (k, v) :: rest => isPlain depth k && isPlain depth v && membersPlain depth rest

end

/-- The text under a key; of equal keys the last one counts. -/
def text? (key : String) (d : Draft) : Option String :=
  match d with
  | .record ms =>
    match ms.reverse.find? fun m => match m.1 with
      | .text s => s = some key
      | _ => false with
    | some (_, .text s) => s
    | _ => none
  | _ => none

end Node

/-- The keys that may hold the message of an error. -/
def errorKeys : List String :=
  ["errorMessage", "error_description", "error"]

/-- How many characters of a body are shown. -/
def maxErrorText : Nat := 200

/-- The message that the text of a body holds. -/
def errorMessage? (body : String) : Option String :=
  let sheet := Json.Draft.ofText body
  if sheet.complete && Node.isPlain Json.maxDepth sheet.draft then
    errorKeys.findSome? fun key => Node.text? key sheet.draft
  else none

/-- A short description of the body of an error response. -/
def errorText (body : String) : String :=
  match errorMessage? body with
  | some message => message
  | none =>
    let trimmed := Text.trim body.toList
    if trimmed.isEmpty then "<empty body>" else String.ofList (trimmed.take maxErrorText)

end GroupRoles.Http
