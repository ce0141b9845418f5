import GroupRoles.Http.ErrorText
import GroupRoles.Proofs.Json.Spelling
import Mathlib.Data.List.DropRight

/-!
# How long the text of an error is

A body without a message is shown by what is left of it between white space, and cut: its text
begins with a character that is not white space, and has no more than `maxErrorText` characters. A
message is shown as it is, and any text can be one, under each of the three keys.
-/

namespace GroupRoles

/-! ## Trimming -/

namespace Text

theorem trim_prefix_dropWhile (cs : List Char) : trim cs <+: cs.dropWhile isBlank :=
  List.rdropWhile_prefix isBlank (cs.dropWhile isBlank)

/-- What is left of a text begins with a character that is not white space. -/
theorem exists_trim_eq_cons {cs : List Char} (h : trim cs ≠ []) :
    ∃ c rest, trim cs = c :: rest ∧ isBlank c = false := by
  obtain ⟨c, rest, htrim⟩ := List.exists_cons_of_ne_nil h
  obtain ⟨after, happend⟩ := trim_prefix_dropWhile cs
  rw [htrim, List.cons_append] at happend
  have hne : cs.dropWhile isBlank ≠ [] := happend ▸ List.cons_ne_nil c (rest ++ after)
  have hhead := List.head_dropWhile_not isBlank hne
  simp only [← happend, List.head_cons] at hhead
  exact ⟨c, rest, htrim, hhead⟩

end Text

namespace Http

open Json

variable {body message : String}

/-- A text that shows something and has no more than `maxErrorText` characters. -/
def IsBrief (text : String) : Prop :=
  text ≠ "" ∧ text.length ≤ maxErrorText

theorem errorText_of_message (h : errorMessage? body = some message) :
    errorText body = message := by
  rw [errorText, h]

/-- Without a message the text is not blank, and cut. -/
theorem errorText_of_none (h : errorMessage? body = none) :
    Text.isAllBlank (errorText body) = false ∧ (errorText body).length ≤ maxErrorText := by
  rw [errorText, h]
  dsimp only
  by_cases htrim : Text.trim body.toList = []
  · rw [htrim]
    decide
  · obtain ⟨c, rest, hcons, hblank⟩ := Text.exists_trim_eq_cons htrim
    rw [if_neg (by simp [htrim]), Text.isAllBlank, String.toList_ofList, String.length_ofList]
    constructor
    · rw [hcons, maxErrorText, List.take_succ_cons, List.all_cons, hblank, Bool.false_and]
    · exact List.length_take_le maxErrorText _

theorem ne_empty_of_isAllBlank_eq_false {text : String} (h : Text.isAllBlank text = false) :
    text ≠ "" := by
  rintro rfl
  cases h

/-- The text of a body is brief exactly when its message is, if it has one. -/
theorem isBrief_errorText_iff :
    IsBrief (errorText body) ↔ ∀ message, errorMessage? body = some message → IsBrief message := by
  cases h : errorMessage? body with
  | none =>
    obtain ⟨hblank, hlength⟩ := errorText_of_none h
    exact iff_of_true ⟨ne_empty_of_isAllBlank_eq_false hblank, hlength⟩ fun _ h => by cases h
  | some message =>
    rw [errorText_of_message h]
    exact ⟨fun hbrief _ hmessage => Option.some.inj hmessage ▸ hbrief, fun hall => hall message rfl⟩

/-- Any text is the message of a body, under each of the keys. -/
theorem errorMessage?_record {key : String} (hkey : key ∈ errorKeys) (message : String) :
    errorMessage? (Json.record [(key, .text message)]).compactText = some message := by
  have hsheet : Draft.ofText (Json.record [(key, .text message)]).compactText =
      ⟨.record [(.text (some key), .text (some message))], true⟩ :=
    ofText_compactText _
  have hplain : Node.isPlain maxDepth
      (.record [(.text (some key), .text (some message))]) = true := rfl
  have htext : ∀ other, Node.text? other (.record [(.text (some key), .text (some message))]) =
      if key = other then some message else none := by
    intro other
    by_cases hother : key = other
    · simp [Node.text?, hother]
    · simp [Node.text?, hother]
  simp only [errorMessage?, hsheet, hplain, Bool.and_self, if_true, htext]
  simp only [errorKeys, List.mem_cons, List.not_mem_nil, or_false] at hkey
  rcases hkey with rfl | rfl | rfl <;> rfl

end Http

end GroupRoles
