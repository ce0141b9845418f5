import GroupRoles.Proofs.Json.Token
import GroupRoles.Proofs.Text.Utf8

/-!
# Reading back whole values

A value may be written with or without white space between its parts (`Json.Spacing`). However it
is written, a reader learns the value and nothing else from its text (`ofText_compactText`,
`ofText_prettyText`), and the same from the bytes of the text (`ofBytes_encode`).
-/

namespace GroupRoles.Json

open Draft

/-! ## White space between the parts -/

/-- White space that sets the parts of a text apart: before each part at a nesting level, and
behind a colon. -/
structure Spacing where
  gap : Nat → List Char
  colon : List Char
  isSpace_gap : ∀ level, ∀ c ∈ gap level, isSpace c = true
  isSpace_colon : ∀ c ∈ colon, isSpace c = true

namespace Spacing

/-- Nothing between the parts. -/
def compact : Spacing where
  gap _ := []
  colon := []
  isSpace_gap _ _ h := absurd h List.not_mem_nil
  isSpace_colon _ h := absurd h List.not_mem_nil

/-- Every part on a line of its own. -/
def pretty : Spacing where
  gap := newline
  colon := [' ']
  isSpace_gap level c h := by
    rcases List.mem_cons.mp h with rfl | h
    · rfl
    · rw [List.eq_of_mem_replicate h]
      rfl
  isSpace_colon c h := by
    rw [List.mem_singleton.mp h]
    rfl

theorem gap_compact (level : Nat) : compact.gap level = [] := rfl

theorem colon_compact : compact.colon = [] := rfl

theorem gap_pretty (level : Nat) : pretty.gap level = newline level := rfl

theorem colon_pretty : pretty.colon = [' '] := rfl

mutual

/-- The text of a value whose parts are set apart. -/
def render (sp : Spacing) (level : Nat) : Json → List Char
  | list [] => ['[', ']']
  | list items =>
    '[' :: (sp.gap (level + 1) ++ (sp.renderItems (level + 1) items ++ (sp.gap level ++ [']'])))
  | record [] => ['\x7b', '\x7d']
  | record members =>
    '\x7b' :: (sp.gap (level + 1) ++ (sp.renderMembers (level + 1) members ++
      (sp.gap level ++ ['\x7d'])))
  | v => scalar v

/-- The items of a list. -/
def renderItems (sp : Spacing) (level : Nat) : List Json → List Char
  | [] => []
  | [v] => sp.render level v
  | v :: w :: rest =>
    sp.render level v ++ ',' :: (sp.gap level ++ sp.renderItems level (w :: rest))

/-- The members of a record. -/
def renderMembers (sp : Spacing) (level : Nat) : List (String × Json) → List Char
  | [] => []
  | [(k, v)] => quoted k ++ ':' :: (sp.colon ++ sp.render level v)
  | (k, v) :: m :: rest =>
    quoted k ++ ':' :: (sp.colon ++ (sp.render level v ++
      ',' :: (sp.gap level ++ sp.renderMembers level (m :: rest))))

end

mutual

theorem render_compact (level : Nat) : (v : Json) → compact.render level v = v.compact
  | null | flag _ | number _ | text _ | list [] | record [] => by
    simp only [render, Json.compact, compactItems, compactMembers, List.cons_append, List.nil_append]
  | list (v :: rest) => by
    have hitems := renderItems_compact (level + 1) (v :: rest)
    simp only [render, Json.compact, hitems, gap_compact, List.nil_append, List.cons_append]
  | record (m :: rest) => by
    have hmembers := renderMembers_compact (level + 1) (m :: rest)
    simp only [render, Json.compact, hmembers, gap_compact, List.nil_append, List.cons_append]

theorem renderItems_compact (level : Nat) :
    (vs : List Json) → compact.renderItems level vs = compactItems vs
  | [] => by simp only [renderItems, compactItems]
  | [v] => by simp only [renderItems, compactItems, render_compact level v]
  | v :: w :: rest => by
    have hrest := renderItems_compact level (w :: rest)
    simp only [renderItems, compactItems, render_compact level v, hrest, gap_compact,
      List.nil_append]

theorem renderMembers_compact (level : Nat) :
    (ms : List (String × Json)) → compact.renderMembers level ms = compactMembers ms
  | [] => by simp only [renderMembers, compactMembers]
  | [(k, v)] => by
    simp only [renderMembers, compactMembers, render_compact level v, colon_compact,
      List.nil_append]
  | (k, v) :: m :: rest => by
    have hrest := renderMembers_compact level (m :: rest)
    simp only [renderMembers, compactMembers, render_compact level v, hrest, gap_compact,
      colon_compact, List.nil_append, List.append_assoc, List.cons_append]

end

mutual

theorem render_pretty (level : Nat) : (v : Json) → pretty.render level v = v.pretty level
  | null | flag _ | number _ | text _ | list [] | record [] => by
    simp only [render, Json.pretty]
  | list (v :: rest) => by
    have hitems := renderItems_pretty (level + 1) (v :: rest)
    simp only [render, Json.pretty, hitems, gap_pretty, List.append_assoc, List.cons_append]
  | record (m :: rest) => by
    have hmembers := renderMembers_pretty (level + 1) (m :: rest)
    simp only [render, Json.pretty, hmembers, gap_pretty, List.append_assoc, List.cons_append]

theorem renderItems_pretty (level : Nat) :
    (vs : List Json) → pretty.renderItems level vs = prettyItems level vs
  | [] => by simp only [renderItems, prettyItems]
  | [v] => by simp only [renderItems, prettyItems, render_pretty level v]
  | v :: w :: rest => by
    have hrest := renderItems_pretty level (w :: rest)
    simp only [renderItems, prettyItems, render_pretty level v, hrest, gap_pretty,
      List.append_assoc, List.cons_append]

theorem renderMembers_pretty (level : Nat) :
    (ms : List (String × Json)) → pretty.renderMembers level ms = prettyMembers level ms
  | [] => by simp only [renderMembers, prettyMembers]
  | [(k, v)] => by
    simp only [renderMembers, prettyMembers, render_pretty level v, colon_pretty,
      List.append_assoc, List.cons_append, List.nil_append]
  | (k, v) :: m :: rest => by
    have hrest := renderMembers_pretty level (m :: rest)
    simp only [renderMembers, prettyMembers, render_pretty level v, hrest, gap_pretty,
      colon_pretty, List.append_assoc, List.cons_append, List.nil_append]

end

end Spacing

/-! ## One step of the reader -/

namespace Draft

theorem skip_append {ws : List Char} (h : ∀ c ∈ ws, isSpace c = true) (cs : List Char) :
    skip (ws ++ cs) = skip cs :=
  List.dropWhile_append_of_pos h

theorem skip_cons {c : Char} (h : isSpace c = false) (cs : List Char) :
    skip (c :: cs) = c :: cs :=
  List.dropWhile_cons_of_neg (by simp [h])

/-- White space in front of a value does not matter. -/
theorem value_append {ws : List Char} (h : ∀ c ∈ ws, isSpace c = true) (fuel : Nat)
    (cs : List Char) : value fuel (ws ++ cs) = value fuel cs := by
  cases fuel with
  | zero => rfl
  | succ fuel => simp only [value, skip_append h]

/-- A text that starts with a part of a list or of a record. -/
def Opens (cs : List Char) : Prop :=
  ∃ c rest, cs = c :: rest ∧ isSpace c = false ∧ c ≠ ']' ∧ c ≠ '\x7d'

theorem Opens.append {cs : List Char} (h : Opens cs) (rest : List Char) : Opens (cs ++ rest) := by
  obtain ⟨c, cs, rfl, hc⟩ := h
  exact ⟨c, cs ++ rest, rfl, hc⟩

theorem value_quoted (fuel : Nat) (s : String) (rest : List Char) :
    value (fuel + 1) (quoted s ++ rest) = (text (some s), some rest) := by
  have hcons : quoted s ++ rest = '\x22' :: (s.toList.flatMap escapeChar ++ '\x22' :: rest) := by
    simp only [quoted, List.cons_append, List.append_assoc, List.nil_append]
  rw [hcons, ← string_escaped s rest]
  rfl

theorem ne_of_isDigit {c mark : Char} (h : isDigit c = true) (hmark : isDigit mark = false) :
    c ≠ mark := by
  rintro rfl
  rw [hmark] at h
  cases h

theorem isSpace_of_isDigit {c : Char} (h : isDigit c = true) : isSpace c = false := by
  unfold isSpace
  simp only [Bool.or_eq_false_iff, decide_eq_false_iff_not]
  exact ⟨⟨⟨ne_of_isDigit h (by decide), ne_of_isDigit h (by decide)⟩, ne_of_isDigit h (by decide)⟩,
    ne_of_isDigit h (by decide)⟩

/-- A written number starts with a digit. -/
theorem toDigits_eq_cons (n : Nat) : ∃ c cs, Nat.toDigits 10 n = c :: cs ∧ isDigit c = true := by
  cases hdigits : Nat.toDigits 10 n with
  | nil => exact absurd hdigits Nat.toDigits_ne_nil
  | cons c cs => exact ⟨c, cs, rfl, isDigit_of_mem_toDigits (n := n) (hdigits ▸ List.mem_cons_self)⟩

theorem value_toDigits (fuel n : Nat) {rest : List Char} (h : EndsNumber rest) :
    value (fuel + 1) (Nat.toDigits 10 n ++ rest) =
      (number ⟨false, decimalDigits n, none, none⟩, some rest) := by
  rw [← numeral_toDigits n h]
  obtain ⟨c, cs, hdigits, hc⟩ := toDigits_eq_cons n
  have hne : ∀ {mark : Char}, isDigit mark = false → c ≠ mark := ne_of_isDigit hc
  simp only [hdigits, List.cons_append, value, skip_cons (isSpace_of_isDigit hc)]
  rw [if_neg (hne (by decide)), if_neg (hne (by decide)), if_neg (hne (by decide)),
    if_neg (hne (by decide)), if_pos hc]

/-- A list with something in it. -/
theorem value_list {ws cs : List Char} (hws : ∀ c ∈ ws, isSpace c = true) (h : Opens cs)
    (fuel : Nat) :
    value (fuel + 1) ('[' :: (ws ++ cs)) = (list (items fuel cs).1, (items fuel cs).2) := by
  obtain ⟨c, rest, rfl, hspace, hclose, -⟩ := h
  simp only [value, skip_cons (c := '[') (by decide), skip_append hws, skip_cons hspace]
  rw [if_neg (by decide), if_pos trivial]
  split
  · rename_i heq
    exact absurd (List.cons.inj heq).1 hclose
  · rfl

/-- A record with something in it. -/
theorem value_record {ws cs : List Char} (hws : ∀ c ∈ ws, isSpace c = true) (h : Opens cs)
    (fuel : Nat) :
    value (fuel + 1) ('\x7b' :: (ws ++ cs)) =
      (record (members fuel cs).1, (members fuel cs).2) := by
  obtain ⟨c, rest, rfl, hspace, -, hclose⟩ := h
  simp only [value, skip_cons (c := '\x7b') (by decide), skip_append hws, skip_cons hspace]
  rw [if_neg (by decide), if_neg (by decide), if_pos trivial]
  split
  · rename_i heq
    exact absurd (List.cons.inj heq).1 hclose
  · rfl

theorem items_last {fuel : Nat} {cs ws rest : List Char} {v : Draft}
    (h : value fuel cs = (v, some (ws ++ ']' :: rest))) (hws : ∀ c ∈ ws, isSpace c = true) :
    items (fuel + 1) cs = ([v], some rest) := by
  simp only [items, h, skip_append hws, skip_cons (c := ']') (by decide)]

theorem items_more {fuel : Nat} {cs rest : List Char} {v : Draft}
    (h : value fuel cs = (v, some (',' :: rest))) :
    items (fuel + 1) cs = (v :: (items fuel rest).1, (items fuel rest).2) := by
  simp only [items, h, skip_cons (c := ',') (by decide)]

theorem items_append {ws : List Char} (h : ∀ c ∈ ws, isSpace c = true) (fuel : Nat)
    (cs : List Char) : items fuel (ws ++ cs) = items fuel cs := by
  cases fuel with
  | zero => rfl
  | succ fuel => simp only [items, value_append h]

theorem members_last {fuel : Nat} {cs cs' ws rest : List Char} {k : Option String} {v : Draft}
    (hkey : value fuel cs = (text k, some (':' :: cs')))
    (h : value fuel cs' = (v, some (ws ++ '\x7d' :: rest))) (hws : ∀ c ∈ ws, isSpace c = true) :
    members (fuel + 1) cs = ([(text k, v)], some rest) := by
  simp only [members, hkey, skip_cons (c := ':') (by decide), h, skip_append hws,
    skip_cons (c := '\x7d') (by decide)]

theorem members_more {fuel : Nat} {cs cs' rest : List Char} {k : Option String} {v : Draft}
    (hkey : value fuel cs = (text k, some (':' :: cs')))
    (h : value fuel cs' = (v, some (',' :: rest))) :
    members (fuel + 1) cs =
      ((text k, v) :: (members fuel rest).1, (members fuel rest).2) := by
  simp only [members, hkey, skip_cons (c := ':') (by decide), h,
    skip_cons (c := ',') (by decide)]

theorem members_append {ws : List Char} (h : ∀ c ∈ ws, isSpace c = true) (fuel : Nat)
    (cs : List Char) : members fuel (ws ++ cs) = members fuel cs := by
  cases fuel with
  | zero => rfl
  | succ fuel => simp only [members, value_append h]

end Draft

/-! ## Whole values -/

theorem endsNumber_cons {c : Char} (h : isDigit c = false ∧ c ≠ '.' ∧ c ≠ 'e' ∧ c ≠ 'E')
    (rest : List Char) : EndsNumber (c :: rest) := by
  rintro c ⟨⟩
  exact h

theorem ends_of_isSpace {w : Char} (h : isSpace w = true) :
    isDigit w = false ∧ w ≠ '.' ∧ w ≠ 'e' ∧ w ≠ 'E' := by
  have hne : ∀ {mark : Char}, isSpace mark = false → w ≠ mark := by
    rintro mark hmark rfl
    rw [hmark] at h
    cases h
  have hdigit : isDigit w = false := by
    unfold isSpace at h
    simp only [Bool.or_eq_true, decide_eq_true_iff] at h
    rcases h with ((rfl | rfl) | rfl) | rfl <;> decide
  exact ⟨hdigit, hne (by decide), hne (by decide), hne (by decide)⟩

/-- White space ends a number. -/
theorem endsNumber_of_isSpace {ws : List Char} (hws : ∀ c ∈ ws, isSpace c = true) :
    EndsNumber ws := by
  cases ws with
  | nil => exact fun _ h => nomatch h
  | cons w ws => exact endsNumber_cons (ends_of_isSpace (hws w List.mem_cons_self)) ws

/-- White space ends a number, and so does a mark behind it. -/
theorem endsNumber_append {ws : List Char} (hws : ∀ c ∈ ws, isSpace c = true) {c : Char}
    (h : isDigit c = false ∧ c ≠ '.' ∧ c ≠ 'e' ∧ c ≠ 'E') (rest : List Char) :
    EndsNumber (ws ++ c :: rest) := by
  cases ws with
  | nil => exact endsNumber_cons h rest
  | cons w ws => exact endsNumber_cons (ends_of_isSpace (hws w List.mem_cons_self)) _

namespace Spacing

variable (sp : Spacing)

theorem opens_render (level : Nat) (v : Json) : Opens (sp.render level v) := by
  have hscalar : ∀ {c : Char} {rest : List Char},
      (isSpace c = false ∧ c ≠ ']' ∧ c ≠ '\x7d') → Opens (c :: rest) :=
    fun h => ⟨_, _, rfl, h⟩
  cases v with
  | null => exact hscalar (by decide)
  | flag b => cases b <;> exact hscalar (by decide)
  | number n =>
    obtain ⟨c, cs, hdigits, hc⟩ := toDigits_eq_cons n
    exact ⟨c, cs, hdigits, isSpace_of_isDigit hc, ne_of_isDigit hc (by decide),
      ne_of_isDigit hc (by decide)⟩
  | text s => exact hscalar (by decide)
  | list items => cases items <;> exact hscalar (by decide)
  | record members => cases members <;> exact hscalar (by decide)

theorem opens_renderItems (level : Nat) (v : Json) (rest : List Json) :
    Opens (sp.renderItems level (v :: rest)) := by
  cases rest with
  | nil => exact sp.opens_render level v
  | cons w rest => exact (sp.opens_render level v).append _

theorem opens_renderMembers (level : Nat) (m : String × Json) (rest : List (String × Json)) :
    Opens (sp.renderMembers level (m :: rest)) := by
  have hkey : Opens (quoted m.1) := ⟨_, _, rfl, by decide⟩
  cases rest with
  | nil => exact hkey.append _
  | cons m' rest => exact hkey.append _

mutual

/-- A value is read back whatever follows it, as long as it does not go on with a number. -/
theorem value_render (level : Nat) :
    (v : Json) → (fuel : Nat) → (rest : List Char) →
      2 * (sp.render level v).length ≤ fuel → EndsNumber rest →
      value fuel (sp.render level v ++ rest) = (v.draft, some rest)
  | v, 0, _, hfuel, _ => by
    obtain ⟨c, cs, hcs, -⟩ := sp.opens_render level v
    rw [hcs, List.length_cons] at hfuel
    omega
  | null, _ + 1, _, _, _ => rfl
  | flag true, _ + 1, _, _, _ => rfl
  | flag false, _ + 1, _, _, _ => rfl
  | number n, fuel + 1, rest, _, hends => value_toDigits fuel n hends
  | text s, fuel + 1, rest, _, _ => value_quoted fuel s rest
  | list [], _ + 1, _, _, _ => rfl
  | record [], _ + 1, _, _, _ => rfl
  | list (v :: vs), fuel + 1, rest, hfuel, _ => by
    -- the brackets are two characters, which pay for the step into the list
    simp only [render, List.length_cons, List.length_append] at hfuel
    simp only [render, List.cons_append, List.append_assoc, List.nil_append]
    have hitems := items_renderItems (level + 1) v vs fuel (sp.gap level) rest (by omega)
      (sp.isSpace_gap level)
    rw [value_list (sp.isSpace_gap (level + 1)) ((sp.opens_renderItems _ v vs).append _),
      hitems]
    rfl
  | record (m :: ms), fuel + 1, rest, hfuel, _ => by
    simp only [render, List.length_cons, List.length_append] at hfuel
    simp only [render, List.cons_append, List.append_assoc, List.nil_append]
    have hmembers := members_renderMembers (level + 1) m ms fuel (sp.gap level) rest (by omega)
      (sp.isSpace_gap level)
    rw [value_record (sp.isSpace_gap (level + 1)) ((sp.opens_renderMembers _ m ms).append _),
      hmembers]
    rfl

theorem items_renderItems (level : Nat) :
    (v : Json) → (vs : List Json) → (fuel : Nat) → (ws rest : List Char) →
      2 * (sp.renderItems level (v :: vs)).length + 1 ≤ fuel → (∀ c ∈ ws, isSpace c = true) →
      items fuel (sp.renderItems level (v :: vs) ++ (ws ++ ']' :: rest)) =
        (draftItems (v :: vs), some rest)
  | v, [], fuel + 1, ws, rest, hfuel, hws => by
    simp only [renderItems] at hfuel ⊢
    exact items_last (value_render level v fuel _ (by omega) (endsNumber_append hws (by decide) rest))
      hws
  | v, w :: vs, fuel + 1, ws, rest, hfuel, hws => by
    simp only [renderItems, List.length_append, List.length_cons] at hfuel
    simp only [renderItems, List.cons_append, List.append_assoc]
    have hrest := items_renderItems level w vs fuel ws rest (by omega) hws
    rw [items_more (value_render level v fuel _ (by omega) (endsNumber_cons (by decide) _)),
      items_append (sp.isSpace_gap level), hrest]
    rfl

theorem members_renderMembers (level : Nat) :
    (m : String × Json) → (ms : List (String × Json)) → (fuel : Nat) → (ws rest : List Char) →
      2 * (sp.renderMembers level (m :: ms)).length + 1 ≤ fuel → (∀ c ∈ ws, isSpace c = true) →
      members fuel (sp.renderMembers level (m :: ms) ++ (ws ++ '\x7d' :: rest)) =
        (draftMembers (m :: ms), some rest)
  | (k, v), [], fuel + 2, ws, rest, hfuel, hws => by
    -- a key has its quotes at least, so that there is fuel for reading it
    simp only [renderMembers, List.length_append, List.length_cons] at hfuel
    simp only [renderMembers, List.cons_append, List.append_assoc]
    have hvalue := value_render level v (fuel + 1) (ws ++ '\x7d' :: rest) (by omega)
      (endsNumber_append hws (by decide) rest)
    rw [← value_append sp.isSpace_colon] at hvalue
    exact members_last (value_quoted fuel k _) hvalue hws
  | (k, v), m :: ms, fuel + 2, ws, rest, hfuel, hws => by
    simp only [renderMembers, List.length_append, List.length_cons] at hfuel
    simp only [renderMembers, List.cons_append, List.append_assoc]
    have hrest := members_renderMembers level m ms (fuel + 1) ws rest (by omega) hws
    have hvalue := value_render level v (fuel + 1)
      (',' :: (sp.gap level ++ (sp.renderMembers level (m :: ms) ++ (ws ++ '\x7d' :: rest))))
      (by omega) (endsNumber_cons (by decide) _)
    rw [← value_append sp.isSpace_colon] at hvalue
    rw [members_more (value_quoted fuel k _) hvalue, members_append (sp.isSpace_gap level), hrest]
    rfl

end

/-- Whatever the white space between its parts and behind it, the text of a value tells the
value. -/
theorem ofChars_render (v : Json) {ws : List Char} (hws : ∀ c ∈ ws, isSpace c = true) :
    ofChars (sp.render 0 v ++ ws) = ⟨v.draft, true⟩ := by
  have hvalue : value (2 * (sp.render 0 v ++ ws).length + 2) (sp.render 0 v ++ ws) =
      (v.draft, some ws) :=
    sp.value_render 0 v _ ws (by rw [List.length_append]; omega) (endsNumber_of_isSpace hws)
  have hrest : skip ws = [] := by
    have hskip := skip_append hws []
    rwa [List.append_nil] at hskip
  rw [ofChars, hvalue]
  dsimp only
  rw [hrest]
  rfl

end Spacing

/-- The text of a value on one line tells the value. -/
theorem ofText_compactText (v : Json) : ofText v.compactText = ⟨v.draft, true⟩ := by
  have htext := Spacing.compact.ofChars_render v fun _ h => absurd h List.not_mem_nil
  rw [List.append_nil, Spacing.render_compact] at htext
  rw [ofText, compactText, String.toList_ofList, htext]

/-- The text of a value over several lines tells the value, also with white space behind it. -/
theorem ofText_prettyText_append (v : Json) {ws : String}
    (hws : ∀ c ∈ ws.toList, isSpace c = true) :
    ofText (v.prettyText ++ ws) = ⟨v.draft, true⟩ := by
  have htext := Spacing.pretty.ofChars_render v hws
  rw [Spacing.render_pretty] at htext
  rw [ofText, prettyText, String.toList_append, String.toList_ofList, htext]

/-- The text of a value over several lines tells the value. -/
theorem ofText_prettyText (v : Json) : ofText v.prettyText = ⟨v.draft, true⟩ := by
  have hnone : ∀ c ∈ "".toList, isSpace c = true := fun _ h => absurd h List.not_mem_nil
  have htext := ofText_prettyText_append v hnone
  rwa [String.append_empty] at htext

/-! ## Bytes -/

mutual

theorem Draft.common_self : ∀ v : Draft, v.common v = v
  | .broken | .null | .flag _ | .number _ => rfl
  | .text s => by rw [common, if_pos rfl]
  | .list vs => by rw [common, commonItems_self vs]
  | .record ms => by rw [common, commonMembers_self ms]

theorem Draft.commonItems_self : ∀ vs : List Draft, commonItems vs vs = vs
  | [] => rfl
  | v :: rest => by rw [commonItems, common_self v, commonItems_self rest]

theorem Draft.commonMembers_self : ∀ ms : List (Draft × Draft), commonMembers ms ms = ms
  | [] => rfl
  | (k, v) :: rest => by
    rw [commonMembers, common_self k, common_self v, commonMembers_self rest]

end

/-- The bytes of a text tell what the text tells. -/
theorem ofBytes_encode (s : String) : ofBytes (Text.Utf8.encode s) = ofText s := by
  have hchars : ∀ c : Char,
      (Text.Utf8.decode (Text.Utf8.encode s)).map (·.getD c) = s.toList := by
    intro c
    rw [Text.Utf8.encode, Text.Utf8.decode_encodeChars, List.map_map]
    exact List.map_id _
  simp only [ofBytes, hchars, common_self]
  rfl

end GroupRoles.Json
