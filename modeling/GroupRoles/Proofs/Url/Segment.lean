import GroupRoles.Proofs.Text.Utf8
import GroupRoles.Url.Basic
import Mathlib.Data.List.Basic
import Mathlib.Data.List.Induction

/-!
# Segments of a path

A text that is plain becomes one segment of a path, and percent decoding gives the text back. So
the path of an extended URL is the path of the URL that it was made from, followed by one segment
for each text (`path_extend`), and these are read back in order (`below?_extend`).

No other text keeps its place: where one among several is not plain, what comes behind the path has
fewer segments than there are texts, or one of them reads differently (`foldl_push_reads_iff`).
-/

namespace GroupRoles.Url

/-! ## Percent decoding -/

theorem hexValue?_upperHexDigit {n : Nat} (h : n < 16) :
    Text.hexValue? (upperHexDigit n) = some n := by
  have hall : ∀ n ∈ List.range 16, Text.hexValue? (upperHexDigit n) = some n := by decide
  exact hall n (List.mem_range.mpr h)

theorem decodeBytes_percentByte (b : UInt8) (rest : List Char) :
    decodeBytes (percentByte b ++ rest) = b :: decodeBytes rest := by
  have hb : b.toNat < 256 := b.toNat_lt
  have hhigh := hexValue?_upperHexDigit (n := b.toNat / 16) (by omega)
  have hlow := hexValue?_upperHexDigit (n := b.toNat % 16) (by omega)
  have hbyte : b.toNat / 16 * 16 + b.toNat % 16 = b.toNat := by omega
  simp only [percentByte, List.cons_append, List.nil_append, decodeBytes, hhigh, hlow, hbyte,
    UInt8.ofNat_toNat]

theorem decodeBytes_percentBytes (bs : List UInt8) (rest : List Char) :
    decodeBytes (bs.flatMap percentByte ++ rest) = bs ++ decodeBytes rest := by
  induction bs with
  | nil => rfl
  | cons b bs ih =>
    rw [List.flatMap_cons, List.append_assoc, decodeBytes_percentByte, ih, List.cons_append]

theorem decodeBytes_cons_of_ne {c : Char} (h : c ≠ '%') (rest : List Char) :
    decodeBytes (c :: rest) = String.utf8EncodeChar c ++ decodeBytes rest := by
  rw [decodeBytes]
  intro _ _ _ hc
  exact absurd hc h

/-- Encoded characters are read back as their bytes, as long as every percent sign is encoded. -/
theorem decodeBytes_encode {keeps : Char → Bool} (h : keeps '%' = false) (cs : List Char) :
    decodeBytes (encode keeps cs) = cs.flatMap String.utf8EncodeChar := by
  induction cs with
  | nil => rfl
  | cons c rest ih =>
    have hcons : encode keeps (c :: rest) =
        (if keeps c then [c] else percentChar c) ++ encode keeps rest := List.flatMap_cons
    rw [hcons, List.flatMap_cons]
    cases hkeeps : keeps c with
    | true =>
      have hne : c ≠ '%' := by
        rintro rfl
        rw [h] at hkeeps
        cases hkeeps
      rw [if_pos rfl, List.singleton_append, decodeBytes_cons_of_ne hne, ih]
    | false => rw [if_neg Bool.false_ne_true, percentChar, decodeBytes_percentBytes, ih]

theorem decode?_encode {keeps : Char → Bool} (h : keeps '%' = false) (cs : List Char) :
    decode? (encode keeps cs) = some (String.ofList cs) := by
  rw [decode?, decodeBytes_encode h, Text.Utf8.strict?_encodeChars]

/-! ## One segment -/

/-- A text that stays as it is when it becomes a segment: it is no step in the path, and URLs leave
none of its characters out. -/
structure IsPlain (text : String) : Prop where
  ne_dot : text ≠ "."
  ne_dots : text ≠ ".."
  kept : ∀ c ∈ text.toList, isIgnored c = false

theorem isPlain_iff {text : String} :
    IsPlain text ↔
      text ≠ "." ∧ text ≠ ".." ∧ (text.toList.all fun c => !isIgnored c) = true := by
  constructor
  · intro h
    refine ⟨h.ne_dot, h.ne_dots, List.all_eq_true.mpr fun c hc => ?_⟩
    rw [h.kept c hc]
    rfl
  · rintro ⟨hdot, hdots, hkept⟩
    exact ⟨hdot, hdots, fun c hc => Bool.not_eq_true' _ ▸ List.all_eq_true.mp hkept c hc⟩

instance (text : String) : Decidable (IsPlain text) :=
  decidable_of_iff' _ isPlain_iff

/-- The segment of a text. -/
def segment (text : String) : List Char :=
  encode keepsInSegment text.toList

theorem decode?_segment (text : String) : decode? (segment text) = some text := by
  rw [segment, decode?_encode (by decide), String.ofList_toList]

/-- Segments behind which more may follow: the path `/` has none. -/
def stem (path : List (List Char)) : List (List Char) :=
  if path = [[]] then [] else path

theorem put_eq (path : List (List Char)) (seg : List Char) : put path seg = stem path ++ [seg] := by
  unfold put stem
  split <;> rfl

theorem IsPlain.filter_eq {text : String} (h : IsPlain text) :
    (text.toList.filter fun c => !isIgnored c) = text.toList := by
  rw [List.filter_eq_self]
  intro c hc
  rw [h.kept c hc]
  rfl

theorem toList_eq_dot_iff {text : String} : text.toList = ['.'] ↔ text = "." :=
  (String.toList_inj : text.toList = ".".toList ↔ text = ".")

theorem toList_eq_dots_iff {text : String} : text.toList = ['.', '.'] ↔ text = ".." :=
  (String.toList_inj : text.toList = "..".toList ↔ text = "..")

/-- A plain text becomes one more segment. -/
theorem push_of_isPlain {text : String} (h : IsPlain text) (path : List (List Char)) :
    push path text = stem path ++ [segment text] := by
  have hdot : ¬ text.toList = ['.'] := mt toList_eq_dot_iff.mp h.ne_dot
  have hdots : ¬ text.toList = ['.', '.'] := mt toList_eq_dots_iff.mp h.ne_dots
  have hstep : ¬ (text = "." || text = "..") = true := by
    rw [Bool.or_eq_true, decide_eq_true_iff, decide_eq_true_iff]
    exact not_or.mpr ⟨h.ne_dot, h.ne_dots⟩
  unfold push
  rw [if_neg hstep]
  dsimp only
  rw [h.filter_eq, if_neg hdot, if_neg hdots, put_eq, segment]

/-! ## Extended URLs -/

theorem segment_ne_nil {text : String} (h : text ≠ "") : segment text ≠ [] := by
  intro hnil
  have hread := decode?_segment text
  rw [hnil] at hread
  exact h (Option.some.inj hread).symm

theorem foldl_push_of_isPlain {texts : List String} (h : ∀ t ∈ texts, IsPlain t)
    {path : List (List Char)} (hnil : path ≠ []) (hroot : path ≠ [[]]) :
    texts.foldl push path = path ++ texts.map segment := by
  induction texts generalizing path with
  | nil => exact (List.append_nil path).symm
  | cons t rest ih =>
    have hstem : stem path = path := if_neg hroot
    have hroot' : path ++ [segment t] ≠ [[]] := by
      intro heq
      have hlen := congrArg List.length heq
      rw [List.length_append, List.length_singleton, List.length_singleton] at hlen
      exact hnil (List.eq_nil_of_length_eq_zero (by omega))
    rw [List.foldl_cons, push_of_isPlain (h t List.mem_cons_self), hstem,
      ih (fun t' ht' => h t' (List.mem_cons_of_mem t ht')) (List.append_ne_nil_of_right_ne_nil _
        (List.cons_ne_nil _ _)) hroot', List.map_cons, List.append_assoc, List.singleton_append]

/-- The path of an extended URL: one segment for each text, behind the path without an empty
end. -/
theorem path_extend (base : Url) {text : String} {texts : List String} (hne : text ≠ "")
    (h : ∀ t ∈ text :: texts, IsPlain t) :
    (base.extend (text :: texts)).path =
      stem (dropEmptyEnd base.path) ++ (text :: texts).map segment := by
  have hfirst : stem (dropEmptyEnd base.path) ++ [segment text] ≠ [[]] := by
    intro heq
    have hlast := congrArg List.getLast? heq
    rw [List.getLast?_concat] at hlast
    exact segment_ne_nil hne (Option.some.inj hlast)
  rw [extend, List.foldl_cons, push_of_isPlain (h text List.mem_cons_self),
    foldl_push_of_isPlain (fun t ht => h t (List.mem_cons_of_mem text ht))
      (List.append_ne_nil_of_right_ne_nil _ (List.cons_ne_nil _ _)) hfirst, List.map_cons,
    List.append_assoc, List.singleton_append]

/-! ## Reading segments back -/

/-- The texts of the segments behind the path of a base URL, for a URL of the same host. -/
def below? (base url : Url) : Option (List String) :=
  if url.secure = base.secure ∧ url.host = base.host ∧ url.port = base.port then
    ((stem (dropEmptyEnd base.path)).isPrefixOf? url.path).bind (List.mapM decode?)
  else none

theorem mapM_decode?_segment (texts : List String) :
    (texts.map segment).mapM decode? = some texts := by
  induction texts with
  | nil => rfl
  | cons t rest ih => simp [decode?_segment, ih]

/-- The texts of an extended URL are read back in order; its query does not matter. -/
theorem below?_extend (base : Url) {text : String} {texts : List String} (hne : text ≠ "")
    (h : ∀ t ∈ text :: texts, IsPlain t) (query : Option (List Char)) :
    below? base { base.extend (text :: texts) with query } = some (text :: texts) := by
  have hstem : (stem (dropEmptyEnd base.path)).isPrefixOf? (base.extend (text :: texts)).path =
      some ((text :: texts).map segment) :=
    List.isPrefixOf?_eq_some_iff_append_eq.mpr (path_extend base hne h).symm
  unfold below?
  rw [if_pos ⟨rfl, rfl, rfl⟩]
  dsimp only
  rw [hstem, Option.bind_some, mapM_decode?_segment]

/-! ## Texts of any kind -/

/-- The segment that a text becomes if it becomes one: what reads as a step once tabs and line breaks
are dropped leaves an empty segment. -/
def addition (text : String) : List Char :=
  let cs := text.toList.filter fun c => !isIgnored c
  if cs = ['.'] ∨ cs = ['.', '.'] then [] else encode keepsInSegment cs

/-- A segment behind which the path of a text is read is that text only where the text is plain. -/
theorem decode?_addition_iff {text : String} :
    decode? (addition text) = some text ↔ IsPlain text := by
  constructor
  · intro hread
    unfold addition at hread
    dsimp only at hread
    split at hread
    · next hstep =>
      -- a step leaves nothing to read
      have hempty : text = "" := (Option.some.inj hread).symm
      rw [hempty] at hstep
      exact absurd hstep (by decide)
    · next hstep =>
      rw [decode?_encode (by decide), Option.some.injEq] at hread
      have hfilter : (text.toList.filter fun c => !isIgnored c) = text.toList := by
        rw [← String.toList_inj, String.toList_ofList] at hread
        exact hread
      rw [hfilter, toList_eq_dot_iff, toList_eq_dots_iff, not_or] at hstep
      refine ⟨hstep.1, hstep.2, fun c hc => ?_⟩
      have hkept := List.filter_eq_self.mp hfilter c hc
      rwa [Bool.not_eq_true'] at hkept
  · intro h
    have hstep : ¬ (text.toList = ['.'] ∨ text.toList = ['.', '.']) := by
      rw [toList_eq_dot_iff, toList_eq_dots_iff]
      exact not_or.mpr ⟨h.ne_dot, h.ne_dots⟩
    unfold addition
    dsimp only
    rw [h.filter_eq, if_neg hstep]
    exact decode?_segment text

theorem dropLastSegment_cases {path : List (List Char)} (h : path ≠ []) :
    dropLastSegment path = path ∨ (dropLastSegment path).length + 1 = path.length := by
  have hpos : 0 < path.length := List.length_pos_iff.mpr h
  unfold dropLastSegment
  rw [List.getLast?_eq_some_getLast h]
  dsimp only
  split
  · exact .inl rfl
  · refine .inr ?_
    rw [List.length_dropLast]
    omega

/-- A text behind a path becomes one more segment, or the number of segments stays. -/
theorem push_cases {path : List (List Char)} (h : 1 < path.length) (text : String) :
    push path text = path ++ [addition text] ∨ (push path text).length = path.length := by
  have hnil : path ≠ [] := List.ne_nil_of_length_pos (by omega)
  have hroot : path ≠ [[]] := by
    rintro rfl
    exact absurd h (Nat.lt_irrefl 1)
  have hput : ∀ seg, put path seg = path ++ [seg] := fun seg => by rw [put_eq, stem, if_neg hroot]
  by_cases hstep : (text = "." || text = "..") = true
  · exact .inr (by rw [push, if_pos hstep])
  unfold push addition
  rw [if_neg hstep]
  dsimp only
  generalize (text.toList.filter fun c => !isIgnored c) = cs
  by_cases hhere : cs = ['.']
  · have hsegment : cs = ['.'] ∨ cs = ['.', '.'] := .inl hhere
    rw [if_pos hhere, if_pos hsegment, hput]
    exact .inl rfl
  by_cases hup : cs = ['.', '.']
  · have hsegment : cs = ['.'] ∨ cs = ['.', '.'] := .inr hup
    rw [if_neg hhere, if_pos hup, if_neg hroot, if_pos hsegment]
    -- a drive letter stays, and is followed by the empty segment
    rcases dropLastSegment_cases hnil with hsame | hless
    · exact .inl (by rw [hsame])
    · exact .inr (by rw [List.length_append, List.length_singleton, hless])
  · have hsegment : ¬ (cs = ['.'] ∨ cs = ['.', '.']) := not_or.mpr ⟨hhere, hup⟩
    rw [if_neg hhere, if_neg hup, if_neg hsegment, hput]
    exact .inl rfl

/-- Texts behind a path become at most one segment each, and where none is missing these are all
that comes behind the path. -/
theorem foldl_push_cases {path : List (List Char)} (h : 1 < path.length) (texts : List String) :
    1 < (texts.foldl push path).length ∧
      (texts.foldl push path).length ≤ path.length + texts.length ∧
      ((texts.foldl push path).length = path.length + texts.length →
        texts.foldl push path = path ++ texts.map addition) := by
  -- the last text finds what those before it have left of the path
  induction texts using List.reverseRecOn with
  | nil => exact ⟨h, Nat.le_refl _, fun _ => (List.append_nil path).symm⟩
  | append_singleton texts text ih =>
    obtain ⟨hlong, hle, hall⟩ := ih
    rw [List.foldl_append, List.foldl_cons, List.foldl_nil, List.length_append,
      List.length_singleton]
    rcases push_cases hlong text with hadded | hsame
    · rw [hadded, List.length_append, List.length_singleton]
      refine ⟨by omega, by omega, fun hlength => ?_⟩
      rw [hall (by omega), List.map_append, List.append_assoc, List.map_singleton]
    · rw [hsame]
      exact ⟨hlong, by omega, fun hlength => absurd hlength (by omega)⟩

/-- Texts that are added behind a path are read back, one segment for each in order and behind those
that were there, exactly if all of them are plain. -/
theorem foldl_push_reads_iff {start held : List (List Char)} (h : 1 < (start ++ held).length)
    (texts : List String) :
    (∃ added, texts.foldl push (start ++ held) = start ++ added ∧
        added.map decode? = held.map decode? ++ texts.map some) ↔
      ∀ text ∈ texts, IsPlain text := by
  constructor
  · rintro ⟨added, hpath, hread⟩
    have hlength : added.length = held.length + texts.length := by
      simpa only [List.length_map, List.length_append] using congrArg List.length hread
    obtain ⟨-, -, hall⟩ := foldl_push_cases h texts
    have hadded := hall (by rw [hpath, List.length_append, List.length_append, hlength, Nat.add_assoc])
    rw [hpath, List.append_assoc, List.append_cancel_left_eq] at hadded
    rw [hadded, List.map_append, List.append_cancel_left_eq, List.map_map, List.map_inj_left] at hread
    exact fun text htext => decode?_addition_iff.mp (hread text htext)
  · intro hplain
    have hroot : start ++ held ≠ [[]] := by
      intro hroot
      rw [hroot] at h
      exact absurd h (Nat.lt_irrefl 1)
    have hnil : start ++ held ≠ [] := List.ne_nil_of_length_pos (by omega)
    refine ⟨held ++ texts.map segment, ?_, ?_⟩
    · rw [foldl_push_of_isPlain hplain hnil hroot, List.append_assoc]
    · rw [List.map_append, List.map_map, List.append_cancel_left_eq, List.map_inj_left]
      exact fun text _ => decode?_segment text

end GroupRoles.Url
