import GroupRoles.Proofs.Url.Segment

/-!
# Different URLs have different texts

The text of a URL tells where each of its parts ends: a segment holds no slash, and a path no
question mark. So two URLs that are made from one base URL have the same text only if they have the
same segments and the same query (`text_extend_inj`). A query in turn tells the value of the pair
that was added to it last (`addPair_inj`).
-/

namespace GroupRoles.Url

/-! ## Where a part ends -/

/-- What may follow a part that holds no `mark`: nothing, or the mark. -/
def Stops (mark : Char) (cs : List Char) : Prop :=
  cs = [] ∨ ∃ rest, cs = mark :: rest

/-- Two texts that go on in the same way are cut at the same place, the first mark. -/
theorem append_inj_of_stops {mark : Char} {xs ys rest rest' : List Char} (hx : mark ∉ xs)
    (hy : mark ∉ ys) (hrest : Stops mark rest) (hrest' : Stops mark rest')
    (h : xs ++ rest = ys ++ rest') : xs = ys ∧ rest = rest' := by
  induction xs generalizing ys with
  | nil =>
    cases ys with
    | nil => exact ⟨rfl, h⟩
    | cons y ys =>
      rw [List.nil_append, List.cons_append] at h
      rcases hrest with rfl | ⟨tail, rfl⟩
      · cases h
      · rw [List.cons.injEq] at h
        exact absurd (h.1 ▸ List.mem_cons_self) hy
  | cons x xs ih =>
    cases ys with
    | nil =>
      rw [List.nil_append, List.cons_append] at h
      rcases hrest' with rfl | ⟨tail, rfl⟩
      · cases h
      · rw [List.cons.injEq] at h
        exact absurd (h.1 ▸ List.mem_cons_self) hx
    | cons y ys =>
      rw [List.cons_append, List.cons_append, List.cons.injEq] at h
      rw [List.mem_cons, not_or] at hx hy
      obtain ⟨hxs, hrests⟩ := ih hx.2 hy.2 h.2
      exact ⟨by rw [h.1, hxs], hrests⟩

/-! ## Paths -/

theorem pathText_append (path path' : List (List Char)) :
    pathText (path ++ path') = pathText path ++ pathText path' :=
  List.flatMap_append

theorem stops_pathText (path : List (List Char)) : Stops '/' (pathText path) := by
  cases path with
  | nil => exact .inl rfl
  | cons seg rest => exact .inr ⟨seg ++ pathText rest, rfl⟩

/-- Segments without slashes are told apart by the text of their path. -/
theorem pathText_inj {path path' : List (List Char)} (hpath : ∀ seg ∈ path, '/' ∉ seg)
    (hpath' : ∀ seg ∈ path', '/' ∉ seg) (h : pathText path = pathText path') : path = path' := by
  induction path generalizing path' with
  | nil =>
    cases path' with
    | nil => rfl
    | cons seg rest => cases h
  | cons seg rest ih =>
    cases path' with
    | nil => cases h
    | cons seg' rest' =>
      have htail : seg ++ pathText rest = seg' ++ pathText rest' := (List.cons.inj h).2
      obtain ⟨hseg, hrest⟩ := append_inj_of_stops (hpath seg List.mem_cons_self)
        (hpath' seg' List.mem_cons_self) (stops_pathText rest) (stops_pathText rest') htail
      rw [hseg, ih (fun s hs => hpath s (List.mem_cons_of_mem seg hs))
        (fun s hs => hpath' s (List.mem_cons_of_mem seg' hs)) hrest]

/-! ## Characters of encoded parts -/

theorem isAlphanum_upperHexDigit {n : Nat} (h : n < 16) : (upperHexDigit n).isAlphanum = true := by
  have hall : ∀ n ∈ List.range 16, (upperHexDigit n).isAlphanum = true := by decide
  exact hall n (List.mem_range.mpr h)

section

variable {mark : Char} (hmark : mark.isAlphanum = false) (hne : mark ≠ '%')
include hmark hne

/-- Encoded characters are percent signs and digits only. -/
theorem notMem_percentChar (c : Char) : mark ∉ percentChar c := by
  intro hmem
  obtain ⟨b, -, hb⟩ := List.mem_flatMap.mp hmem
  have hbyte : b.toNat < 256 := b.toNat_lt
  have hdigit : ∀ {n}, n < 16 → mark ≠ upperHexDigit n := by
    rintro n hn rfl
    rw [isAlphanum_upperHexDigit hn] at hmark
    cases hmark
  simp only [percentByte, List.mem_cons, List.not_mem_nil, or_false] at hb
  rcases hb with hb | hb | hb
  · exact hne hb
  · exact hdigit (by omega) hb
  · exact hdigit (by omega) hb

theorem notMem_encode {keeps : Char → Bool} (hkeeps : keeps mark = false) (cs : List Char) :
    mark ∉ encode keeps cs := by
  intro hmem
  obtain ⟨c, -, hc⟩ := List.mem_flatMap.mp hmem
  cases hkept : keeps c with
  | true =>
    rw [hkept, if_pos rfl, List.mem_singleton] at hc
    rw [← hc, hkeeps] at hkept
    cases hkept
  | false =>
    rw [hkept, if_neg Bool.false_ne_true] at hc
    exact notMem_percentChar hmark hne c hc

end

theorem slash_notMem_segment (text : String) : '/' ∉ segment text :=
  notMem_encode (by decide) (by decide) (by decide) text.toList

theorem segment_injective : Function.Injective segment := by
  intro text text' h
  have hread := decode?_segment text
  rw [h, decode?_segment] at hread
  exact (Option.some.inj hread).symm

theorem query_notMem_pathText (texts : List String) : '?' ∉ pathText (texts.map segment) := by
  intro hmem
  obtain ⟨seg, hseg, hc⟩ := List.mem_flatMap.mp hmem
  obtain ⟨text, -, rfl⟩ := List.mem_map.mp hseg
  rcases List.mem_cons.mp hc with hc | hc
  · exact absurd hc (by decide)
  · exact notMem_encode (by decide) (by decide) (by decide) text.toList hc

/-! ## Texts of URLs -/

theorem stops_partText (mark : Char) (part : Option (List Char)) :
    Stops mark (partText mark part) := by
  cases part with
  | none => exact .inl rfl
  | some cs => exact .inr ⟨cs, rfl⟩

theorem partText_inj {mark : Char} {part part' : Option (List Char)}
    (h : partText mark part = partText mark part') : part = part' := by
  cases part with
  | none =>
    cases part' with
    | none => rfl
    | some cs => cases h
  | some cs =>
    cases part' with
    | none => cases h
    | some cs' => rw [(List.cons.inj h).2]

/-- What the text of a URL that is sent has in front of its path. -/
def originChars (url : Url) : List Char :=
  (if url.secure then "https://" else "http://").toList ++ url.host
    ++ partText ':' (url.port.map (Nat.toDigits 10))

theorem chars_sent (url : Url) :
    url.sent.chars = originChars url ++ (pathText url.path ++ partText '?' url.query) := by
  have huser : (if url.sent.user.isEmpty then [] else url.sent.user ++ ['@']) = [] := if_pos rfl
  have hfragment : partText '#' url.sent.fragment = [] := rfl
  rw [chars, huser, hfragment, List.append_nil, List.append_nil, originChars, sent, List.append_assoc]

/-- URLs that are made from one base URL by plain texts are sent with the same text only if the
texts are the same, and the queries. -/
theorem text_extend_inj {base : Url} {first first' : String} {texts texts' : List String}
    (hne : first ≠ "") (hne' : first' ≠ "") (h : ∀ t ∈ first :: texts, IsPlain t)
    (h' : ∀ t ∈ first' :: texts', IsPlain t) {query query' : Option (List Char)}
    (htext : (sent { base.extend (first :: texts) with query := query }).text =
      (sent { base.extend (first' :: texts') with query := query' }).text) :
    first :: texts = first' :: texts' ∧ query = query' := by
  have hchars := String.ofList_injective htext
  rw [chars_sent, chars_sent] at hchars
  have hparts : pathText ((first :: texts).map segment) ++ partText '?' query =
      pathText ((first' :: texts').map segment) ++ partText '?' query' := by
    have horigin := List.append_cancel_left hchars
    dsimp only at horigin
    rw [path_extend base hne h, path_extend base hne' h', pathText_append, pathText_append,
      List.append_assoc, List.append_assoc] at horigin
    exact List.append_cancel_left horigin
  obtain ⟨hpath, hquery⟩ := append_inj_of_stops (query_notMem_pathText _)
    (query_notMem_pathText _) (stops_partText '?' query) (stops_partText '?' query') hparts
  have hslash : ∀ texts : List String, ∀ seg ∈ texts.map segment, '/' ∉ seg := by
    intro texts seg hseg
    obtain ⟨text, -, rfl⟩ := List.mem_map.mp hseg
    exact slash_notMem_segment text
  have hsegments := pathText_inj (hslash _) (hslash _) hpath
  exact ⟨List.map_injective_iff.mpr segment_injective hsegments, partText_inj hquery⟩

/-! ## Queries -/

/-- Form data with its plus signs read as spaces. -/
def readPlus (cs : List Char) : List Char :=
  cs.map fun c => if c = '+' then ' ' else c

theorem readPlus_append (cs cs' : List Char) : readPlus (cs ++ cs') = readPlus cs ++ readPlus cs' :=
  List.map_append

theorem readPlus_of_notMem {cs : List Char} (h : '+' ∉ cs) : readPlus cs = cs := by
  have hsame : ∀ c ∈ cs, (if c = '+' then ' ' else c) = c := by
    intro c hc
    have hne : c ≠ '+' := fun he => h (he ▸ hc)
    rw [if_neg hne]
  rw [readPlus, List.map_congr_left hsame, List.map_id']

/-- Form data is encoded as other parts are, once its plus signs are read. -/
theorem readPlus_encodeForm (cs : List Char) :
    readPlus (encodeForm cs) = encode (fun c => c = ' ' || keepsInForm c) cs := by
  induction cs with
  | nil => rfl
  | cons c rest ih =>
    have hform : encodeForm (c :: rest) =
        (if c = ' ' then ['+'] else if keepsInForm c then [c] else percentChar c) ++
          encodeForm rest := List.flatMap_cons
    have hencode : encode (fun c => c = ' ' || keepsInForm c) (c :: rest) =
        (if (c = ' ' || keepsInForm c) then [c] else percentChar c) ++
          encode (fun c => c = ' ' || keepsInForm c) rest := List.flatMap_cons
    rw [hform, hencode, readPlus_append, ih]
    congr 1
    by_cases hspace : c = ' '
    · rw [hspace]
      rfl
    cases hkept : keepsInForm c with
    | true =>
      have hplus : '+' ∉ [c] := by
        rw [List.mem_singleton]
        rintro rfl
        exact absurd hkept (by decide)
      rw [if_neg hspace, if_pos rfl, if_pos (by rw [Bool.or_true]), readPlus_of_notMem hplus]
    | false =>
      have hplus : '+' ∉ percentChar c := notMem_percentChar (by decide) (by decide) c
      have hnot : ¬ (decide (c = ' ') || false) = true := by
        rw [Bool.or_false, decide_eq_true_iff]
        exact hspace
      rw [if_neg hspace, if_neg Bool.false_ne_true, if_neg hnot, readPlus_of_notMem hplus]

theorem encodeForm_injective : Function.Injective encodeForm := by
  intro cs cs' h
  have hread : ∀ cs, decode? (readPlus (encodeForm cs)) = some (String.ofList cs) := by
    intro cs
    rw [readPlus_encodeForm, decode?_encode (by decide)]
  have hsame := hread cs
  rw [h, hread cs', Option.some.injEq] at hsame
  exact String.ofList_injective hsame.symm

theorem formPair_inj {name value value' : String} (h : formPair name value = formPair name value') :
    value = value' := by
  have hvalue := (List.cons.inj (List.append_cancel_left h)).2
  exact String.toList_inj.mp (encodeForm_injective hvalue)

/-- The value of a pair is told by the query that the pair was added to. -/
theorem addPair_inj {url : Url} {name value value' : String}
    (h : (url.addPair name value).query = (url.addPair name value').query) : value = value' := by
  unfold addPair at h
  dsimp only at h
  split at h
  · exact formPair_inj (List.cons.inj (List.append_cancel_left (Option.some.inj h))).2
  · exact formPair_inj (Option.some.inj h)

end GroupRoles.Url
