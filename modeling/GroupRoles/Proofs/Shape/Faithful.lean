import GroupRoles.Proofs.Json.Spelling
import GroupRoles.Proofs.Json.Token
import GroupRoles.Proofs.Shape.OfJson

/-!
# Reading back what is written

A shape is faithful when it reads every value back from the JSON that it writes for the value
(`Shape.Faithful`), and this is kept by everything that shapes are built with. Fields read a value
back from the members that they write for it, and also when members are left out that say nothing
but what a field takes by default (`Json.Abridged`). `Shape.Faithful.readsBack` goes on to the texts
of values.
-/

namespace GroupRoles

open Json

variable {α β : Type}

/-- The shape reads back what it writes for the values of which `holds` is true, wherever lists and
records may still nest `levels` deep. -/
def Shape.Faithful (s : Shape α) (levels : Nat) (holds : α → Prop) : Prop :=
  ∀ a, holds a → ∀ depth, levels ≤ depth → s.read dialect ⟨(s.write a).draft, depth⟩ = .ok a

/-- A faithful shape writes different values differently. -/
theorem Shape.Faithful.eq_of_write {s : Shape α} {levels : Nat} {holds : α → Prop}
    (h : s.Faithful levels holds) {a b : α} (ha : holds a) (hb : holds b)
    (hwrite : s.write a = s.write b) : a = b := by
  have hread := h a ha levels (Nat.le_refl levels)
  rw [hwrite, h b hb levels (Nat.le_refl levels)] at hread
  exact (Except.ok.inj hread).symm

/-! ## Fields -/

/-- Members of which some may have been left out that are among the `defaults`. -/
structure Json.Abridged (defaults members kept : List (String × Json)) : Prop where
  sublist : kept.Sublist members
  mem_or : ∀ m ∈ members, m ∈ kept ∨ m ∈ defaults

theorem Json.Abridged.refl (defaults members : List (String × Json)) :
    Abridged defaults members members where
  sublist := .refl _
  mem_or _ h := .inl h

section

variable {defaults defaults' members members' kept : List (String × Json)}

theorem Json.Abridged.eq_nil (h : Abridged defaults [] kept) : kept = [] :=
  List.sublist_nil.mp h.sublist

/-- One member is there or left out. -/
theorem Json.Abridged.of_singleton {m : String × Json} (h : Abridged defaults [m] kept) :
    kept = [m] ∨ kept = [] ∧ m ∈ defaults := by
  rcases List.sublist_singleton.mp h.sublist with hnil | hone
  · have hleft := h.mem_or m List.mem_cons_self
    rw [hnil] at hleft
    exact .inr ⟨hnil, hleft.resolve_left List.not_mem_nil⟩
  · exact .inl hone

/-- Members under different names are left out apart from each other. -/
theorem Json.Abridged.exists_append {names names' : List String}
    (hnames : ∀ name ∈ names, name ∉ names') (hmembers : ∀ m ∈ members, m.1 ∈ names)
    (hmembers' : ∀ m ∈ members', m.1 ∈ names') (hdefaults : ∀ m ∈ defaults, m.1 ∈ names)
    (hdefaults' : ∀ m ∈ defaults', m.1 ∈ names')
    (h : Abridged (defaults ++ defaults') (members ++ members') kept) :
    ∃ ms ms', kept = ms ++ ms' ∧ Abridged defaults members ms ∧
      Abridged defaults' members' ms' := by
  obtain ⟨ms, ms', rfl, hms, hms'⟩ := List.sublist_append_iff.mp h.sublist
  refine ⟨ms, ms', rfl, ⟨hms, fun m hm => ?_⟩, ⟨hms', fun m hm => ?_⟩⟩
  · have hnot : m.1 ∉ names' := hnames m.1 (hmembers m hm)
    rcases h.mem_or m (List.mem_append_left _ hm) with hkept | hdefault
    · exact .inl ((List.mem_append.mp hkept).resolve_right fun hm' =>
        hnot (hmembers' m (hms'.subset hm')))
    · exact .inr ((List.mem_append.mp hdefault).resolve_right fun hm' => hnot (hdefaults' m hm'))
  · have hnot : m.1 ∉ names := fun hname => hnames m.1 hname (hmembers' m hm)
    rcases h.mem_or m (List.mem_append_right _ hm) with hkept | hdefault
    · exact .inl ((List.mem_append.mp hkept).resolve_left fun hm' =>
        hnot (hmembers m (hms.subset hm')))
    · exact .inr ((List.mem_append.mp hdefault).resolve_left fun hm' => hnot (hdefaults m hm'))

end

namespace Fields

/-- The nodes of members that are written. -/
def written (depth : Nat) (members : List (String × Json)) : List (String × Node) :=
  Node.ofMembers depth (drafts members)

theorem written_append (depth : Nat) (ms ms' : List (String × Json)) :
    written depth (ms ++ ms') = written depth ms ++ written depth ms' := by
  simp only [written, drafts, Node.ofMembers, List.map_append]

theorem exists_of_mem_written {depth : Nat} {members : List (String × Json)} {e : String × Node}
    (h : e ∈ written depth members) : ∃ m ∈ members, e.1 = m.1 := by
  obtain ⟨d, hd, rfl⟩ := List.mem_map.mp h
  obtain ⟨m, hm, rfl⟩ := List.mem_map.mp hd
  exact ⟨m, hm, rfl⟩

theorem pass_written (depth : Nat) (members : List (String × Json)) :
    ∀ e ∈ written depth members, dialect.pass e.2 = .ok () := by
  refine Node.pass_ofMembers depth fun d hd => ?_
  obtain ⟨m, -, rfl⟩ := List.mem_map.mp hd
  exact sound_draft m.2

/-- No name is in both lists. -/
def apart (names names' : List String) : Bool :=
  names.all fun name => !names'.contains name

theorem not_mem_of_apart {names names' : List String} (h : apart names names' = true) {name : String}
    (hname : name ∈ names) : name ∉ names' := by
  have hnot := List.all_eq_true.mp h name hname
  rwa [Bool.not_eq_true', List.contains_eq_mem, decide_eq_false_iff_not] at hnot

/-- The fields have the `names`, and read back a value from its members, with or without those among
the `defaults`. -/
structure Faithful (f : Fields β) (names : List String) (defaults : List (String × Json))
    (levels : Nat) (holds : β → Prop) : Prop where
  ignores : ∀ key, key ∉ names → f.Ignores key
  named : ∀ b, ∀ m ∈ f.entries b, m.1 ∈ names
  named_default : ∀ m ∈ defaults, m.1 ∈ names
  reads : ∀ b, holds b → ∀ members, Abridged defaults (f.entries b) members → ∀ depth,
    levels ≤ depth → f.Reads dialect (written depth members) b

section

variable {f : Fields α} {g : Fields β} {names names' : List String}
  {defaults defaults' : List (String × Json)} {levels levels' : Nat} {holds : α → Prop}
  {holds' : β → Prop}

theorem Faithful.weaken (h : f.Faithful names defaults levels holds)
    (hdefaults : defaults' ⊆ defaults) (hlevels : levels ≤ levels') {holds' : α → Prop}
    (hholds : ∀ a, holds' a → holds a) : f.Faithful names defaults' levels' holds' where
  ignores := h.ignores
  named := h.named
  named_default m hm := h.named_default m (hdefaults hm)
  reads a ha members habridged depth hdepth :=
    h.reads a (hholds a ha) members
      ⟨habridged.sublist, fun m hm => (habridged.mem_or m hm).imp_right fun hm => hdefaults hm⟩ depth
      (Nat.le_trans hlevels hdepth)

/-- A field reads back the member that it writes, or takes its default where that is left out. -/
theorem faithful_field {s : Shape α} (hs : s.Faithful levels holds) (name : String)
    {default : Option α} (aliases : List String) {hidden : α → Bool}
    (hdefault : ∀ a ∈ default, holds a) (hhidden : ∀ a, hidden a = true → default = some a) :
    (field name s default aliases hidden).Faithful (name :: aliases)
      (default.map fun a => (name, s.write a)).toList levels holds where
  ignores key hkey := by
    refine ignores_field ?_
    obtain ⟨hname, haliases⟩ := not_or.mp (mt List.mem_cons.mpr hkey)
    rw [isNamed, decide_eq_false hname, Bool.false_or]
    simpa using haliases
  named a m hm := by
    change m ∈ (if hidden a then [] else [(name, s.write a)]) at hm
    split at hm
    · cases hm
    · rw [List.mem_singleton.mp hm]
      exact List.mem_cons_self
  named_default m hm := by
    obtain ⟨a, -, rfl⟩ := Option.map_eq_some_iff.mp (Option.mem_toList.mp hm)
    exact List.mem_cons_self
  reads a ha members habridged depth hdepth := by
    have hpass := pass_written depth members
    -- a member is left out where it is hidden, and where it writes the default
    have hnone : members = [] → default = some a → (field name s default aliases hidden).Reads
        dialect (written depth members) a := by
      rintro rfl rfl
      exact reads_default hpass rfl
    cases hhide : hidden a with
    | true =>
      have hentries : (field name s default aliases hidden).entries a = [] := if_pos hhide
      rw [hentries] at habridged
      exact hnone habridged.eq_nil (hhidden a hhide)
    | false =>
      have hentries : (field name s default aliases hidden).entries a = [(name, s.write a)] :=
        if_neg (by simp [hhide])
      rw [hentries] at habridged
      rcases habridged.of_singleton with hone | ⟨hnil, hleft⟩
      · have hfilter : (written depth members).filter (fun e => isNamed name aliases e.1) =
            [(name, ⟨(s.write a).draft, depth⟩)] := by
          rw [hone]
          refine List.filter_cons_of_pos ?_
          exact Bool.or_eq_true_iff.mpr (.inl (decide_eq_true rfl))
        exact reads_field hpass hfilter (hs a ha depth hdepth)
      · obtain ⟨b, hb, hwrite⟩ := Option.map_eq_some_iff.mp (Option.mem_toList.mp hleft)
        have hba : b = a := hs.eq_of_write (hdefault b hb) ha (congrArg Prod.snd hwrite)
        exact hnone hnil (hba ▸ hb)

/-- Fields of different names read back what both write. -/
theorem Faithful.both (hf : f.Faithful names defaults levels holds)
    (hg : g.Faithful names' defaults' levels' holds') (hnames : apart names names' = true) :
    (f.both g).Faithful (names ++ names') (defaults ++ defaults') (max levels levels')
      fun p => holds p.1 ∧ holds' p.2 where
  ignores key hkey := by
    rw [List.mem_append, not_or] at hkey
    exact ignores_both (hf.ignores key hkey.1) (hg.ignores key hkey.2)
  named p m hm := List.mem_append.mpr
    ((List.mem_append.mp hm).imp (hf.named p.1 m) (hg.named p.2 m))
  named_default m hm := List.mem_append.mpr
    ((List.mem_append.mp hm).imp (hf.named_default m) (hg.named_default m))
  reads p hp members habridged depth hdepth := by
    obtain ⟨a, b⟩ := p
    have hapart : ∀ name ∈ names, name ∉ names' := fun _ => not_mem_of_apart hnames
    obtain ⟨ms, ms', rfl, hms, hms'⟩ := habridged.exists_append hapart (hf.named a) (hg.named b)
      hf.named_default hg.named_default
    -- names tell the members of the two apart
    have hignores : ∀ e ∈ written depth ms, g.Ignores e.1 := by
      intro e he
      obtain ⟨m, hm, hkey⟩ := exists_of_mem_written he
      rw [hkey]
      exact hg.ignores m.1 (hapart m.1 (hf.named a m (hms.sublist.subset hm)))
    have hignores' : ∀ e ∈ written depth ms', f.Ignores e.1 := by
      intro e he
      obtain ⟨m, hm, hkey⟩ := exists_of_mem_written he
      rw [hkey]
      exact hf.ignores m.1 fun h => hapart m.1 h (hg.named b m (hms'.sublist.subset hm))
    have hreads := hf.reads a hp.1 ms hms depth (by omega)
    have hreads' := hg.reads b hp.2 ms' hms' depth (by omega)
    rw [written_append]
    refine reads_both (fun e he => ?_) ?_ (hreads.append_left hignores' (pass_written depth ms'))
      (hreads'.append_right hignores (pass_written depth ms))
    · exact (List.mem_append.mp he).symm.imp (hignores' e) (hignores e)
    · rw [← written_append]
      exact pass_written depth _

theorem Faithful.build (hf : f.Faithful names defaults levels holds) {make : α → β}
    {parts : β → α} (hmake : ∀ b, make (parts b) = b) :
    (f.build make parts).Faithful names defaults levels fun b => holds (parts b) where
  ignores key hkey := by
    intro ν d n slots
    exact hf.ignores key hkey d n slots
  named b := hf.named (parts b)
  named_default := hf.named_default
  reads b hb members habridged depth hdepth := by
    have hreads := hf.reads (parts b) hb members ⟨habridged.sublist, habridged.mem_or⟩ depth hdepth
    have hbuild : (f.build make parts).Reads dialect (written depth members) (make (parts b)) :=
      reads_build (pass_written depth members) hreads
    rwa [hmake] at hbuild

end

end Fields

/-! ## Shapes -/

namespace Shape

variable {levels : Nat} {holds : α → Prop}

theorem Faithful.weaken {s : Shape α} (h : s.Faithful levels holds) {levels' : Nat}
    (hlevels : levels ≤ levels') {holds' : α → Prop} (hholds : ∀ a, holds' a → holds a) :
    s.Faithful levels' holds' :=
  fun a ha depth hdepth => h a (hholds a ha) depth (Nat.le_trans hlevels hdepth)

theorem faithful_text : text.Faithful 0 fun _ => True :=
  fun _ _ _ _ => rfl

theorem faithful_flag : flag.Faithful 0 fun _ => True :=
  fun _ _ _ _ => rfl

/-- Numbers are read back as long as they have 64 bits. -/
theorem faithful_count : count.Faithful 0 fun n => n ≤ Numeral.maxSignificand := by
  intro n hn depth _
  change Node.count ⟨.number ⟨false, decimalDigits n, none, none⟩, depth⟩ = .ok n
  simp only [Node.count, Numeral.value_decimalDigits hn]
  rfl

theorem faithful_choice {name : α → String} {all : List α}
    (hall : ∀ a, all.find? (name · = name a) = some a) :
    (choice name all).Faithful 0 fun _ => True := by
  intro a _ depth _
  change (select name all (name a)).mapError Fault.loose = .ok a
  rw [select, hall]
  rfl

/-- A value that may be absent is read back unless it is written as one that is. -/
theorem Faithful.option {s : Shape α} (h : s.Faithful levels holds)
    (hnull : ∀ a, s.write a ≠ .null) : (option s).Faithful levels fun o => ∀ a ∈ o, holds a := by
  intro o ho depth hdepth
  cases o with
  | none => rfl
  | some a =>
    have hread := h a (ho a rfl) depth hdepth
    have hsome : Node.option ⟨(s.write a).draft, depth⟩ = .ok (some ⟨(s.write a).draft, depth⟩) := by
      have hne := hnull a
      cases hwrite : s.write a with
      | null => exact absurd hwrite hne
      | flag _ | number _ | text _ | list _ | record _ => rfl
    change (Node.option ⟨(s.write a).draft, depth⟩ >>= _) = _
    rw [hsome]
    change (some <$> s.read dialect ⟨(s.write a).draft, depth⟩) = _
    rw [hread]
    rfl

theorem Faithful.list {s : Shape α} (h : s.Faithful levels holds) :
    (list s).Faithful (levels + 1) fun as => ∀ a ∈ as, holds a := by
  intro as has depth hdepth
  obtain ⟨depth, rfl⟩ := Nat.exists_eq_add_of_le' (Nat.le_trans (Nat.le_add_left 1 levels) hdepth)
  have hdraft : ((Shape.list s).write as).draft =
      .list (as.map fun a => (s.write a).draft) := by
    change Draft.list (draftItems (as.map s.write)) = _
    rw [draftItems_eq_map, List.map_map]
    rfl
  rw [hdraft]
  refine read_list ?_
  clear hdraft
  induction as with
  | nil => exact .nil
  | cons a rest ih =>
    refine .cons (h a (has a List.mem_cons_self) depth (by omega)) ?_
    exact ih fun a ha => has a (List.mem_cons_of_mem _ ha)

theorem Faithful.checked {s : Shape β} {holds : β → Prop} (h : s.Faithful levels holds)
    {accept : β → Except String α} {give : α → β} (haccept : ∀ a, accept (give a) = .ok a) :
    (checked s accept give).Faithful levels fun a => holds (give a) := by
  intro a ha depth hdepth
  change (s.read dialect ⟨(s.write (give a)).draft, depth⟩ >>= fun b =>
    (accept b).mapError fun text => Fault.loose (.rejected text)) = _
  rw [h (give a) ha depth hdepth]
  change (accept (give a)).mapError _ = _
  rw [haccept]
  rfl

/-- A record is read back from its members, of which some that say a default may be left out. -/
theorem read_abridged {f : Fields β} {names : List String}
    {defaults members kept : List (String × Json)} {holds : β → Prop}
    (h : f.Faithful names defaults levels holds) {title : String} {b : β} (hb : holds b)
    (hwrite : (record title f).write b = .record members)
    (hkept : Abridged defaults members kept) {depth : Nat} (hdepth : levels + 1 ≤ depth) :
    (record title f).read dialect ⟨(Json.record kept).draft, depth⟩ = .ok b := by
  obtain ⟨depth, rfl⟩ := Nat.exists_eq_add_of_le' (Nat.le_trans (Nat.le_add_left 1 levels) hdepth)
  rw [← Json.record.inj hwrite] at hkept
  rw [draft_record]
  exact read_record title (h.reads b hb kept hkept depth (by omega))

theorem faithful_record {f : Fields β} {names : List String} {defaults : List (String × Json)}
    {holds : β → Prop} (h : f.Faithful names defaults levels holds) (title : String) :
    (record title f).Faithful (levels + 1) holds :=
  fun b hb _ hdepth => read_abridged h hb rfl (.refl defaults (f.entries b)) hdepth

/-- A field that has to be there. -/
theorem faithful_needed {s : Shape α} (hs : s.Faithful levels holds) (name : String) :
    (Fields.field name s).Faithful [name] [] levels holds :=
  Fields.faithful_field hs name [] (fun _ h => absurd h (Option.not_mem_none _))
    fun _ h => absurd h Bool.false_ne_true

/-- A field that takes a value where there is none. -/
theorem faithful_default {s : Shape α} (hs : s.Faithful levels holds) (name : String)
    (aliases : List String) {a : α} (ha : holds a) :
    (Fields.field name s (some a) aliases).Faithful (name :: aliases) [(name, s.write a)] levels
      holds := by
  have hdefault : ∀ b ∈ some a, holds b := by
    intro b hb
    cases hb
    exact ha
  exact Fields.faithful_field hs name aliases hdefault fun _ h => absurd h Bool.false_ne_true

/-- A field that may be left out. -/
theorem faithful_optional {s : Shape α} (hs : s.Faithful levels holds)
    (hnull : ∀ a, s.write a ≠ .null) (name : String) :
    (Fields.optional name s).Faithful [name] [] levels fun o => ∀ a ∈ o, holds a := by
  have hdefault : ∀ o ∈ some (none : Option α), ∀ a ∈ o, holds a := by
    intro o ho a ha
    cases ho
    exact absurd ha (Option.not_mem_none a)
  have hhidden : ∀ o : Option α, o.isNone = true → some none = some o := by
    intro o ho
    rw [Option.isNone_iff_eq_none.mp ho]
  exact (Fields.faithful_field (hs.option hnull) name [] hdefault hhidden).weaken
    (List.nil_subset _) (Nat.le_refl _) fun _ h => h

/-! ## Texts -/

/-- The value is read back from its texts, also where a line ends behind the one over several
lines. -/
structure ReadsBack (s : Shape α) (v : Json) (a : α) : Prop where
  compact : s.ofJsonText v.compactText = .ok a
  pretty : s.ofJsonText v.prettyText = .ok a
  line : s.ofJsonText (v.prettyText ++ "\n") = .ok a

/-- A value that is read from the draft of JSON is read back from its texts. -/
theorem readsBack_of_read {s : Shape α} {v : Json} {a : α}
    (h : s.read dialect ⟨v.draft, maxDepth⟩ = .ok a) : s.ReadsBack v a := by
  have hsheet : s.ofSheet ⟨v.draft, true⟩ = .ok a := by
    change (s.read dialect ⟨v.draft, maxDepth⟩ >>= _) = _
    rw [h]
    rfl
  have hspace : ∀ c ∈ "\n".toList, Draft.isSpace c = true := by
    intro c hc
    have hline : c = '\n' := by simpa using hc
    rw [hline]
    rfl
  refine ⟨?_, ?_, ?_⟩
  · rw [ofJsonText, ofText_compactText, hsheet]
  · rw [ofJsonText, ofText_prettyText, hsheet]
  · rw [ofJsonText, ofText_prettyText_append v hspace, hsheet]

theorem Faithful.readsBack {s : Shape α} (h : s.Faithful levels holds) (hlevels : levels ≤ maxDepth)
    {a : α} (ha : holds a) : s.ReadsBack (s.write a) a :=
  readsBack_of_read (h a ha maxDepth hlevels)

end Shape

end GroupRoles
