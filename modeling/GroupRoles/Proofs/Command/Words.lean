import GroupRoles.Command.Args

/-!
# What arguments ask for

The word of a command stands behind the options of the program, and its own options follow it:
`Args.Names` is this order. Whatever is read as a command has a word (`exists_names_of_read`), and
only one (`Names.unique`), so that the word tells what is read (`command_of_read`). An option that
stands anywhere among those of a command is given, because no other option takes it for its value
(`has_of_options`).
-/

namespace GroupRoles.Args

/-! ## One option -/

theorem Switch.long_injective {o o' : Switch} (h : o.long.toList = o'.long.toList) : o = o' := by
  revert h
  cases o <;> cases o' <;> decide

/-- No name of an option holds an equals sign. -/
theorem Switch.sign_notMem_long (o : Switch) : '=' ∉ o.long.toList := by
  cases o <;> decide

/-- The argument that is an option by its long name. -/
def Switch.argument (o : Switch) : String :=
  "--" ++ o.long

theorem Switch.toList_argument (o : Switch) : o.argument.toList = '-' :: '-' :: o.long.toList :=
  String.toList_append

theorem eq_of_give {given given' : Given} {o : Switch} {value : String}
    (h : give given o value = some given') : given' = (o, value) :: given := by
  unfold give at h
  split at h
  · cases h
  · exact (Option.some.inj h).symm

theorem eq_cons_of_nextValue {args rest : List String} {value : String}
    (h : nextValue args = some (value, rest)) : args = value :: rest := by
  unfold nextValue at h
  split at h
  · split at h
    · cases h
    · cases h
      rfl
  · cases h

/-- No option takes another one for its value. -/
theorem nextValue_argument (o : Switch) (rest : List String) :
    nextValue (o.argument :: rest) = none := by
  have hdash : (o.argument.startsWith "-" && o.argument ≠ "-") = true := by
    cases o <;> decide +kernel
  simp only [nextValue, hdash, if_true]

/-- A long option without its dashes and the arguments behind it, and what it leaves of them: the
value stands behind an equals sign, or is the next argument. -/
inductive Taken (allowed : List Switch) (given : Given) :
    List Char → List String → Given → List String → Prop where
  | joined {o : Switch} (value : List Char) (rest : List String) (ho : o ∈ allowed)
    (hvalue : o.hasValue = true) :
    Taken allowed given (o.long.toList ++ '=' :: value) rest
      ((o, String.ofList value) :: given) rest
  | flag {o : Switch} (rest : List String) (ho : o ∈ allowed) (hvalue : o.hasValue = false) :
    Taken allowed given o.long.toList rest ((o, "") :: given) rest
  | spaced {o : Switch} {value : String} {args rest : List String} (ho : o ∈ allowed)
    (hvalue : o.hasValue = true) (hnext : nextValue args = some (value, rest)) :
    Taken allowed given o.long.toList args ((o, value) :: given) rest

theorem taken_of_long {allowed : List Switch} {given given' : Given} {cs : List Char}
    {rest rest' : List String} (h : long allowed given cs rest = some (given', rest')) :
    Taken allowed given cs rest given' rest' := by
  unfold long at h
  obtain ⟨o, hfind, h⟩ := Option.bind_eq_some_iff.mp h
  have ho := List.mem_of_find?_eq_some hfind
  have hname : o.long.toList = cs.takeWhile (· ≠ '=') := by simpa using List.find?_some hfind
  have hcs := List.takeWhile_append_dropWhile (p := fun c => decide (c ≠ '=')) (l := cs)
  rw [← hname] at hcs
  split at h
  case h_1 sign value hdrop hvalue =>
    obtain ⟨_, hgive, h⟩ := Option.bind_eq_some_iff.mp h
    cases h
    have hsign := List.head?_dropWhile_not (fun c => decide (c ≠ '=')) cs
    rw [hdrop] at hcs hsign
    obtain rfl : sign = '=' := by simpa using hsign
    rw [← hcs, eq_of_give hgive]
    exact .joined value rest ho hvalue
  case h_2 => cases h
  case h_3 hdrop hvalue =>
    obtain ⟨_, hgive, h⟩ := Option.bind_eq_some_iff.mp h
    cases h
    rw [hdrop, List.append_nil] at hcs
    rw [← hcs, eq_of_give hgive]
    exact .flag rest ho hvalue
  case h_4 hdrop hvalue =>
    obtain ⟨⟨value, _⟩, hnext, h⟩ := Option.bind_eq_some_iff.mp h
    obtain ⟨_, hgive, h⟩ := Option.bind_eq_some_iff.mp h
    cases h
    rw [hdrop, List.append_nil] at hcs
    rw [← hcs, eq_of_give hgive]
    exact .spaced ho hvalue hnext

/-! ## The options of a command -/

/-- Arguments behind an option that takes a value among them, or none. -/
def Passes (rest rest' : List String) : Prop :=
  rest' = rest ∨ ∃ value, nextValue rest = some (value, rest')

theorem mem_of_passes {o : Switch} {rest rest' : List String} (h : Passes rest rest')
    (hmem : o.argument ∈ rest) : o.argument ∈ rest' := by
  rcases h with rfl | ⟨value, hnext⟩
  · exact hmem
  obtain rfl := eq_cons_of_nextValue hnext
  rcases List.mem_cons.mp hmem with rfl | hbehind
  · rw [nextValue_argument] at hnext
    cases hnext
  · exact hbehind

/-- A long option notes itself. -/
theorem Taken.passes {allowed : List Switch} {given given' : Given} {cs : List Char}
    {rest rest' : List String} (h : Taken allowed given cs rest given' rest') :
    ∃ o value, (∀ o' : Switch, cs = o'.long.toList → o' = o) ∧ given' = (o, value) :: given ∧
      Passes rest rest' := by
  cases h with
  | @joined o value _ ho hvalue =>
    refine ⟨o, _, fun o' hcs => ?_, rfl, .inl rfl⟩
    have hsign : '=' ∈ o'.long.toList := hcs ▸ List.mem_append_right _ List.mem_cons_self
    exact absurd hsign o'.sign_notMem_long
  | @flag o _ ho hvalue =>
    exact ⟨o, _, fun o' hcs => (Switch.long_injective hcs).symm, rfl, .inl rfl⟩
  | @spaced o value _ _ ho hvalue hnext =>
    exact ⟨o, value, fun o' hcs => (Switch.long_injective hcs).symm, rfl, .inr ⟨value, hnext⟩⟩

/-- The short option notes the settings file. -/
theorem of_shortConfig {given given' : Given} {cs : List Char} {rest rest' : List String}
    (h : shortConfig given cs rest = some (given', rest')) :
    ∃ value, given' = (.config, value) :: given ∧ Passes rest rest' := by
  unfold shortConfig at h
  split at h
  · obtain ⟨⟨value, behind⟩, hnext, h⟩ := Option.bind_eq_some_iff.mp h
    obtain ⟨_, hgive, h⟩ := Option.bind_eq_some_iff.mp h
    cases h
    exact ⟨value, eq_of_give hgive, .inr ⟨value, hnext⟩⟩
  · obtain ⟨_, hgive, h⟩ := Option.map_eq_some_iff.mp h
    cases h
    exact ⟨_, eq_of_give hgive, .inl rfl⟩
  · obtain ⟨_, hgive, h⟩ := Option.map_eq_some_iff.mp h
    cases h
    exact ⟨_, eq_of_give hgive, .inl rfl⟩

@[simp] theorem has_cons (given : Given) (o o' : Switch) (value : String) :
    has ((o', value) :: given) o = (o == o' || has given o) := by
  simp only [has, List.lookup_cons]
  cases o == o' <;> rfl

/-- Options end behind two dashes or with the question for help, or go on behind an option and its
value. -/
theorem options_cons {allowed : List Switch} {fuel : Nat} {given given' : Given} {arg : String}
    {rest : List String} (h : options allowed (fuel + 1) given (arg :: rest) = some given') :
    (arg = "--" ∧ rest = [] ∧ given' = given) ∨ given' = (.help, "") :: given ∨
      ∃ o value rest', (∀ o' : Switch, arg = o'.argument → o' = o) ∧ Passes rest rest' ∧
        options allowed fuel ((o, value) :: given) rest' = some given' := by
  unfold options at h
  split at h
  case h_1 hdashes =>
    split at h
    case isTrue hempty =>
      cases h
      exact .inl ⟨String.toList_inj.mp hdashes, List.isEmpty_iff.mp hempty, rfl⟩
    case isFalse => cases h
  case h_2 cs _ hcs =>
    split at h
    case isTrue =>
      cases h
      exact .inr (.inl rfl)
    case isFalse =>
      obtain ⟨⟨_, rest'⟩, hlong, h⟩ := Option.bind_eq_some_iff.mp h
      obtain ⟨o, value, hname, rfl, hpasses⟩ := (taken_of_long hlong).passes
      refine .inr (.inr ⟨o, value, rest', fun o' ho' => hname o' ?_, hpasses, h⟩)
      rw [ho', Switch.toList_argument] at hcs
      exact (List.cons.inj (List.cons.inj hcs).2).2.symm
  case h_3 =>
    cases h
    exact .inr (.inl rfl)
  case h_4 cs _ hcs =>
    obtain ⟨⟨_, rest'⟩, hshort, h⟩ := Option.bind_eq_some_iff.mp h
    obtain ⟨value, rfl, hpasses⟩ := of_shortConfig hshort
    refine .inr (.inr ⟨.config, value, rest', fun o' ho' => ?_, hpasses, h⟩)
    rw [ho', Switch.toList_argument] at hcs
    cases (List.cons.inj (List.cons.inj hcs).2).1
  case h_5 => cases h

/-- An option that was given before the options are read, or that stands among them, is given,
unless help is asked for. -/
theorem has_of_options {allowed : List Switch} {o : Switch} {fuel : Nat} {given given' : Given}
    {args : List String} (h : options allowed fuel given args = some given')
    (hhelp : has given' .help = false) (ho : has given o = true ∨ o.argument ∈ args) :
    has given' o = true := by
  induction fuel generalizing given args with
  | zero => cases h
  | succ fuel ih =>
    cases args with
    | nil =>
      cases h
      exact ho.resolve_right List.not_mem_nil
    | cons arg rest =>
      rcases options_cons h with ⟨rfl, rfl, rfl⟩ | rfl | ⟨o', value, rest', hfirst, hpasses, h⟩
      · -- two dashes by themselves are the name of no option
        refine ho.resolve_right fun hmem => ?_
        have harg := congrArg String.toList (List.mem_singleton.mp hmem)
        revert harg
        cases o <;> decide +kernel
      · cases hhelp
      · refine ih h ?_
        rw [has_cons]
        rcases ho with ho | hmem
        · exact .inl (by rw [ho, Bool.or_true])
        rcases List.mem_cons.mp hmem with harg | hmem
        · rw [hfirst o harg.symm, beq_self_eq_true]
          exact .inl rfl
        · exact .inr (mem_of_passes hpasses hmem)

/-- A command is read with its options where help is not asked for. -/
theorem asked_eq_command_iff {given : Given} {c c' : Command} :
    asked given c = .command c' ↔ has given .help = false ∧ c = c' := by
  unfold asked
  cases has given .help with
  | true => exact iff_of_false (fun h => by cases h) (fun h => by cases h.1)
  | false =>
    exact ⟨fun h => ⟨rfl, Invocation.command.inj h⟩, fun h => congrArg Invocation.command h.2⟩

/-! ## The word of a command -/

/-- Arguments with the word of a command behind the options of the program, and `rest` behind it. -/
inductive Names (word : String) (rest : List String) : List String → Prop where
  | here : Names word rest (word :: rest)
  | spaced {args : List String} (value : String) (h : Names word rest args) :
    Names word rest ("--log-level" :: value :: args)
  | joined {args : List String} (value : String) (h : Names word rest args) :
    Names word rest (("--log-level=" ++ value) :: args)

theorem toList_joined (value : String) : ("--log-level=" ++ value).toList =
    '-' :: '-' :: ("log-level".toList ++ '=' :: value.toList) := by
  rw [String.toList_append]
  rfl

theorem joined_ne_spaced (value : String) : "--log-level=" ++ value ≠ "--log-level" := by
  intro h
  have hlist := congrArg String.toList h
  rw [toList_joined] at hlist
  have hsign := (List.cons.inj (List.cons.inj hlist).2).2
  exact List.cons_ne_nil _ _ (List.append_right_eq_self.mp hsign)

/-- Reading goes on behind an option of the program. -/
theorem long_of_read {fuel : Nat} {given : Given} {arg : String} {cs : List Char}
    {rest : List String} {i : Invocation} (harg : arg.toList = '-' :: '-' :: cs)
    (hcs : cs ≠ "version".toList) (hhelp : cs ≠ Switch.help.long.toList)
    (h : read (fuel + 1) given (arg :: rest) = some i) :
    ∃ given' rest', long [.logLevel] given cs rest = some (given', rest') ∧
      read fuel given' rest' = some i := by
  simp only [read, harg, if_neg hcs, if_neg hhelp] at h
  obtain ⟨⟨given', rest'⟩, hlong, h⟩ := Option.bind_eq_some_iff.mp h
  exact ⟨given', rest', hlong, h⟩

/-- The option of the program has its value behind an equals sign, or as the next argument. -/
theorem of_long_logLevel {given given' : Given} {cs : List Char} {rest rest' : List String}
    (h : long [.logLevel] given cs rest = some (given', rest')) :
    (∃ value, cs = "log-level".toList ++ '=' :: value ∧ rest' = rest) ∨
      (cs = "log-level".toList ∧ ∃ value, rest = value :: rest') := by
  cases taken_of_long h with
  | joined value _ ho hvalue =>
    cases List.mem_singleton.mp ho
    exact .inl ⟨value, rfl, rfl⟩
  | flag _ ho hvalue =>
    cases List.mem_singleton.mp ho
    cases hvalue
  | spaced ho hvalue hnext =>
    cases List.mem_singleton.mp ho
    exact .inr ⟨rfl, _, eq_cons_of_nextValue hnext⟩

/-- Whatever is read as a command has a word that asks for it. -/
theorem exists_names_of_read {fuel : Nat} {given : Given} {args : List String} {c : Command}
    (h : read fuel given args = some (.command c)) :
    ∃ word rest, Names word rest args ∧ command word rest = some (.command c) := by
  induction fuel generalizing given args with
  | zero => cases h
  | succ fuel ih =>
    cases args with
    | nil => cases h
    | cons arg rest =>
      have hread := h
      unfold read at h
      split at h
      case h_1 => cases h
      case h_2 => cases h
      case h_3 cs hlist =>
        split at h
        case isTrue => cases h
        case isFalse hcs =>
          split at h
          case isTrue => cases h
          case isFalse hhelp =>
          obtain ⟨given', rest', hlong, hread⟩ := long_of_read hlist hcs hhelp hread
          obtain ⟨word, behind, hnames, hcommand⟩ := ih hread
          rcases of_long_logLevel hlong with ⟨value, rfl, rfl⟩ | ⟨rfl, value, rfl⟩
          · have harg : arg = "--log-level=" ++ String.ofList value := by
              rw [← String.toList_inj, toList_joined, hlist]
              simp only [String.toList_ofList]
            exact ⟨word, behind, harg ▸ hnames.joined _, hcommand⟩
          · have harg : arg = "--log-level" := String.toList_inj.mp hlist
            exact ⟨word, behind, harg ▸ hnames.spaced value, hcommand⟩
      case h_4 => exact ⟨arg, rest, .here, h⟩

/-- The words of commands start with no dash. -/
theorem head?_of_command {word : String} {rest : List String} {i : Invocation}
    (h : command word rest = some i) : word.toList.head? ≠ some '-' := by
  by_cases happly : word = "apply"
  · rw [happly]
    decide
  by_cases hplan : word = "plan"
  · rw [hplan]
    decide
  by_cases hvalidate : word = "validate"
  · rw [hvalidate]
    decide
  by_cases hhelp : word = "help"
  · rw [hhelp]
    decide
  · simp only [command, if_neg happly, if_neg hplan, if_neg hvalidate, if_neg hhelp] at h
    cases h

/-- Arguments have at most one word that starts with no dash. -/
theorem Names.unique {word word' : String} {rest rest' args : List String}
    (h : Names word rest args) (h' : Names word' rest' args)
    (hword : word.toList.head? ≠ some '-') (hword' : word'.toList.head? ≠ some '-') :
    word = word' ∧ rest = rest' := by
  have hjoined : ∀ value : String, ("--log-level=" ++ value).toList.head? = some '-' :=
    fun value => by rw [toList_joined]; rfl
  induction h with
  | here =>
    generalize hlist : word :: rest = list at h'
    cases h' with
    | here => exact List.cons.inj hlist
    | spaced value h' =>
      rw [(List.cons.inj hlist).1] at hword
      exact absurd rfl hword
    | joined value h' =>
      rw [(List.cons.inj hlist).1] at hword
      exact absurd (hjoined value) hword
  | @spaced args value h ih =>
    generalize hlist : "--log-level" :: value :: args = list at h'
    cases h' with
    | here =>
      rw [← (List.cons.inj hlist).1] at hword'
      exact absurd rfl hword'
    | spaced value' h' =>
      obtain ⟨-, rfl⟩ := List.cons.inj (List.cons.inj hlist).2
      exact ih h'
    | joined value' h' => exact absurd (List.cons.inj hlist).1.symm (joined_ne_spaced value')
  | @joined args value h ih =>
    generalize hlist : ("--log-level=" ++ value) :: args = list at h'
    cases h' with
    | here =>
      rw [← (List.cons.inj hlist).1] at hword'
      exact absurd (hjoined value) hword'
    | spaced value' h' => exact absurd (List.cons.inj hlist).1 (joined_ne_spaced value)
    | joined value' h' =>
      obtain ⟨-, rfl⟩ := List.cons.inj hlist
      exact ih h'

/-- What a word asks for does not hang on the options before it. -/
theorem command_of_read {word : String} {rest args : List String} (hnames : Names word rest args)
    (hword : word.toList.head? ≠ some '-') {fuel : Nat} {given : Given} {c : Command}
    (h : read fuel given args = some (.command c)) : command word rest = some (.command c) := by
  obtain ⟨word', rest', hnames', hcommand⟩ := exists_names_of_read h
  obtain ⟨rfl, rfl⟩ := hnames.unique hnames' hword (head?_of_command hcommand)
  exact hcommand

end GroupRoles.Args
