import GroupRoles.Proofs.Service.Answer
import GroupRoles.Proofs.Shape.Written
import GroupRoles.Proofs.Text.Utf8
import Mathlib.Data.List.Lex

/-!
# What searches find

A group stands in trees at an address: the position of its tree, and then of a subgroup at each
level. A search through trees of any depth finds the group of the name at the first of these
addresses in the lexicographic order, where a group comes before those below it, and these before
what is further to the right (`GroupTree.Finds`). A search through clients finds the first of the
list.
-/

namespace GroupRoles.Service

namespace GroupTree

/-! ## Addresses -/

/-- The group at the top of a tree. -/
def group (tree : GroupTree) : Group :=
  ⟨tree.id, tree.name⟩

/-- The tree at an address below a tree. -/
def at? : GroupTree → List Nat → Option GroupTree
  | tree, [] => some tree
  | tree, i :: address => tree.subgroups[i]?.bind fun below => below.at? address

/-- The tree at an address in trees. -/
def atAll? (trees : List GroupTree) : List Nat → Option GroupTree
  | [] => none
  | i :: address => trees[i]?.bind fun tree => tree.at? address

/-- Of the trees of the name that `look` shows, the one whose address is the first in lexicographic
order has the group. -/
def FirstNamed (look : List Nat → Option GroupTree) (name : String) (group : Group) : Prop :=
  ∃ address tree, look address = some tree ∧ tree.name = name ∧ tree.group = group ∧
    ∀ address' tree', look address' = some tree' → tree'.name = name →
      ¬ List.Lex (· < ·) address' address

/-- What a search for the name is to find among the trees that `look` shows. -/
def Finds (look : List Nat → Option GroupTree) (name : String) : Option Group → Prop
  | none => ∀ address tree, look address = some tree → tree.name ≠ name
  | some group => FirstNamed look name group

variable {name : String} {tree : GroupTree} {rest : List GroupTree}

/-- A tree of another name leaves what is found to its subgroups. -/
theorem Finds.below {id own : String} {subgroups : List GroupTree} (hname : own ≠ name)
    {found : Option Group} (h : Finds (atAll? subgroups) name found) :
    Finds (node id own subgroups).at? name found := by
  cases found with
  | none =>
    intro address tree hat
    cases address with
    | nil =>
      cases hat
      exact hname
    | cons i address => exact h (i :: address) tree hat
  | some group =>
    obtain ⟨address, tree, hat, htree, hgroup, hfirst⟩ := h
    cases address with
    | nil => cases hat
    | cons i address =>
      refine ⟨i :: address, tree, hat, htree, hgroup, fun address' tree' hat' htree' => ?_⟩
      cases address' with
      | nil =>
        cases hat'
        exact absurd htree' hname
      | cons j address' => exact hfirst (j :: address') tree' hat' htree'

/-- What is found in the first tree is the first of all. -/
theorem FirstNamed.cons {group : Group} (h : FirstNamed tree.at? name group) :
    FirstNamed (atAll? (tree :: rest)) name group := by
  obtain ⟨address, found, hat, hname, hgroup, hfirst⟩ := h
  refine ⟨0 :: address, found, hat, hname, hgroup, fun address' tree' hat' htree' hlex => ?_⟩
  cases hlex with
  | nil => cases hat'
  | cons hlex => exact hfirst _ tree' hat' htree' hlex
  | rel hlt => exact absurd hlt (Nat.not_lt_zero _)

/-- Where the first tree has nothing of the name, the search goes on in the others. -/
theorem Finds.cons (htree : ∀ address below, tree.at? address = some below → below.name ≠ name)
    {found : Option Group} (h : Finds (atAll? rest) name found) :
    Finds (atAll? (tree :: rest)) name found := by
  cases found with
  | none =>
    intro address below hat
    rcases address with _ | ⟨_ | i, address⟩
    · cases hat
    · exact htree address below hat
    · exact h (i :: address) below hat
  | some group =>
    obtain ⟨_ | ⟨i, address⟩, below, hat, hname, hgroup, hfirst⟩ := h
    · cases hat
    refine ⟨(i + 1) :: address, below, hat, hname, hgroup, fun address' tree' hat' htree' hlex => ?_⟩
    rcases address' with _ | ⟨_ | j, address'⟩
    · cases hat'
    · exact htree address' tree' hat' htree'
    · refine hfirst (j :: address') tree' hat' htree' ?_
      cases hlex with
      | cons hlex => exact .cons hlex
      | rel hlt => exact .rel (Nat.lt_of_succ_lt_succ hlt)

mutual

theorem finds_find? (name : String) : (tree : GroupTree) → Finds tree.at? name (find? name tree)
  | node id own subgroups => by
    rw [find?]
    by_cases hname : own = name
    · rw [if_pos hname]
      exact ⟨[], node id own subgroups, rfl, hname, rfl, fun _ _ _ _ hlex => by cases hlex⟩
    · rw [if_neg hname]
      exact (finds_findFirst? name subgroups).below hname

/-- A search through trees finds the first group of the name among all their groups. -/
theorem finds_findFirst? (name : String) :
    (trees : List GroupTree) → Finds (atAll? trees) name (findFirst? name trees)
  | [] => by
    intro address tree hat
    cases address <;> cases hat
  | tree :: rest => by
    have htree := finds_find? name tree
    rw [findFirst?]
    cases hfound : find? name tree with
    | some group =>
      rw [hfound] at htree
      exact FirstNamed.cons htree
    | none =>
      rw [hfound] at htree
      exact (finds_findFirst? name rest).cons htree

end

/-- There is only one first group. -/
theorem FirstNamed.unique {look : List Nat → Option GroupTree} {group group' : Group}
    (h : FirstNamed look name group) (h' : FirstNamed look name group') : group = group' := by
  obtain ⟨address, tree, hat, hname, rfl, hfirst⟩ := h
  obtain ⟨address', tree', hat', hname', rfl, hfirst'⟩ := h'
  have haddress : address = address' :=
    Std.Trichotomous.trichotomous (r := List.Lex (· < ·)) address address'
      (hfirst' address tree hat hname) (hfirst address' tree' hat' hname')
  rw [haddress, hat'] at hat
  cases hat
  rfl

theorem Finds.eq_none_iff {look : List Nat → Option GroupTree} {found : Option Group}
    (h : Finds look name found) :
    found = none ↔ ∀ address tree, look address = some tree → tree.name ≠ name := by
  cases found with
  | none => exact iff_of_true rfl h
  | some group =>
    obtain ⟨address, tree, hat, hname, -⟩ := h
    exact iff_of_false (fun h => by cases h) fun hnone => hnone address tree hat hname

theorem Finds.eq_some_iff {look : List Nat → Option GroupTree} {found : Option Group}
    (h : Finds look name found) {group : Group} :
    found = some group ↔ FirstNamed look name group := by
  cases found with
  | none =>
    refine iff_of_false (fun h => by cases h) ?_
    rintro ⟨address, tree, hat, hname, -⟩
    exact h address tree hat hname
  | some group' => exact ⟨fun he => Option.some.inj he ▸ h, fun hg => congrArg some (h.unique hg)⟩

/-! ## Forests that a body can hold -/

/-- A tree of at most this many levels. -/
def Within : Nat → GroupTree → Prop
  | 0, _ => False
  | levels + 1, tree => ∀ below ∈ tree.subgroups, Within levels below

theorem faithful_shape {levels depth : Nat} (h : levels ≤ depth) :
    (shape depth).Faithful (2 * levels) (Within levels) := by
  induction levels generalizing depth with
  | zero => exact fun _ hwithin => hwithin.elim
  | succ levels ih =>
    obtain ⟨depth, rfl⟩ := Nat.exists_eq_add_of_le' (Nat.le_trans (Nat.le_add_left 1 levels) h)
    have hid := Shape.faithful_needed Shape.faithful_text "id"
    have hname := Shape.faithful_needed Shape.faithful_text "name"
    have hsubgroups := Shape.faithful_default (ih (Nat.le_of_succ_le_succ h)).list "subGroups" []
      (a := []) fun _ hnil => absurd hnil List.not_mem_nil
    have hfields := hid.both (hname.both hsubgroups (by decide)) (by decide)
    have hparts : ∀ tree : GroupTree, node tree.id tree.name tree.subgroups = tree :=
      fun tree => by cases tree; rfl
    exact (Shape.faithful_record (hfields.build hparts) _).weaken (by omega)
      fun _ hwithin => ⟨trivial, trivial, hwithin⟩

end GroupTree

open Http

variable {σ α : Type}

/-- A body that holds what is written for a value is read as the value. -/
theorem decode_of_faithful {shape : Shape α} {levels : Nat} {holds : α → Prop}
    (h : shape.Faithful levels holds) (hlevels : levels ≤ Json.maxDepth) {v : α} (hv : holds v) :
    decode shape (Text.Utf8.encode (shape.write v).compactText) = .ok v := by
  have hread := (h.readsBack hlevels hv).compact
  rw [Shape.ofJsonText, ← Json.ofBytes_encode] at hread
  rw [decode, Shape.ofJsonBytes, hread]
  rfl

/-- Forests of up to 63 levels have a body. -/
theorem GroupTree.decode_write {trees : List GroupTree} (h : ∀ tree ∈ trees, tree.Within 63) :
    decode (.list (shape maxGroupDepth))
      (Text.Utf8.encode ((Shape.list (shape maxGroupDepth)).write trees).compactText) =
        .ok trees := by
  have hshape : (shape maxGroupDepth).Faithful (2 * 63) (Within 63) := faithful_shape (by decide)
  exact decode_of_faithful hshape.list (by decide) h

/-! ## Searches through clients -/

/-- Any clients have a body. -/
theorem ClientItem.decode_write (clients : List ClientItem) :
    decode (.list ClientItem.shape)
      (Text.Utf8.encode ((Shape.list ClientItem.shape).write clients).compactText) =
        .ok clients := by
  have hshape : ClientItem.shape.Faithful 1 fun _ => True :=
    faithful_texts _ (by decide) fun _ => rfl
  exact decode_of_faithful hshape.list (by decide) fun _ _ => trivial

/-- The first client of the id has the internal id. -/
def ClientItem.FirstOf (clients : List ClientItem) (clientId id : String) : Prop :=
  ∃ before client after, clients = before ++ client :: after ∧ client.clientId = clientId ∧
    client.id = id ∧ ∀ other ∈ before, other.clientId ≠ clientId

theorem ClientItem.find?_eq_none_iff {clients : List ClientItem} {clientId : String} :
    (clients.find? (·.clientId = clientId)).map ClientItem.id = none ↔
      ∀ client ∈ clients, client.clientId ≠ clientId := by
  rw [Option.map_eq_none_iff, List.find?_eq_none]
  simp only [decide_eq_true_iff, ne_eq]

theorem ClientItem.find?_eq_some_iff {clients : List ClientItem} {clientId id : String} :
    (clients.find? (·.clientId = clientId)).map ClientItem.id = some id ↔
      ClientItem.FirstOf clients clientId id := by
  rw [Option.map_eq_some_iff]
  constructor
  · rintro ⟨client, hfind, hid⟩
    obtain ⟨hclient, before, after, hclients, hbefore⟩ := List.find?_eq_some_iff_append.mp hfind
    refine ⟨before, client, after, hclients, of_decide_eq_true hclient, hid, fun other hother => ?_⟩
    simpa using hbefore other hother
  · rintro ⟨before, client, after, hclients, hclient, hid, hbefore⟩
    refine ⟨client, List.find?_eq_some_iff_append.mpr ⟨decide_eq_true hclient, before, after,
      hclients, fun other hother => ?_⟩, hid⟩
    simpa using hbefore other hother

/-! ## What the directory replies -/

variable {n : Network σ} {s : Service} {a : Session σ} {response : Response}

/-- A search for a group replies with what is found in the trees of the answer. -/
theorem Receives.group_reply {realm name : String} {trees : List GroupTree}
    (h : Receives n s a (.group realm name) response) (hsuccess : response.isSuccess = true)
    (hbody : decode (.list (GroupTree.shape maxGroupDepth)) response.body = .ok trees) :
    ((directory n s).answer (.group realm name) a).1 = .ok (GroupTree.findFirst? name trees) := by
  rw [h.reply_eq, replyTo, map_fetched_eq_ok_iff]
  exact ⟨hsuccess, trees, hbody, rfl⟩

/-- A search for a client replies with what is found in the clients of the answer. -/
theorem Receives.client_reply {realm clientId : String} {clients : List ClientItem}
    (h : Receives n s a (.client realm clientId) response) (hsuccess : response.isSuccess = true)
    (hbody : decode (.list ClientItem.shape) response.body = .ok clients) :
    ((directory n s).answer (.client realm clientId) a).1 =
      .ok ((clients.find? (·.clientId = clientId)).map ClientItem.id) := by
  rw [h.reply_eq, replyTo, map_fetched_eq_ok_iff]
  exact ⟨hsuccess, clients, hbody, rfl⟩

variable (n s a response) in
/-- Searches find exact matches, and the first one. In trees of any depth that is the first group of
the name when each group comes before those below it, and these before what is further to the right;
nothing is found only where no group of any level has the name. To a search for a group the directory
replies with what is found in the trees of the answer; to a search for a client it replies with the
internal id of the first client that has exactly the id, whatever is in front of it, and with none
only where no client has it. An answer can hold any clients, and any trees of up to 63 levels. -/
theorem search_finds_first :
    (∀ name trees,
      GroupTree.findFirst? name trees = (GroupTree.listedAll trees).find? (·.name = name) ∧
      (GroupTree.findFirst? name trees = none ↔
        ∀ address tree, GroupTree.atAll? trees address = some tree → tree.name ≠ name) ∧
      ∀ group, GroupTree.findFirst? name trees = some group ↔
        GroupTree.FirstNamed (GroupTree.atAll? trees) name group) ∧
    (∀ realm name trees, Receives n s a (.group realm name) response →
      response.isSuccess = true →
      decode (.list (GroupTree.shape maxGroupDepth)) response.body = .ok trees →
      ((directory n s).answer (.group realm name) a).1 =
        .ok (GroupTree.findFirst? name trees)) ∧
    (∀ realm clientId clients, Receives n s a (.client realm clientId) response →
      response.isSuccess = true → decode (.list ClientItem.shape) response.body = .ok clients →
      ∃ found, ((directory n s).answer (.client realm clientId) a).1 = .ok found ∧
        (found = none ↔ ∀ client ∈ clients, client.clientId ≠ clientId) ∧
        ∀ id, found = some id ↔ ClientItem.FirstOf clients clientId id) ∧
    (∀ trees, (∀ tree ∈ trees, GroupTree.Within 63 tree) →
      decode (.list (GroupTree.shape maxGroupDepth)) (Text.Utf8.encode
        ((Shape.list (GroupTree.shape maxGroupDepth)).write trees).compactText) = .ok trees) ∧
    ∀ clients, decode (.list ClientItem.shape) (Text.Utf8.encode
      ((Shape.list ClientItem.shape).write clients).compactText) = .ok clients := by
  refine ⟨fun name trees => ?_, fun realm name trees => Receives.group_reply,
    fun realm clientId clients hreceives hsuccess hbody => ?_, fun _ => GroupTree.decode_write,
    ClientItem.decode_write⟩
  · have hfinds := GroupTree.finds_findFirst? name trees
    exact ⟨GroupTree.findFirst?_eq_find? name trees, hfinds.eq_none_iff,
      fun _ => hfinds.eq_some_iff⟩
  · exact ⟨_, hreceives.client_reply hsuccess hbody, ClientItem.find?_eq_none_iff,
      fun _ => ClientItem.find?_eq_some_iff⟩

/-- A group below one with a longer name is found before its namesake to the right, and a client
behind one with a longer id. -/
theorem search_finds_first_exact :
    let s : Service := ⟨{ secure := false, host := "[::1]".toList }, .token "t"⟩
    let trees : List GroupTree :=
      [.node "1" "staff-all" [.node "2" "staff" []], .node "3" "staff" []]
    let clients : List ClientItem := [⟨"4", "portal-old"⟩, ⟨"5", "portal"⟩, ⟨"6", "portal"⟩]
    let session (body : List UInt8) : Session (List Response) := { network := [⟨200, body⟩] }
    let forest := Text.Utf8.encode
      ((Shape.list (GroupTree.shape maxGroupDepth)).write trees).compactText
    let listing := Text.Utf8.encode ((Shape.list ClientItem.shape).write clients).compactText
    ((directory Network.scripted s).answer (.group "main" "staff") (session forest)).1 =
        .ok (some ⟨"2", "staff"⟩) ∧
      ((directory Network.scripted s).answer (.client "main" "portal") (session listing)).1 =
        .ok (some "5") := by
  intro s trees clients session forest listing
  have hreceives : ∀ c body, Receives Network.scripted s (session body) c ⟨200, body⟩ := by
    intro c body
    refine ⟨"t", session body, run_token_of_given rfl, ?_, rfl⟩
    rw [callRequest_eq]
    have htext : "t".toList.all Http.Request.isSendable = true := by decide
    exact htext
  obtain ⟨-, hgroup, -, hforest, -⟩ :=
    search_finds_first Network.scripted s (session forest) ⟨200, forest⟩
  obtain ⟨-, -, hclient, -, hlisting⟩ :=
    search_finds_first Network.scripted s (session listing) ⟨200, listing⟩
  have hleaf : ∀ levels id name, (GroupTree.node id name []).Within (levels + 1) :=
    fun _ _ _ _ h => absurd h List.not_mem_nil
  have hwithin : ∀ tree ∈ trees, tree.Within 63 := List.forall_mem_cons.mpr
    ⟨List.forall_mem_singleton.mpr (hleaf 61 "2" "staff"),
      List.forall_mem_singleton.mpr (hleaf 62 "3" "staff")⟩
  have hdecoded : decode (.list (GroupTree.shape maxGroupDepth)) forest = .ok trees :=
    hforest trees hwithin
  have hsuccess : ∀ body, Response.isSuccess ⟨200, body⟩ = true := fun _ => rfl
  -- the text of the body is not looked into again
  clear_value forest
  constructor
  · rw [hgroup "main" "staff" trees (hreceives _ forest) (hsuccess forest) hdecoded]
    simp [trees, GroupTree.findFirst?, GroupTree.find?]
  · obtain ⟨found, hreply, -, hfound⟩ :=
      hclient "main" "portal" clients (hreceives _ listing) rfl (hlisting clients)
    rw [hreply, (hfound "5").mpr ⟨[⟨"4", "portal-old"⟩], ⟨"5", "portal"⟩, [⟨"6", "portal"⟩], rfl,
      rfl, rfl, by simp⟩]

end GroupRoles.Service
