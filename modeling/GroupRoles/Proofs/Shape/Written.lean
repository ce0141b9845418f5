import GroupRoles.Proofs.Shape.Faithful
import GroupRoles.Report
import GroupRoles.Settings

/-!
# The records of requests, settings and reports

Here is written out which members the JSON of each record has. A value that is absent has no member
(`Json.present`). Every record is read back from its members, and a request or a connection also from
members of which some are left out that say what holds by default (`Request.read_members`,
`Connection.read_members`).
-/

namespace GroupRoles

open Json

/-- The member of a value that may be absent. -/
def Json.present (key : String) : Option Json → List (String × Json)
  | some v => [(key, v)]
  | none => []

/-! ## Members -/

/-- The record of a role. -/
def Role.json (role : Role) : Json :=
  .record [("id", .text role.id), ("name", .text role.name)]

/-- The record of a role entry. -/
def RoleEntry.json (entry : RoleEntry) : Json :=
  .record (present "id" (entry.id.map .text) ++ present "name" (entry.name.map .text))

/-- The record of a group reference. -/
def GroupKey.json (key : GroupKey) : Json :=
  .record (present "id" (key.id.map .text) ++ present "name" (key.name.map .text))

/-- The record of a client reference. -/
def ClientKey.json (key : ClientKey) : Json :=
  .record (present "id" (key.id.map .text) ++ present "client_id" (key.clientId.map .text))

/-- The members of a request. -/
def Request.members (request : Request) : List (String × Json) :=
  [("realm", .text request.realm), ("intent", .text request.goal.name),
    ("group", request.group.json)] ++
    (present "client" (request.client.map ClientKey.json) ++
      (present "roles" (request.roles.map fun entries => .list (entries.map RoleEntry.json)) ++
        [("dry_run", .flag request.dryRun), ("want_diff", .flag request.wantDelta)]))

/-- The members of a request that say what holds without them. -/
def Request.defaults : List (String × Json) :=
  [("realm", .text "master"), ("intent", .text "present"), ("dry_run", .flag false),
    ("want_diff", .flag false)]

/-- The members of a connection. -/
def Connection.members (c : Connection) : List (String × Json) :=
  [("base_url", .text c.baseUrl)] ++
    (present "auth_realm" (c.realm.map .text) ++
      ([("auth_client_id", .text c.clientId)] ++
        (present "auth_client_secret" (c.clientSecret.map .text) ++
          (present "auth_username" (c.username.map .text) ++
            (present "auth_password" (c.password.map .text) ++
              (present "auth_password_env" (c.passwordVariable.map .text) ++
                (present "token" (c.token.map .text) ++
                  (present "token_env" (c.tokenVariable.map .text) ++
                    [("timeout_seconds", .number c.timeoutSeconds),
                      ("validate_certs", .flag c.checkCertificates)]))))))))

/-- The members of a connection that say what holds without them. -/
def Connection.defaults : List (String × Json) :=
  [("auth_client_id", .text "admin-cli"), ("timeout_seconds", .number 30),
    ("validate_certs", .flag true)]

/-- The record of settings, from the members of a connection and of a request. -/
def Settings.jsonOf (connection request : List (String × Json)) : Json :=
  .record [("connection", .record connection), ("request", .record request)]

/-- The record of the role lists before and after a change. -/
def Delta.json (delta : Delta) : Json :=
  .record [("before", .list (delta.before.map Role.json)), ("after", .list (delta.after.map Role.json))]

/-- The record of a report. -/
def Report.json (report : Report) : Json :=
  .record ([("changed", .flag report.changed), ("msg", .text report.message),
    ("proposed", .list (report.proposed.map fun key => key.entry.json)),
    ("existing", .list (report.existing.map Role.json)),
    ("end_state", .list (report.endState.map Role.json)),
    ("mutated", .list (report.changes.map Role.json))] ++
    present "diff" (report.delta.map Delta.json))

/-! ## What is written -/

open Fields Shape

theorem entries_optional {α : Type} (name : String) (s : Shape α) (o : Option α) :
    (optional name s).entries o = present name (o.map s.write) := by
  cases o <;> rfl

theorem RoleEntry.write_shape (entry : RoleEntry) : RoleEntry.shape.write entry = entry.json := by
  obtain ⟨id, name⟩ := entry
  cases id <;> cases name <;> rfl

theorem GroupKey.write_shape (key : GroupKey) : GroupKey.shape.write key = key.json := by
  obtain ⟨id, name⟩ := key
  cases id <;> cases name <;> rfl

theorem ClientKey.write_shape (key : ClientKey) : ClientKey.shape.write key = key.json := by
  obtain ⟨id, clientId⟩ := key
  cases id <;> cases clientId <;> rfl

theorem Report.write_shape (report : Report) : Report.shape.write report = report.json := by
  have hproposed : RoleKey.shape.write = fun key => key.entry.json :=
    funext fun key => RoleEntry.write_shape key.entry
  have hlist : (Shape.list RoleKey.shape).write =
      fun keys => .list (keys.map fun key => key.entry.json) := by
    rw [← hproposed]
    rfl
  obtain ⟨changed, message, proposed, existing, endState, changes, delta⟩ := report
  change Json.record ([_] ++ ([_] ++ ([("proposed", (Shape.list RoleKey.shape).write proposed)] ++
    ([_] ++ ([_] ++ ([_] ++ (optional "diff" Delta.shape).entries delta)))))) = _
  rw [hlist, entries_optional]
  rfl

theorem Request.write_shape (request : Request) :
    Request.shape.write request = .record request.members := by
  have hclients : ClientKey.shape.write = ClientKey.json := funext ClientKey.write_shape
  have hentries : (Shape.list RoleEntry.shape).write =
      fun entries => .list (entries.map RoleEntry.json) := by
    rw [← funext RoleEntry.write_shape]
    rfl
  obtain ⟨realm, goal, group, client, roles, dryRun, wantDelta⟩ := request
  change Json.record ([_] ++ ([_] ++ ([("group", GroupKey.shape.write group)] ++
    ((optional "client" ClientKey.shape).entries client ++
      ((optional "roles" (.list RoleEntry.shape)).entries roles ++ ([_] ++ [_])))))) = _
  rw [entries_optional, entries_optional, GroupKey.write_shape, hclients, hentries]
  rfl

theorem Connection.write_shape (c : Connection) :
    Connection.shape.write c = .record c.members := by
  change Json.record ([_] ++ ((optional "auth_realm" text).entries c.realm ++ ([_] ++
    ((optional "auth_client_secret" text).entries c.clientSecret ++
      ((optional "auth_username" text).entries c.username ++
        ((optional "auth_password" text).entries c.password ++
          ((optional "auth_password_env" text).entries c.passwordVariable ++
            ((optional "token" text).entries c.token ++
              ((optional "token_env" text).entries c.tokenVariable ++ ([_] ++ [_])))))))))) = _
  simp only [entries_optional]
  rfl

theorem Settings.write_shape (settings : Settings) : Settings.shape.write settings =
    Settings.jsonOf settings.connection.members settings.request.members := by
  change Json.record [("connection", Connection.shape.write settings.connection),
    ("request", Request.shape.write settings.request)] = _
  rw [Connection.write_shape, Request.write_shape]
  rfl

/-! ## Reading back -/

theorem Shape.text_ne_null (s : String) : Shape.text.write s ≠ .null := fun h => by cases h

section

variable {β : Type} (title : String) {first second : String}
  (hnames : apart [first] [second] = true)
include hnames

/-- A record of two texts. -/
theorem faithful_texts {make : String × String → β} {parts : β → String × String}
    (hmake : ∀ b, make (parts b) = b) :
    (record title (((field first text).both (field second text)).build make parts)).Faithful 1
      fun _ => True := by
  have hfirst := faithful_needed faithful_text first
  have hsecond := faithful_needed faithful_text second
  exact (faithful_record ((hfirst.both hsecond hnames).build hmake) title).weaken (Nat.le_refl 1)
    fun _ _ => ⟨trivial, trivial⟩

/-- A record of two texts that may both be absent. -/
theorem faithful_optionalTexts {make : Option String × Option String → β}
    {parts : β → Option String × Option String} (hmake : ∀ b, make (parts b) = b) :
    (record title (((optional first text).both (optional second text)).build make parts)).Faithful 1
      fun _ => True := by
  have hfirst := faithful_optional faithful_text text_ne_null first
  have hsecond := faithful_optional faithful_text text_ne_null second
  exact (faithful_record ((hfirst.both hsecond hnames).build hmake) title).weaken (Nat.le_refl 1)
    fun _ _ => ⟨fun _ _ => trivial, fun _ _ => trivial⟩

end

theorem Role.faithful_shape : Role.shape.Faithful 1 fun _ => True :=
  faithful_texts _ (by decide) fun _ => rfl

theorem RoleEntry.faithful_shape : RoleEntry.shape.Faithful 1 fun _ => True :=
  faithful_optionalTexts _ (by decide) fun _ => rfl

theorem GroupKey.faithful_shape : GroupKey.shape.Faithful 1 fun _ => True :=
  faithful_optionalTexts _ (by decide) fun _ => rfl

theorem ClientKey.faithful_shape : ClientKey.shape.Faithful 1 fun _ => True :=
  faithful_optionalTexts _ (by decide) fun _ => rfl

/-- An entry that is written for a reference is read back as the same kind of reference. -/
theorem RoleKey.faithful_shape : RoleKey.shape.Faithful 1 fun _ => True := by
  refine (RoleEntry.faithful_shape.checked fun key => ?_).weaken (Nat.le_refl 1) fun _ _ => trivial
  rw [key?_entry]
  rfl

theorem Goal.faithful_shape : Goal.shape.Faithful 0 fun _ => True :=
  faithful_choice fun goal => by cases goal <;> rfl

theorem Delta.faithful_shape : Delta.shape.Faithful 3 fun _ => True := by
  have hbefore := faithful_needed Role.faithful_shape.list "before"
  have hafter := faithful_needed Role.faithful_shape.list "after"
  exact (faithful_record ((hbefore.both hafter (by decide)).build fun _ => rfl) _).weaken
    (Nat.le_refl 3) fun _ _ => ⟨fun _ _ => trivial, fun _ _ => trivial⟩

theorem Report.faithful_shape : Report.shape.Faithful 4 fun _ => True := by
  have hroles := Role.faithful_shape.list
  have hchanged := faithful_needed faithful_flag "changed"
  have hmessage := faithful_needed faithful_text "msg"
  have hproposed := faithful_needed RoleKey.faithful_shape.list "proposed"
  have hdelta := faithful_optional Delta.faithful_shape (fun _ h => by cases h) "diff"
  have hfields := hchanged.both (hmessage.both (hproposed.both
    ((faithful_needed hroles "existing").both ((faithful_needed hroles "end_state").both
      ((faithful_needed hroles "mutated").both hdelta (by decide)) (by decide)) (by decide))
    (by decide)) (by decide)) (by decide)
  exact (faithful_record (hfields.build fun _ => rfl) _).weaken (by decide) fun _ _ => by simp

theorem Request.exists_fields : ∃ f names, Request.shape = .record "ReconcileRequest" f ∧
    f.Faithful names Request.defaults 2 fun _ => True := by
  have hrealm := faithful_default faithful_text "realm" [] (a := defaultRealm) trivial
  have hgoal := faithful_default Goal.faithful_shape "intent" ["state"] (a := Goal.present) trivial
  have hgroup := faithful_needed GroupKey.faithful_shape "group"
  have hclient := faithful_optional ClientKey.faithful_shape (fun _ h => by cases h) "client"
  have hroles := faithful_optional RoleEntry.faithful_shape.list (fun _ h => by cases h) "roles"
  have hdryRun := faithful_default faithful_flag "dry_run" [] (a := false) trivial
  have hwantDelta := faithful_default faithful_flag "want_diff" [] (a := false) trivial
  have hfields := hrealm.both (hgoal.both (hgroup.both (hclient.both (hroles.both
    (hdryRun.both hwantDelta (by decide)) (by decide)) (by decide)) (by decide)) (by decide))
    (by decide)
  -- the fields with a default give `Request.defaults`; entries of roles nest two levels deep
  exact ⟨_, _, rfl, (hfields.build fun _ => rfl).weaken (fun _ h => h) (by decide)
    fun _ _ => by simp⟩

/-- A request is read back from its members, with or without those that say a default. -/
theorem Request.read_members {request : Request} {kept : List (String × Json)}
    (hkept : Abridged Request.defaults request.members kept) {depth : Nat} (hdepth : 3 ≤ depth) :
    Request.shape.read dialect ⟨(Json.record kept).draft, depth⟩ = .ok request := by
  obtain ⟨f, names, hshape, hf⟩ := exists_fields
  have hwrite := write_shape request
  rw [hshape] at hwrite ⊢
  exact read_abridged hf trivial hwrite hkept hdepth

theorem Connection.exists_fields : ∃ f names, Connection.shape = .record "ConnectionConfig" f ∧
    f.Faithful names Connection.defaults 0 fun c => c.timeoutSeconds ≤ Numeral.maxSignificand := by
  have htext := fun name => faithful_optional faithful_text text_ne_null name
  have hurl := faithful_needed faithful_text "base_url"
  have hclient := faithful_default faithful_text "auth_client_id" [] (a := "admin-cli") trivial
  have htimeout := faithful_default faithful_count "timeout_seconds" [] (a := 30) (by decide)
  have hcertificates := faithful_default faithful_flag "validate_certs" [] (a := true) trivial
  have hfields := hurl.both ((htext "auth_realm").both (hclient.both
    ((htext "auth_client_secret").both ((htext "auth_username").both ((htext "auth_password").both
      ((htext "auth_password_env").both ((htext "token").both ((htext "token_env").both
        (htimeout.both hcertificates (by decide)) (by decide)) (by decide)) (by decide))
      (by decide)) (by decide)) (by decide)) (by decide)) (by decide)) (by decide)
  exact ⟨_, _, rfl, (hfields.build fun _ => rfl).weaken (fun _ h => h) (by decide)
    fun _ h => by simpa using h⟩

/-- A connection is read back from its members, with or without those that say a default. -/
theorem Connection.read_members {c : Connection}
    (hseconds : c.timeoutSeconds ≤ Numeral.maxSignificand) {kept : List (String × Json)}
    (hkept : Abridged Connection.defaults c.members kept) {depth : Nat} (hdepth : 1 ≤ depth) :
    Connection.shape.read dialect ⟨(Json.record kept).draft, depth⟩ = .ok c := by
  obtain ⟨f, names, hshape, hf⟩ := exists_fields
  have hwrite := write_shape c
  rw [hshape] at hwrite ⊢
  exact read_abridged hf hseconds hwrite hkept hdepth

/-- Settings are read back from the members of their connection and request, with or without those
that say a default. -/
theorem Settings.read_members {settings : Settings}
    (hseconds : settings.connection.timeoutSeconds ≤ Numeral.maxSignificand)
    {connection request : List (String × Json)}
    (hconnection : Abridged Connection.defaults settings.connection.members connection)
    (hrequest : Abridged Request.defaults settings.request.members request) {depth : Nat}
    (hdepth : 4 ≤ depth) :
    Settings.shape.read dialect ⟨(Settings.jsonOf connection request).draft, depth⟩ =
      .ok settings := by
  obtain ⟨depth, rfl⟩ := Nat.exists_eq_add_of_le' (Nat.le_trans (by decide : 1 ≤ 4) hdepth)
  have hpass := pass_written depth
    [("connection", .record connection), ("request", .record request)]
  have hconnection := Connection.read_members hseconds hconnection (by omega : 1 ≤ depth)
  have hrequest := Request.read_members hrequest (by omega : 3 ≤ depth)
  have hsplit : ∀ e ∈ written depth
      [("connection", .record connection), ("request", .record request)],
      (field "connection" Connection.shape).Ignores e.1 ∨
        (field "request" Request.shape).Ignores e.1 := by
    intro e _
    by_cases hkey : e.1 = "connection"
    · exact .inr (ignores_of_ne (by rw [hkey]; decide) _ none)
    · exact .inl (ignores_of_ne hkey _ none)
  rw [Settings.jsonOf, draft_record]
  exact read_record _ (reads_build hpass (reads_both hsplit hpass
    (reads_field hpass rfl hconnection) (reads_field hpass rfl hrequest)))

/-! ## Reading back from texts -/

theorem RoleKey.readsBack (key : RoleKey) : RoleKey.shape.ReadsBack key.entry.json key := by
  have hwrite : RoleKey.shape.write key = key.entry.json := RoleEntry.write_shape key.entry
  rw [← hwrite]
  exact RoleKey.faithful_shape.readsBack (by decide) trivial

theorem Report.readsBack (report : Report) : Report.shape.ReadsBack report.json report := by
  rw [← write_shape]
  exact Report.faithful_shape.readsBack (by decide) trivial

theorem Request.readsBack {request : Request} {kept : List (String × Json)}
    (hkept : Abridged Request.defaults request.members kept) :
    Request.shape.ReadsBack (.record kept) request :=
  readsBack_of_read (read_members hkept (by decide))

theorem Settings.readsBack {settings : Settings}
    (hseconds : settings.connection.timeoutSeconds ≤ Numeral.maxSignificand)
    {connection request : List (String × Json)}
    (hconnection : Abridged Connection.defaults settings.connection.members connection)
    (hrequest : Abridged Request.defaults settings.request.members request) :
    Settings.shape.ReadsBack (Settings.jsonOf connection request) settings :=
  readsBack_of_read (read_members hseconds hconnection hrequest (by decide))

end GroupRoles
