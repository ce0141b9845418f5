import GroupRoles.Proofs.Command.Load
import GroupRoles.Proofs.Service.Alike
import GroupRoles.Proofs.Shape.Written

/-!
# What is printed can be read back

A command that applies settings prints the report of its run as JSON, one line end behind it. Reports,
requests and settings are all read back from the JSON that is written for them.
-/

namespace GroupRoles

open Json

namespace Command

/-- Nothing is lost in JSON. A command that applies settings prints exactly the text of the report
of its run, and every report is read back from its text, with every role reference as the kind that
it is. Requests and settings are read back from what is written for them, where an absent value has
no member, and also when members are left out that say a default. The seconds of a connection are a
number of 64 bits. -/
theorem printed_reads_back {σ : Type} (n : Http.Network σ) (path : String) (o : Overrides)
    (content : FileContent) (env : Environment) (network : σ) :
    (∀ stdout, ((apply path o).execute n content env network).1 = .ok stdout ↔
      ∃ settings service report, Settings.load path content env o = .ok settings ∧
        Service.ofConnection settings.connection env = .ok service ∧
        (fulfil n service settings.request network).result = .ok report ∧
        stdout = report.json.prettyText ++ "\n" ∧ Report.shape.ofJsonText stdout = .ok report) ∧
    (∀ report, Report.shape.write report = report.json ∧
      Report.shape.ReadsBack report.json report) ∧
    (∀ key, RoleKey.shape.write key = key.entry.json ∧
      RoleKey.shape.ReadsBack key.entry.json key) ∧
    (∀ request, Request.shape.write request = .record request.members ∧
      Request.shape.ReadsBack (.record request.members) request ∧
      ∀ kept, Abridged Request.defaults request.members kept →
        Request.shape.ReadsBack (.record kept) request) ∧
    ∀ settings : Settings, settings.connection.timeoutSeconds ≤ Numeral.maxSignificand →
      Settings.shape.write settings =
        Settings.jsonOf settings.connection.members settings.request.members ∧
      Settings.shape.ReadsBack
        (Settings.jsonOf settings.connection.members settings.request.members) settings ∧
      ∀ connection request, Abridged Connection.defaults settings.connection.members connection →
        Abridged Request.defaults settings.request.members request →
        Settings.shape.ReadsBack (Settings.jsonOf connection request) settings := by
  refine ⟨fun stdout => ?_, fun report => ⟨report.write_shape, report.readsBack⟩,
    fun key => ⟨key.entry.write_shape, key.readsBack⟩,
    fun request => ⟨request.write_shape, Request.readsBack (.refl _ _),
      fun _ hkept => Request.readsBack hkept⟩,
    fun settings hseconds => ⟨settings.write_shape,
      Settings.readsBack hseconds (.refl _ _) (.refl _ _),
      fun _ _ hconnection hrequest => Settings.readsBack hseconds hconnection hrequest⟩⟩
  rw [execute_apply_eq_ok_iff]
  constructor
  · rintro ⟨settings, service, report, hload, hservice, hresult, rfl⟩
    rw [report.write_shape]
    exact ⟨settings, service, report, hload, hservice, hresult, rfl, report.readsBack.line⟩
  · rintro ⟨settings, service, report, hload, hservice, hresult, rfl, -⟩
    rw [← report.write_shape]
    exact ⟨settings, service, report, hload, hservice, hresult, rfl⟩

/-- Settings without roles: nothing is sent, and the report is read back. Members that say a default
are left out. -/
theorem printed_reads_back_without_roles :
    let text := "connection: \x7bbase_url: \"http://[::1]\", token: t\x7d\n" ++
      "request: \x7bgroup: \x7bid: g\x7d\x7d"
    let content : FileContent := .ok (Text.Utf8.encode text)
    let group : List (String × Json) := [("group", .record [("id", .text "g")])]
    let settings : Settings := ⟨{ baseUrl := "u" }, { group := ⟨some "g", none⟩ }⟩
    (∃ stdout report, ((apply "f" {}).execute Http.Network.scripted content [] []).1 = .ok stdout ∧
      Report.shape.ofJsonText stdout = .ok report) ∧
    Request.shape.ofJsonText (Json.record group).compactText = .ok settings.request ∧
    Settings.shape.ofJsonText (Settings.jsonOf [("base_url", .text "u")] group).prettyText =
      .ok settings := by
  intro text content group settings
  obtain ⟨hprinted, -, -, hrequests, hsettings⟩ :=
    printed_reads_back Http.Network.scripted "f" {} content [] []
  have hgroup : Abridged Request.defaults settings.request.members group := by
    refine ⟨.cons _ (.cons _ (.cons_cons _ (.cons _ (.cons _ .slnil)))), ?_⟩
    simp [settings, group, Request.members, Request.defaults, GroupKey.json, present, Goal.name,
      defaultRealm]
  have hurl : Abridged Connection.defaults settings.connection.members
      [("base_url", .text "u")] := by
    refine ⟨.cons_cons _ (.cons _ (.cons _ (.cons _ .slnil))), ?_⟩
    simp [settings, Connection.members, Connection.defaults, present]
  refine ⟨?_, ((hrequests settings.request).2.2 group hgroup).compact,
    ((hsettings settings (by decide)).2.2 _ group hurl hgroup).pretty⟩
  have hsome : ((apply "f" {}).execute Http.Network.scripted content [] []).1.isOk = true := by
    decide +kernel
  generalize ((apply "f" {}).execute Http.Network.scripted content [] []).1 = printed at hprinted hsome ⊢
  cases printed with
  | error fault => cases hsome
  | ok stdout =>
    obtain ⟨-, -, report, -, -, -, -, hread⟩ := (hprinted stdout).mp rfl
    exact ⟨stdout, report, rfl, hread⟩

end Command

end GroupRoles
