import GroupRoles.Proofs.Service.Callers

/-!
# Callers share a token

The stage of every caller fits the lock (`Crowd.Fits`), whatever the order of the steps. So at most
one request for a token is in flight; and once a granted token is stored, everybody who looks finds
it, as long as it is fresh (`Crowd.Settled`).
-/

namespace GroupRoles.Service

open Http

variable {ι σ : Type} [DecidableEq ι]

/-! ## Stages fit the lock -/

/-- How a caller holds the lock. -/
inductive Access where
  | outside
  | together
  | exclusive
deriving DecidableEq

/-- How a caller in a stage holds the lock. -/
def Stage.access : Stage → Access
  | .arrived | .waiting | .returned _ => .outside
  | .reading => .together
  | .holding | .asking | .awaiting | .granted _ => .exclusive

/-- A caller in a stage is on the way to a token of its own. -/
def Stage.Renews : Stage → Prop
  | .asking | .awaiting | .granted _ => True
  | _ => False

theorem Stage.access_of_renews {stage : Stage} (h : stage.Renews) :
    stage.access = .exclusive := by
  cases stage with
  | asking | awaiting | granted g => rfl
  | arrived | reading | waiting | holding | returned result => exact h.elim

namespace Lock

/-- How a caller holds a lock. -/
def access : Lock ι → ι → Access
  | shared readers, i => if i ∈ readers then .together else .outside
  | alone writer, i => if i = writer then .exclusive else .outside

theorem access_share? {lock lock' : Lock ι} {i : ι} (h : lock.share? i = some lock') :
    lock'.access = Function.update lock.access i .together := by
  cases lock with
  | alone writer => cases h
  | shared readers =>
    cases h
    funext j
    by_cases hj : j = i
    · simp [access, hj]
    · simp [access, hj]

theorem access_take? {lock lock' : Lock ι} {i : ι} (h : lock.take? i = some lock') :
    lock'.access = Function.update lock.access i .exclusive := by
  cases lock with
  | alone writer => cases h
  | shared readers =>
    by_cases hfree : readers = ∅
    · rw [take?, if_pos hfree] at h
      cases h
      funext j
      by_cases hj : j = i
      · simp [access, hj]
      · simp [access, hj, hfree]
    · rw [take?, if_neg hfree] at h
      cases h

theorem access_giveBack {lock : Lock ι} {i : ι} (h : lock.access i ≠ .outside) :
    (lock.giveBack i).access = Function.update lock.access i .outside := by
  funext j
  cases lock with
  | shared readers =>
    by_cases hj : j = i
    · simp [access, giveBack, hj]
    · simp [access, giveBack, hj]
  | alone writer =>
    have hi : i = writer := by
      by_contra hne
      exact h (if_neg hne)
    by_cases hj : j = i
    · simp [access, giveBack, hj]
    · simp [access, giveBack, hj, ← hi]

/-- Only one caller holds a lock alone. -/
theorem eq_alone_of_exclusive {lock : Lock ι} {i : ι} (h : lock.access i = .exclusive) :
    lock = .alone i := by
  cases lock with
  | shared readers =>
    by_cases hmem : i ∈ readers
    · rw [access, if_pos hmem] at h
      cases h
    · rw [access, if_neg hmem] at h
      cases h
  | alone writer =>
    by_cases hi : i = writer
    · rw [hi]
    · rw [access, if_neg hi] at h
      cases h

end Lock

namespace Crowd

/-- Every caller's stage says how it holds the lock. -/
def Fits (c : Crowd ι σ) : Prop :=
  ∀ i, (c.stage i).access = c.lock.access i

theorem fits_start (a : Session σ) : ({ session := a } : Crowd ι σ).Fits := by
  intro i
  change Access.outside = (Lock.shared ∅ : Lock ι).access i
  rw [Lock.access, if_neg (Finset.notMem_empty i)]

theorem Fits.put {c c' : Crowd ι σ} (h : c.Fits) {i : ι} {stage : Stage}
    (hstage : c'.stage = c.stage)
    (hlock : c'.lock.access = Function.update c.lock.access i stage.access) :
    (c'.put i stage).Fits := by
  intro j
  have hlock' : (c'.put i stage).lock.access j = _ := congrFun hlock j
  rw [hlock']
  by_cases hj : j = i
  · subst hj
    rw [stage_put, Function.update_self]
  · rw [stage_put_of_ne _ hj, Function.update_of_ne hj, hstage]
    exact h j

/-- A stage that holds the lock in the same way. -/
theorem Fits.put_same {c c' : Crowd ι σ} (h : c.Fits) {i : ι} {stage : Stage}
    (hstage : c'.stage = c.stage) (hlock : c'.lock = c.lock)
    (haccess : stage.access = (c.stage i).access) : (c'.put i stage).Fits := by
  refine h.put hstage ?_
  rw [hlock, haccess, h i, Function.update_eq_self]

theorem Fits.leave {c c' : Crowd ι σ} (h : c.Fits) {i : ι} {stage : Stage}
    (hstage : c'.stage = c.stage) (hlock : c'.lock = c.lock)
    (hheld : (c.stage i).access ≠ .outside) (haccess : stage.access = .outside) :
    (c'.leave i stage).Fits := by
  rw [h i] at hheld
  refine h.put hstage ?_
  change (c'.lock.giveBack i).access = _
  rw [hlock, Lock.access_giveBack hheld, haccess]

variable {n : Network σ} {s : Service} {grant : PasswordGrant}

/-- No step breaks the fit. -/
theorem Fits.step {c : Crowd ι σ} (h : c.Fits) (i : ι) : (c.step n s grant i).Fits := by
  have hi := h i
  unfold Crowd.step
  cases hstage : c.stage i with
  | arrived =>
    dsimp only
    cases hlock : c.lock.share? i with
    | none => exact h
    | some lock => exact h.put rfl (Lock.access_share? hlock)
  | reading =>
    have hheld : (c.stage i).access ≠ .outside := by
      rw [hstage]
      exact Access.noConfusion
    dsimp only
    split
    · exact h.leave rfl rfl hheld rfl
    · exact h.leave rfl rfl hheld rfl
    · exact h.leave rfl rfl hheld rfl
  | waiting =>
    dsimp only
    cases hlock : c.lock.take? i with
    | none => exact h
    | some lock => exact h.put rfl (Lock.access_take? hlock)
  | holding =>
    have hheld : (c.stage i).access ≠ .outside := by
      rw [hstage]
      exact Access.noConfusion
    dsimp only
    split
    · exact h.leave rfl rfl hheld rfl
    · exact h.put_same rfl rfl (by rw [hstage]; rfl)
    · exact h.leave rfl rfl hheld rfl
  | asking => exact h.put_same rfl rfl (by rw [hstage]; rfl)
  | awaiting =>
    have hheld : (c.stage i).access ≠ .outside := by
      rw [hstage]
      exact Access.noConfusion
    dsimp only
    split
    · exact h.put_same rfl rfl (by rw [hstage]; rfl)
    · exact h.leave rfl rfl hheld rfl
  | granted g =>
    have hheld : (c.stage i).access ≠ .outside := by
      rw [hstage]
      exact Access.noConfusion
    exact h.leave rfl rfl hheld rfl
  | returned result => exact h

theorem Fits.run {c : Crowd ι σ} (h : c.Fits) (moves : List (Move ι σ)) :
    (c.run n s grant moves).Fits := by
  induction moves generalizing c with
  | nil => exact h
  | cons m rest ih =>
    cases m with
    | step i => exact ih (h.step i)
    | elapse network => exact ih h

/-! ## One caller after another -/

theorem stage_step_of_ne (c : Crowd ι σ) {i j : ι} (h : j ≠ i) :
    (c.step n s grant i).stage j = c.stage j := by
  unfold Crowd.step
  cases c.stage i with
  | arrived =>
    dsimp only
    split
    · exact stage_put_of_ne _ h _
    · rfl
  | reading =>
    dsimp only
    split <;> exact stage_leave_of_ne _ h _
  | waiting =>
    dsimp only
    split
    · exact stage_put_of_ne _ h _
    · rfl
  | holding =>
    dsimp only
    split
    · exact stage_leave_of_ne _ h _
    · exact stage_put_of_ne _ h _
    · exact stage_leave_of_ne _ h _
  | asking => exact stage_put_of_ne _ h _
  | awaiting =>
    dsimp only
    split
    · exact stage_put_of_ne _ h _
    · exact stage_leave_of_ne _ h _
  | granted g => exact stage_leave_of_ne _ h _
  | returned result => rfl

/-- At most one caller holds the lock alone. -/
theorem Fits.eq_of_exclusive {c : Crowd ι σ} (h : c.Fits) {i j : ι}
    (hi : (c.stage i).access = .exclusive) (hj : (c.stage j).access = .exclusive) : i = j := by
  rw [h i] at hi
  rw [h j, Lock.eq_alone_of_exclusive hi] at hj
  have hwriter := Lock.eq_alone_of_exclusive hj
  cases hwriter
  rfl

/-- While a caller holds the lock alone, nobody else gets on. -/
theorem Fits.step_of_exclusive {c : Crowd ι σ} (h : c.Fits) {i j : ι}
    (hi : (c.stage i).access = .exclusive) (hj : j ≠ i) : c.step n s grant j = c := by
  have hlock : c.lock = .alone i := Lock.eq_alone_of_exclusive ((h i).symm.trans hi)
  have haccess : (c.stage j).access = .outside := by
    rw [h j, hlock]
    exact if_neg hj
  unfold Crowd.step
  cases hstage : c.stage j with
  | arrived =>
    dsimp only
    rw [hlock]
    rfl
  | waiting =>
    dsimp only
    rw [hlock]
    rfl
  | returned result => rfl
  | reading | holding | asking | awaiting | granted g =>
    rw [hstage] at haccess
    cases haccess

theorem stage_run_of_returned {c : Crowd ι σ} {i : ι} {result : Except ServiceFault String}
    (h : c.stage i = .returned result) (moves : List (Move ι σ)) :
    (c.run n s grant moves).stage i = .returned result := by
  induction moves generalizing c with
  | nil => exact h
  | cons m rest ih =>
    cases m with
    | elapse network => exact ih h
    | step j =>
      refine ih (c := c.step n s grant j) ?_
      by_cases hj : i = j
      · rw [← hj, step_of_returned h]
        exact h
      · rw [stage_step_of_ne c hj]
        exact h

theorem run_append (c : Crowd ι σ) (first last : List (Move ι σ)) :
    c.run n s grant (first ++ last) = (c.run n s grant first).run n s grant last :=
  List.foldl_append

/-! ## Once a token is stored -/

/-- A token is kept, and nobody is on the way to another one. -/
structure Settled (c : Crowd ι σ) (t : Token) : Prop where
  kept : c.session.kept = some t
  calm : ∀ i, ¬ (c.stage i).Renews

/-- The clock stays more than the grace before the expiry of a token, from a crowd on. -/
def StaysFresh (n : Network σ) (s : Service) (grant : PasswordGrant) (c : Crowd ι σ)
    (moves : List (Move ι σ)) (t : Token) : Prop :=
  ∀ first last, moves = first ++ last →
    (n.now (c.run n s grant first).session.network).1 + grace < t.expiry

theorem Settled.put {c c' : Crowd ι σ} {t : Token} (h : c.Settled t) {i : ι} {stage : Stage}
    (hkept : c'.session.kept = c.session.kept) (hstage : c'.stage = c.stage)
    (hcalm : ¬ stage.Renews) : (c'.put i stage).Settled t where
  kept := hkept.trans h.kept
  calm := by
    intro j
    by_cases hj : j = i
    · subst hj
      rw [stage_put]
      exact hcalm
    · rw [stage_put_of_ne _ hj, hstage]
      exact h.calm j

/-- Whoever looks finds the token that is kept, as long as it is fresh. -/
theorem Settled.stage_step {c : Crowd ι σ} {t : Token} (h : c.Settled t) {i : ι}
    (hfresh : (n.now c.session.network).1 + grace < t.expiry)
    (hlook : c.stage i = .reading ∨ c.stage i = .holding) :
    c.step n s grant i = { c with session := c.session.tick n }.leave i (.returned (.ok t.text)) := by
  have hfound : (look n : Step σ ServiceFault _).run.run c.session =
      (.ok (some t.text), c.session.tick n) := run_look_of_fresh n h.kept hfresh
  unfold Crowd.step
  rcases hlook with hstage | hstage
  · rw [hstage]
    dsimp only
    rw [hfound]
  · rw [hstage]
    dsimp only
    rw [hfound]

theorem Settled.step {c : Crowd ι σ} {t : Token} (h : c.Settled t) (i : ι)
    (hfresh : (n.now c.session.network).1 + grace < t.expiry) :
    (c.step n s grant i).Settled t ∧ (c.step n s grant i).asked = c.asked := by
  have hcalm := h.calm i
  cases hstage : c.stage i with
  | reading =>
    rw [h.stage_step hfresh (.inl hstage)]
    exact ⟨h.put rfl rfl id, rfl⟩
  | holding =>
    rw [h.stage_step hfresh (.inr hstage)]
    exact ⟨h.put rfl rfl id, rfl⟩
  | arrived =>
    rw [Crowd.step, hstage]
    dsimp only
    split
    · exact ⟨h.put rfl rfl id, rfl⟩
    · exact ⟨h, rfl⟩
  | waiting =>
    rw [Crowd.step, hstage]
    dsimp only
    split
    · exact ⟨h.put rfl rfl id, rfl⟩
    · exact ⟨h, rfl⟩
  | returned result =>
    rw [step_of_returned hstage]
    exact ⟨h, rfl⟩
  | asking | awaiting | granted g =>
    rw [hstage] at hcalm
    exact absurd trivial hcalm

theorem Settled.run {c : Crowd ι σ} {t : Token} (h : c.Settled t) {moves : List (Move ι σ)}
    (hfresh : StaysFresh n s grant c moves t) :
    (c.run n s grant moves).Settled t ∧ (c.run n s grant moves).asked = c.asked := by
  induction moves generalizing c with
  | nil => exact ⟨h, rfl⟩
  | cons m rest ih =>
    have hrest : StaysFresh n s grant (c.move n s grant m) rest t :=
      fun first last hsplit => hfresh (m :: first) last (congrArg (m :: ·) hsplit)
    cases m with
    | elapse network => exact ih ⟨h.kept, h.calm⟩ hrest
    | step i =>
      obtain ⟨hsettled, hasked⟩ := h.step i (hfresh [] _ rfl)
      obtain ⟨hlast, hasked'⟩ := ih hsettled hrest
      exact ⟨hlast, hasked'.trans hasked⟩

/-- Storing a granted token settles everybody. -/
theorem Fits.settled_of_granted (s : Service) (grant : PasswordGrant) {c : Crowd ι σ}
    (h : c.Fits) {i : ι} {g : Granted} (hi : c.stage i = .granted g) {t : Token}
    (ht : g.keep (n.now c.session.network).1 = .ok t) :
    (c.step n s grant i).Settled t ∧ (c.step n s grant i).asked = c.asked ∧
      (c.step n s grant i).stage i = .returned (.ok t.text) := by
  have hstore : (store n g).run.run c.session =
      (.ok t.text, { c.session.tick n with kept := some t }) := by
    rw [run_store, ht]
  have hstep : c.step n s grant i =
      { c with session := { c.session.tick n with kept := some t } }.leave i
        (.returned (.ok t.text)) := by
    rw [Crowd.step, hi]
    dsimp only
    rw [hstore]
  rw [hstep]
  refine ⟨⟨rfl, fun j => ?_⟩, rfl, stage_leave _ i _⟩
  by_cases hj : j = i
  · subst hj
    rw [stage_leave]
    exact id
  · rw [stage_leave_of_ne _ hj]
    have hexclusive : (c.stage i).access = .exclusive := by rw [hi]; rfl
    exact fun hrenews => hj (h.eq_of_exclusive (Stage.access_of_renews hrenews) hexclusive)

/-- While a granted token waits to be stored, nobody else gets on. -/
theorem Fits.run_of_granted {c : Crowd ι σ} (h : c.Fits) {i : ι} {g : Granted}
    (hi : c.stage i = .granted g) {moves : List (Move ι σ)} (hmoves : .step i ∉ moves) :
    (c.run n s grant moves).asked = c.asked ∧ (c.run n s grant moves).stage i = .granted g := by
  induction moves generalizing c with
  | nil => exact ⟨rfl, hi⟩
  | cons m rest ih =>
    have hrest : .step i ∉ rest := fun hmem => hmoves (List.mem_cons_of_mem m hmem)
    cases m with
    | elapse network => exact ih (c := c.move n s grant (.elapse network)) h hi hrest
    | step j =>
      have hj : j ≠ i := fun hji => hmoves (hji ▸ List.mem_cons_self)
      have hstep : c.step n s grant j = c := h.step_of_exclusive (by rw [hi]; rfl) hj
      have hrun : c.run n s grant (.step j :: rest) = c.run n s grant rest := by
        change (c.step n s grant j).run n s grant rest = _
        rw [hstep]
      rw [hrun]
      exact ih h hi hrest

end Crowd

open Crowd in
/-- Whatever the order of the steps of callers that want a token, and whatever the network does:
at most one request for a token is in flight. Once one is granted nobody asks before it is stored,
and once it is stored, as long as it stays fresh, nobody asks again, the caller that asked returned
it, and so does every caller that looks. -/
theorem crowd_shares_token (n : Network σ) (s : Service) (grant : PasswordGrant) (a : Session σ)
    (moves : List (Move ι σ)) :
    let c := ({ session := a } : Crowd ι σ).run n s grant moves
    (∀ i j, c.stage i = .awaiting → c.stage j = .awaiting → i = j) ∧
    ∀ i g, c.stage i = .granted g →
      (∀ meanwhile : List (Move ι σ), .step i ∉ meanwhile →
        (c.run n s grant meanwhile).asked = c.asked ∧
        (c.run n s grant meanwhile).stage i = .granted g) ∧
      ∀ t, g.keep (n.now c.session.network).1 = .ok t →
      ∀ rest, StaysFresh n s grant (c.step n s grant i) rest t →
        let last := (c.step n s grant i).run n s grant rest
        last.asked = c.asked ∧ last.session.kept = some t ∧
        last.stage i = .returned (.ok t.text) ∧
        ∀ earlier j later, rest = earlier ++ .step j :: later →
          let before := (c.step n s grant i).run n s grant earlier
          before.stage j = .reading ∨ before.stage j = .holding →
          last.stage j = .returned (.ok t.text) := by
  intro c
  have hfits : c.Fits := (fits_start a).run moves
  constructor
  · intro i j hi hj
    exact hfits.eq_of_exclusive (by rw [hi]; rfl) (by rw [hj]; rfl)
  · intro i g hi
    refine ⟨fun meanwhile hmeanwhile => hfits.run_of_granted hi hmeanwhile, ?_⟩
    intro t ht rest hfresh last
    obtain ⟨hsettled, hasked, hreturned⟩ := hfits.settled_of_granted s grant hi ht
    obtain ⟨hlast, hasked'⟩ := hsettled.run hfresh
    refine ⟨hasked'.trans hasked, hlast.kept, stage_run_of_returned hreturned rest, ?_⟩
    intro earlier j later hsplit before hlook
    have hfresh' : StaysFresh n s grant (c.step n s grant i) earlier t := by
      intro first last' hearlier
      refine hfresh first (last' ++ .step j :: later) ?_
      rw [hsplit, hearlier, List.append_assoc]
    obtain ⟨hbefore, -⟩ := hsettled.run hfresh'
    have hnow : (n.now before.session.network).1 + grace < t.expiry := hfresh earlier _ hsplit
    have hstep : (before.step n s grant j).stage j = .returned (.ok t.text) := by
      rw [hbefore.stage_step hnow hlook, stage_leave]
    have hrun : last = (before.step n s grant j).run n s grant later := by
      change (c.step n s grant i).run n s grant rest = _
      rw [hsplit, run_append]
      rfl
    rw [hrun]
    exact stage_run_of_returned hstep later

/-- Two callers find no token and wait for the lock: the first asks, and the second finds what the
first stored. -/
theorem crowd_shares_token_two :
    let grant : PasswordGrant := ⟨"master", "admin-cli", none, "admin", "secret"⟩
    let s : Service := ⟨{ secure := false, host := "[::1]".toList }, .password grant⟩
    let a : Session (List Response) :=
      { network := [⟨200, Text.Utf8.encode "\x7b\"access_token\": \"a\"\x7d"⟩] }
    let moves : List (Crowd.Move Nat (List Response)) :=
      [.step 0, .step 1, .step 0, .step 1, .step 0, .step 1, .step 0, .step 0, .step 0]
    ∃ c, ({ session := a } : Crowd Nat (List Response)).run Network.scripted s grant moves = c ∧
      c.stage 0 = .granted ⟨"a", 60⟩ ∧ c.stage 1 = .waiting ∧ c.asked = [0] ∧
      let last := (c.step Network.scripted s grant 0).run Network.scripted s grant
        [.step 1, .step 1]
      last.asked = [0] ∧ last.stage 0 = .returned (.ok "a") ∧ last.stage 1 = .returned (.ok "a") := by
  intro grant s a moves
  have hstages :
      let c := ({ session := a } : Crowd Nat (List Response)).run Network.scripted s grant moves
      c.stage 0 = .granted ⟨"a", 60⟩ ∧ c.stage 1 = .waiting ∧ c.asked = [0] ∧
        ((c.step Network.scripted s grant 0).run Network.scripted s grant [.step 1]).stage 1 =
          .holding := by
    decide +kernel
  have hshares := (crowd_shares_token Network.scripted s grant a moves).2
  dsimp only at hstages hshares
  -- the run itself is not looked into again
  generalize Crowd.run Network.scripted s grant { session := a } moves = c at hstages hshares ⊢
  obtain ⟨hgranted, hwaiting, hasked, hholding⟩ := hstages
  obtain ⟨-, hstored⟩ := hshares 0 ⟨"a", 60⟩ hgranted
  -- the clock of the script stands still
  have hclock : ∀ network : List Response, (Network.scripted.now network).1 = 0 := fun _ => rfl
  have hkeep : Granted.keep ⟨"a", 60⟩ (Network.scripted.now c.session.network).1 =
      .ok ⟨"a", 60 * second⟩ := by
    rw [hclock]
    decide +kernel
  have hfresh : Crowd.StaysFresh Network.scripted s grant (c.step Network.scripted s grant 0)
      [.step 1, .step 1] ⟨"a", 60 * second⟩ := by
    intro first rest hsplit
    rw [hclock]
    decide +kernel
  obtain ⟨hlast, -, hfirst, hsecond⟩ := hstored ⟨"a", 60 * second⟩ hkeep _ hfresh
  exact ⟨c, rfl, hgranted, hwaiting, hasked, hlast.trans hasked, hfirst,
    hsecond [.step 1] 1 [] rfl (.inr hholding)⟩

end GroupRoles.Service
