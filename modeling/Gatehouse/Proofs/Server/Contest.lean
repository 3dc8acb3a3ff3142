import Gatehouse.Proofs.Server.Roster

/-!
# Who wins a contest of registrations

Clients that register at the same time can all find a username free and still want it. They are sorted out when
the accounts are made, which is done in one breath each: the first account that is made is the admin's, and
whoever comes too late with a username or an email is refused. `contest_is_fair` says what comes of it in the end.

That needs the expiries of the tokens to lie in the calendar, so that whoever has an account made is answered
(`not_stranded_run`). Else an account can be left that nobody was told of, and its username is taken
(`contest_can_be_unfair`).
-/

namespace Gatehouse.Registering

variable {c : Contest} {w : World} {events : List Event} {ids : List String}

/-! ### The outcome -/

/-- A client is registered: it is answered with its account and its tokens. -/
def World.Registers (w : World) (i : Nat) (p : Registered) : Prop := w.stage i = .answered (.ok p)

/-- A client has begun, with a form that is in order. -/
def World.Enters (w : World) (c : Contest) (i : Nat) (order : Registration) : Prop :=
  w.stage i ≠ .waiting ∧ (c.wish i).tidy = .ok order

/-- All clients that have begun are answered. -/
def World.Done (w : World) : Prop := ∀ i, w.stage i = .waiting ∨ ∃ answer, w.stage i = .answered answer

/-- No client that has begun has a move left. -/
def World.Finished (w : World) : Prop :=
  ∀ i, w.stage i = .waiting ∨ (∃ answer, w.stage i = .answered answer) ∨ ∃ user, w.stage i = .stranded user

/-- Those who want a username compete for that alone: none of them shares an email with anybody. -/
def World.CompeteAlone (w : World) (c : Contest) (username : String) : Prop :=
  ∀ i order, w.Enters c i order → order.username = username →
    ∀ j other, w.Enters c j other → j ≠ i → ∀ email, order.email = some email → other.email ≠ some email

/-- Whoever is registered has had an account made. -/
theorem Roster.made_of_registers (h : Roster events w) {i : Nat} {p : Registered} (hp : w.Registers i p) :
    ∃ row, (i, row) ∈ made events ∧ row.user = p.user := by
  refine (h.holds i p.user).mp ?_
  rw [hp]
  rfl

/-- Once all are answered, whoever has had an account made is registered. -/
theorem Roster.registers_of_made (h : Roster events w) (hdone : w.Done) {i : Nat} {row : StoredUser}
    (hrow : (i, row) ∈ made events) : ∃ p, w.Registers i p ∧ row.user = p.user := by
  have huser := (h.holds i row.user).mpr ⟨row, hrow, rfl⟩
  rcases hdone i with hwaiting | ⟨answer, hanswer⟩
  · rw [hwaiting] at huser
    exact absurd huser nofun
  · rw [hanswer] at huser
    cases answer with
    | error e => exact absurd huser nofun
    | ok p => exact ⟨p, hanswer, (Option.some.inj huser).symm⟩

namespace Invariant

variable {i : Nat} {p : Registered}

/-- The account of a client is what the client asked for. -/
theorem fulfils (h : Invariant c ids events w) (hp : w.Registers i p) {order : Registration}
    (htidy : (c.wish i).tidy = .ok order) : p.user.username = order.username ∧ p.user.email = order.email := by
  obtain ⟨row, hrow, hp_user⟩ := h.roster.made_of_registers hp
  obtain ⟨order', _, htidy', -, husername, -, hemail⟩ := h.honest.fulfils i row hrow
  obtain rfl := Except.ok.inj (htidy'.symm.trans htidy)
  rw [← hp_user]
  exact ⟨husername, hemail⟩

/-- The admin is whoever made the first account. -/
theorem admin_iff (h : Invariant c ids events w) (hp : w.Registers i p) :
    p.user.role = adminRole ↔ (creators events).head? = some i := by
  obtain ⟨row, hrow, hp_user⟩ := h.roster.made_of_registers hp
  obtain ⟨n, hn, hplace⟩ := h.roster.exists_index hrow
  rw [← hp_user, h.numbered.orderly.role n row hplace, roleAt_eq_adminRole_iff, h.roster.first, List.head?_map,
    List.head?_eq_getElem?]
  constructor
  · rintro rfl
    rw [hn]
    rfl
  · intro hfirst
    obtain ⟨⟨j, first⟩, hzero, rfl⟩ := Option.map_eq_some_iff.mp hfirst
    -- a client stands in the roster once, so the two places are one
    have hclients : ((made events).map (·.1))[n]? = ((made events).map (·.1))[0]? := by
      rw [List.getElem?_map, List.getElem?_map, hn, hzero]
      rfl
    have hlength : n < ((made events).map (·.1)).length := by
      rw [List.length_map]
      exact (List.getElem?_eq_some_iff.mp hn).1
    exact (List.getElem?_inj hlength h.roster.clients).mp hclients

/-- If anyone is registered, exactly one is an admin, and made the first account. -/
theorem admin (h : Invariant c ids events w) (hdone : w.Done) (hany : ∃ i p, w.Registers i p) :
    ∃ i p, w.Registers i p ∧ p.user.role = adminRole ∧ (creators events).head? = some i ∧
      ∀ j q, w.Registers j q → q.user.role = adminRole → j = i := by
  obtain ⟨i, p, hp⟩ := hany
  obtain ⟨row, hrow, -⟩ := h.roster.made_of_registers hp
  cases hmade : made events with
  | nil =>
    rw [hmade] at hrow
    exact absurd hrow List.not_mem_nil
  | cons entry rest =>
    obtain ⟨first, firstRow⟩ := entry
    have hmem : (first, firstRow) ∈ made events := by
      rw [hmade]
      exact List.mem_cons_self
    have hfirst : (creators events).head? = some first := by
      rw [h.roster.first, hmade]
      rfl
    obtain ⟨p, hp, -⟩ := h.roster.registers_of_made hdone hmem
    refine ⟨first, p, hp, (h.admin_iff hp).mpr hfirst, hfirst, fun j q hq hadmin => ?_⟩
    exact Option.some.inj (((h.admin_iff hq).mp hadmin).symm.trans hfirst)

/-- The accounts are those of the clients that are registered, one for each. -/
theorem accounts (h : Invariant c ids events w) (hdone : w.Done) :
    ∃ winners : List Nat, winners.Nodup ∧ (∀ i, i ∈ winners ↔ ∃ p, w.Registers i p) ∧
      List.Forall₂ (fun i row => Fulfils c i row ∧ ∃ p, w.Registers i p ∧ row.user = p.user) winners
        w.memory.users.users := by
  refine ⟨(made events).map (·.1), h.roster.clients, fun i => ⟨fun hi => ?_, fun ⟨p, hp⟩ => ?_⟩, ?_⟩
  · obtain ⟨⟨i, row⟩, hrow, rfl⟩ := List.mem_map.mp hi
    obtain ⟨p, hp, -⟩ := h.roster.registers_of_made hdone hrow
    exact ⟨p, hp⟩
  · obtain ⟨row, hrow, -⟩ := h.roster.made_of_registers hp
    exact List.mem_map_of_mem hrow
  · rw [h.roster.rows, List.forall₂_map_left_iff, List.forall₂_map_right_iff, List.forall₂_same]
    intro entry hentry
    exact ⟨h.honest.fulfils _ _ hentry, h.roster.registers_of_made hdone hentry⟩

/-- Whoever is refused for a conflict clashes with someone who is registered. -/
theorem conflict (h : Invariant c ids events w) (hdone : w.Done) {e : Refusal}
    (hi : w.stage i = .answered (.error e)) (hstatus : e.status = 409) :
    ∃ order, (c.wish i).tidy = .ok order ∧ ∃ j p, w.Registers j p ∧ Clashes order p.user := by
  have hcause : Cause c events i e := by
    have hadmits := h.honest.admits i
    rw [hi] at hadmits
    exact hadmits
  obtain ⟨order, htidy, j, row, hrow, hclashes⟩ := hcause.clash_of_status hstatus
  obtain ⟨p, hp, hrow_user⟩ := h.roster.registers_of_made hdone hrow
  exact ⟨order, htidy, j, p, hp, hrow_user ▸ hclashes⟩

/-- No two clients are registered with one username. -/
theorem eq_of_username (h : Invariant c ids events w) {j : Nat} {q : Registered} (hp : w.Registers i p)
    (hq : w.Registers j q) (husername : p.user.username = q.user.username) : i = j := by
  obtain ⟨row, hrow, hp_user⟩ := h.roster.made_of_registers hp
  obtain ⟨row', hrow', hq_user⟩ := h.roster.made_of_registers hq
  by_contra hne
  have hapart := h.roster.apart h.numbered.orderly hrow hrow' hne
  rw [← hp_user, ← hq_user] at husername
  exact hapart.username husername

/-- A username that is wanted, and nothing else with it, goes to exactly one client. -/
theorem one_winner (h : Invariant c ids events w) (hdone : w.Done) {username : String}
    (hcost : Crypto.Bcrypt.costAllowed c.hashCost = true)
    (hwanted : ∃ i order, w.Enters c i order ∧ order.username = username)
    (halone : w.CompeteAlone c username) : ∃! i, ∃ p, w.Registers i p ∧ p.user.username = username := by
  suffices hwinner : ∃ i p, w.Registers i p ∧ p.user.username = username by
    obtain ⟨i, p, hp, rfl⟩ := hwinner
    refine ⟨i, ⟨p, hp, rfl⟩, ?_⟩
    rintro j ⟨q, hq, husername⟩
    exact h.eq_of_username hq hp husername
  obtain ⟨i, order, henters, husername⟩ := hwanted
  obtain ⟨hbegun, htidy⟩ := henters
  obtain ⟨answer, hanswer⟩ := (hdone i).resolve_left hbegun
  cases answer with
  | ok p => exact ⟨i, p, hanswer, (h.fulfils hanswer htidy).1.trans husername⟩
  | error e =>
    have hcause : Cause c events i e := by
      have hadmits := h.honest.admits i
      rw [hanswer] at hadmits
      exact hadmits
    cases hcause with
    | form tidy => exact absurd (htidy.symm.trans tidy) nofun
    | hashing _ unhashed =>
      exact absurd (hcost.symm.trans (costAllowed_of_hashPassword_eq_error unhashed)) (by decide)
    | @clash order' message j row tidy made clashes =>
      obtain rfl := Except.ok.inj (htidy.symm.trans tidy)
      obtain ⟨p, hp, hrow_user⟩ := h.roster.registers_of_made hdone made
      rw [hrow_user] at clashes
      rcases clashes with hsame | ⟨email, hemail, htheirs⟩
      · exact ⟨j, p, hp, hsame.trans husername⟩
      · -- a clash of emails would be with another client
        have hj : j ≠ i := by
          rintro rfl
          exact absurd (hanswer.symm.trans hp) nofun
        obtain ⟨other, _, htidy', -⟩ := h.honest.fulfils j row made
        have henters : w.Enters c j other := ⟨by rw [hp]; exact nofun, htidy'⟩
        have hother := (h.fulfils hp htidy').2
        have hnot := halone i order ⟨hbegun, htidy⟩ husername j other henters hj email hemail
        exact absurd (hother.symm.trans htheirs) hnot

end Invariant

/-- **While the expiries lie in the calendar, nobody is stranded**: whoever has had an account made can be
answered. -/
theorem not_stranded_run (c : Contest) (moves : List Move)
    (hexpiries : ∀ i now draws, Move.issue i now draws ∈ moves → (c.tokens.expiries? now).isSome = true) :
    ∀ i user, (run c {} moves).stage i ≠ .stranded user := by
  induction moves using List.reverseRecOn with
  | nil => exact fun i user => nofun
  | append_singleton moves m ih =>
    have hbefore := ih fun i now draws hmem => hexpiries i now draws (List.mem_append_left _ hmem)
    have heffect := step_effect c (run c {} moves) m
    rw [run_concat]
    generalize step c (run c {} moves) m = after at heffect
    obtain ⟨e, w⟩ := after
    have henter (w' : World) (h : ∀ i user, w'.stage i ≠ .stranded user) {i : Nat} {stage : Stage}
        (hstage : ∀ user, stage ≠ .stranded user) : ∀ j user, (w'.enter i stage).stage j ≠ .stranded user :=
      forall_enter (P := fun _ stage => ∀ user, stage ≠ .stranded user) hstage h
    cases heffect with
    | idle => exact hbefore
    | rejected | taken | cleared | unhashed | hashed | collided | made | issued =>
      exact henter _ hbefore fun _ => nofun
    | @stranded i now draws user stage overflow =>
      have hsome := hexpiries i now draws (List.mem_append_right _ List.mem_cons_self)
      rw [overflow] at hsome
      exact absurd hsome nofun

/-- Whoever has begun and has no move left is answered, then. -/
theorem done_of_finished {moves : List Move}
    (hexpiries : ∀ i now draws, Move.issue i now draws ∈ moves → (c.tokens.expiries? now).isSome = true)
    (hfinished : (run c {} moves).Finished) : (run c {} moves).Done := by
  intro i
  rcases hfinished i with hwaiting | hanswered | ⟨user, hstranded⟩
  · exact .inl hwaiting
  · exact .inr hanswered
  · exact absurd hstranded (not_stranded_run c moves hexpiries i user)

/-- **A contest of registrations is fair.** Any number of clients register over stores that are empty at first,
their moves in any order, no id is drawn twice, the expiries of the tokens lie in the calendar, and in the end none
that began has a move left. Then

* if anyone is registered, exactly one is an admin, and that is the client whose account was the first to be
  made;
* the accounts are those of the clients that are registered, one for each, with a hash of the client's own
  password; they have different ids, and the record of each one's tokens is kept, and no other;
* whoever is refused for a conflict clashes with the username or the email of someone who is registered;
* a username for which some compete, and for that alone, goes to exactly one of them. -/
theorem contest_is_fair (c : Contest) (moves : List Move) (hids : (moves.filterMap Move.newId?).Nodup)
    (hexpiries : ∀ i now draws, Move.issue i now draws ∈ moves → (c.tokens.expiries? now).isSome = true)
    (hfinished : (run c {} moves).Finished) :
    let w := run c {} moves
    ((∃ i p, w.Registers i p) → ∃ i p, w.Registers i p ∧ p.user.role = adminRole ∧
      (creators (log c {} moves)).head? = some i ∧
        ∀ j q, w.Registers j q → q.user.role = adminRole → j = i) ∧
    (∃ winners : List Nat, winners.Nodup ∧ (∀ i, i ∈ winners ↔ ∃ p, w.Registers i p) ∧
      List.Forall₂ (fun i row => Fulfils c i row ∧ ∃ p, w.Registers i p ∧ row.user = p.user) winners
        w.memory.users.users) ∧
    (w.memory.users.users.map (·.user.id)).Nodup ∧
    (∀ key record, w.memory.records.find key = some record ↔
      ∃ i p, w.Registers i p ∧ p.user.id = key ∧ p.tokens.record = record) ∧
    (∀ i e, w.stage i = .answered (.error e) → e.status = 409 →
      ∃ order, (c.wish i).tidy = .ok order ∧ ∃ j p, w.Registers j p ∧ Clashes order p.user) ∧
    (∀ username, Crypto.Bcrypt.costAllowed c.hashCost = true →
      (∃ i order, w.Enters c i order ∧ order.username = username) → w.CompeteAlone c username →
        ∃! i, ∃ p, w.Registers i p ∧ p.user.username = username) := by
  intro w
  have h : Invariant c (moves.filterMap Move.newId?) (log c {} moves) w := invariant_run c moves hids
  have hdone : w.Done := done_of_finished hexpiries hfinished
  refine ⟨h.admin hdone, h.accounts hdone, ?_, fun key record => ⟨h.recorded.only key record, ?_⟩,
    fun i e => h.conflict hdone, fun username => h.one_winner hdone⟩
  · exact List.pairwise_map.mpr (h.numbered.orderly.apart.imp StoredUser.Apart.id)
  · rintro ⟨i, p, hp, rfl, rfl⟩
    exact h.recorded.kept i p hp

/-! ### A sample -/

/-- What two clients want. -/
def sampleOrder : Registration := ⟨"bob", "correct-horse", "Bob", none⟩

theorem sample_tidy : sampleOrder.tidy = .ok sampleOrder := by decide +kernel

theorem sample_hash (salt : Crypto.Bcrypt.Salt) :
    ∃ hash, hashPassword 4 salt sampleOrder.password = .ok hash := ⟨_, rfl⟩

/-- Those who want the same compete for the username alone, as they have no email. -/
theorem sample_competeAlone {c : Contest} (hwish : ∀ i, c.wish i = sampleOrder) (w : World) (username : String) :
    w.CompeteAlone c username := by
  rintro i order ⟨-, htidy⟩ - j other - - email hemail
  rw [hwish] at htidy
  obtain rfl := Except.ok.inj (sample_tidy.symm.trans htidy)
  exact absurd hemail nofun

/-- Everybody wants the same. -/
def sampleContest : Contest := ⟨sampleConfig, 4, fun _ => sampleOrder⟩

/-- Two clients find the username free, and the second one has its account made first. -/
def sampleMoves : List Move :=
  [.check 0, .check 1, .hash 0 (Crypto.Bcrypt.Salt.ofNat 7), .hash 1 (Crypto.Bcrypt.Salt.ofNat 8),
    .create 1 ⟨0, 0⟩ "u1", .create 0 ⟨0, 0⟩ "u0", .issue 1 ⟨0, 0⟩ sampleDraws]

/-- The sample contest: the second client is registered, and the first one is refused for a conflict. -/
theorem sample_run :
    ∃ (p : Registered) (e : Refusal) (row : StoredUser),
      (run sampleContest {} sampleMoves).stage = (fun i =>
        if i = 1 then .answered (.ok p) else if i = 0 then .answered (.error e) else .waiting) ∧
      e.status = 409 ∧ log sampleContest {} sampleMoves =
        [.silent, .silent, .silent, .silent, .made 1 row, .collided 0, .silent] := by
  obtain ⟨hash₀, hhash₀⟩ := sample_hash (Crypto.Bcrypt.Salt.ofNat 7)
  obtain ⟨hash₁, hhash₁⟩ := sample_hash (Crypto.Bcrypt.Salt.ofNat 8)
  generalize hcleared : (World.enter {} 0 (.cleared sampleOrder)).enter 1 (.cleared sampleOrder) = cleared
  have hchecks : step sampleContest {} (.check 0) = (.silent, World.enter {} 0 (.cleared sampleOrder)) ∧
      step sampleContest (World.enter {} 0 (.cleared sampleOrder)) (.check 1) = (.silent, cleared) := by
    rw [← hcleared]
    exact ⟨rfl, rfl⟩
  generalize hhashed : (cleared.enter 0 (.hashed sampleOrder hash₀)).enter 1 (.hashed sampleOrder hash₁) = hashed
  have hhashes : step sampleContest cleared (.hash 0 (Crypto.Bcrypt.Salt.ofNat 7)) =
        (.silent, cleared.enter 0 (.hashed sampleOrder hash₀)) ∧
      step sampleContest (cleared.enter 0 (.hashed sampleOrder hash₀)) (.hash 1 (Crypto.Bcrypt.Salt.ofNat 8)) =
        (.silent, hashed) := by
    have hfirst : cleared.stage 0 = .cleared sampleOrder := by
      rw [← hcleared]
      rfl
    have hsecond : (cleared.enter 0 (.hashed sampleOrder hash₀)).stage 1 = .cleared sampleOrder := by
      rw [← hcleared]
      rfl
    rw [step_hash hfirst, step_hash hsecond, sampleContest, hhash₀, hhash₁, ← hhashed]
    exact ⟨rfl, rfl⟩
  have hempty : hashed.memory = {} := by
    rw [← hhashed, ← hcleared]
    rfl
  have hstage₁ : hashed.stage 1 = .hashed sampleOrder hash₁ := by
    rw [← hhashed]
    rfl
  generalize hrow : (⟨Directory.account {} (sampleOrder.newUser hash₁) ⟨0, 0⟩ "u1", hash₁⟩ : StoredUser) = row
  have hcreate₁ : step sampleContest hashed (.create 1 ⟨0, 0⟩ "u1") = (.made 1 row, hashed.make 1 row) := by
    rw [step_create_of_free hstage₁ (by rw [hempty]; rfl), hempty, hrow]
  have hstage₀ : (hashed.make 1 row).stage 0 = .hashed sampleOrder hash₀ := by
    rw [← hhashed]
    rfl
  have htaken : (hashed.make 1 row).memory.users.taken sampleOrder.username sampleOrder.email = true := by
    rw [World.make, enter_memory, hempty, ← hrow]
    rfl
  have hcreate₀ := step_create_of_taken (c := sampleContest) hstage₀ htaken ⟨0, 0⟩ "u0"
  generalize hcollided : (hashed.make 1 row).enter 0 (.answered (.error (.ofUserError .alreadyExists))) = collided
    at hcreate₀
  have hstage : collided.stage 1 = .created row.user := by
    rw [← hcollided]
    rfl
  obtain ⟨tokens, memory, hissue, -⟩ := TokenConfig.issue_of_expiries (sample_expiries 0 (by decide))
    row.user.subject sampleDraws collided.memory
  have hissue₁ : step sampleContest collided (.issue 1 ⟨0, 0⟩ sampleDraws) =
      (.silent, { collided with memory }.enter 1 (.answered (.ok ⟨row.user, tokens⟩))) := by
    rw [step_issue hstage, sampleContest, hissue]
  refine ⟨⟨row.user, tokens⟩, .ofUserError .alreadyExists, row, ?_, rfl, ?_⟩
  · simp only [sampleMoves, run, hchecks, hhashes, hcreate₁, hcreate₀, hissue₁]
    funext i
    by_cases hone : i = 1
    · rw [if_pos hone, hone, enter_stage_self]
    · rw [if_neg hone, enter_stage_of_ne _ _ hone, ← hcollided]
      by_cases hzero : i = 0
      · rw [if_pos hzero, hzero, enter_stage_self]
      · rw [if_neg hzero, enter_stage_of_ne _ _ hzero, World.make, enter_stage_of_ne _ _ hone, ← hhashed,
          ← hcleared]
        simp [World.enter, hone, hzero]
  · simp only [sampleMoves, log, hchecks, hhashes, hcreate₁, hcreate₀, hissue₁]

/-- The sample contest is fair: the second client is the one admin and has the username alone. -/
theorem sample_contest_is_fair :
    let w := run sampleContest {} sampleMoves
    ∃ p e, w.Registers 1 p ∧ p.user.role = adminRole ∧ w.stage 0 = .answered (.error e) ∧ e.status = 409 ∧
      ∃! i, ∃ p, w.Registers i p ∧ p.user.username = "bob" := by
  intro w
  obtain ⟨p, e, row, hstage, hstatus, hlog⟩ := sample_run
  have hstage : w.stage = _ := hstage
  have hregisters : w.Registers 1 p := by
    rw [World.Registers, hstage]
    rfl
  have hrefused : w.stage 0 = .answered (.error e) := by
    rw [hstage]
    rfl
  have hfinished : w.Finished := by
    intro i
    rw [hstage]
    by_cases hone : i = 1
    · exact .inr (.inl ⟨.ok p, if_pos hone⟩)
    by_cases hzero : i = 0
    · exact .inr (.inl ⟨.error e, (if_neg hone).trans (if_pos hzero)⟩)
    · exact .inl ((if_neg hone).trans (if_neg hzero))
  have hexpiries (i : Nat) (now : Instant) (draws : TokenDraws) (hmove : Move.issue i now draws ∈ sampleMoves) :
      (sampleContest.tokens.expiries? now).isSome = true := by
    obtain ⟨-, rfl, -⟩ : i = 1 ∧ now = ⟨0, 0⟩ ∧ draws = sampleDraws := by simpa [sampleMoves] using hmove
    decide
  obtain ⟨hadmin, -, -, -, -, hwinner⟩ := contest_is_fair sampleContest sampleMoves (by decide) hexpiries hfinished
  obtain ⟨i, q, hq, hrole, hfirst, -⟩ := hadmin ⟨1, p, hregisters⟩
  have hi : i = 1 := by
    rw [hlog] at hfirst
    exact (Option.some.inj hfirst).symm
  have hqp : q = p := by
    have hq : w.stage i = .answered (.ok q) := hq
    rw [hi, hregisters] at hq
    exact (Except.ok.inj (Stage.answered.inj hq)).symm
  have halone : w.CompeteAlone sampleContest "bob" := sample_competeAlone (fun _ => rfl) w "bob"
  have hwanted : ∃ i order, w.Enters sampleContest i order ∧ order.username = "bob" := by
    refine ⟨0, sampleOrder, ⟨?_, sample_tidy⟩, rfl⟩
    rw [hrefused]
    exact nofun
  exact ⟨p, e, hregisters, hqp ▸ hrole, hrefused, hstatus, hwinner "bob" (by decide) hwanted halone⟩

/-! ### What makes a contest unfair -/

/-- Everybody wants the same, and no expiry of a refresh token lies in the calendar. -/
def endlessContest : Contest :=
  ⟨{ sampleConfig with refreshLifetime := ⟨Span.longest, by decide⟩ }, 4, fun _ => sampleOrder⟩

/-- One client after the other. -/
def endlessMoves : List Move :=
  [.check 0, .hash 0 (Crypto.Bcrypt.Salt.ofNat 7), .create 0 ⟨0, 0⟩ "u0", .issue 0 ⟨0, 0⟩ sampleDraws, .check 1]

/-- The first client has the account of the admin made, but its tokens cannot be issued; the second one is refused. -/
theorem endless_run :
    let w := run endlessContest {} endlessMoves
    ∃ row e, row.user.role = adminRole ∧ e.status = 409 ∧ w.memory.users.users = [row] ∧
      (∀ key, w.memory.records.find key = none) ∧ w.stage = fun i =>
        if i = 0 then .stranded row.user else if i = 1 then .answered (.error e) else .waiting := by
  intro w
  obtain ⟨hash, hhash⟩ := sample_hash (Crypto.Bcrypt.Salt.ofNat 7)
  let cleared := World.enter {} 0 (.cleared sampleOrder)
  let hashed := cleared.enter 0 (.hashed sampleOrder hash)
  let row : StoredUser := ⟨Directory.account {} (sampleOrder.newUser hash) ⟨0, 0⟩ "u0", hash⟩
  let stranded := (hashed.make 0 row).enter 0 (.stranded row.user)
  let e : Refusal := .conflict "Username or email already registered"
  have hcleared : step endlessContest {} (.check 0) = (.silent, cleared) := rfl
  have hhashed : step endlessContest cleared (.hash 0 (Crypto.Bcrypt.Salt.ofNat 7)) = (.silent, hashed) := by
    have hstage : cleared.stage 0 = .cleared sampleOrder := enter_stage_self _ _ _
    rw [step_hash hstage, endlessContest, hhash]
  have hmade : step endlessContest hashed (.create 0 ⟨0, 0⟩ "u0") = (.made 0 row, hashed.make 0 row) :=
    step_create_of_free (enter_stage_self _ _ _) rfl ⟨0, 0⟩ "u0"
  have hstranded : step endlessContest (hashed.make 0 row) (.issue 0 ⟨0, 0⟩ sampleDraws) = (.silent, stranded) := by
    have hstage : (hashed.make 0 row).stage 0 = .created row.user := enter_stage_self _ _ _
    have hnone : endlessContest.tokens.expiries? ⟨0, 0⟩ = none := by decide
    rw [step_issue hstage, TokenConfig.issue_eq, hnone]
  have hrefused : step endlessContest stranded (.check 1) = (.silent, stranded.enter 1 (.answered (.error e))) := by
    have htidy : (endlessContest.wish 1).tidy = .ok sampleOrder := sample_tidy
    have htaken : stranded.memory.users.taken sampleOrder.username sampleOrder.email = true := rfl
    rw [step_check rfl, htidy]
    exact if_pos htaken
  have hw : w = stranded.enter 1 (.answered (.error e)) := by
    simp only [w, endlessMoves, run, hcleared, hhashed, hmade, hstranded, hrefused]
  refine ⟨row, e, rfl, rfl, ?_, fun key => ?_, ?_⟩
  · rw [hw]
    rfl
  · rw [hw]
    exact RecordStore.find_empty key
  · funext i
    rw [hw]
    by_cases hzero : i = 0
    · rw [if_pos hzero, hzero]
      rfl
    by_cases hone : i = 1
    · rw [if_neg hzero, if_pos hone, hone, enter_stage_self]
    · rw [if_neg hzero, if_neg hone, enter_stage_of_ne _ _ hone, enter_stage_of_ne _ _ hzero, World.make,
        enter_stage_of_ne _ _ hzero, enter_stage_of_ne _ _ hzero, enter_stage_of_ne _ _ hzero]

/-- In the end the first client has no answer, the second one is refused for a conflict, nobody is registered, and
still there is an account. -/
theorem endless_contest :
    let w := run endlessContest {} endlessMoves
    ∃ row e, w.Finished ∧ w.stage 0 = .stranded row.user ∧ row.user.role = adminRole ∧
      w.memory.users.users = [row] ∧ (∀ key, w.memory.records.find key = none) ∧
      w.stage 1 = .answered (.error e) ∧ e.status = 409 ∧ ∀ i p, ¬ w.Registers i p := by
  intro w
  obtain ⟨row, e, hadmin, hstatus, husers, hrecords, hstage⟩ := endless_run
  have hstage : w.stage = _ := hstage
  have hfirst : w.stage 0 = .stranded row.user := by
    rw [hstage]
    rfl
  have hsecond : w.stage 1 = .answered (.error e) := by
    rw [hstage]
    rfl
  have hstages (i : Nat) : i = 0 ∨ i = 1 ∨ w.stage i = .waiting := by
    by_cases hzero : i = 0
    · exact .inl hzero
    by_cases hone : i = 1
    · exact .inr (.inl hone)
    · rw [hstage]
      exact .inr (.inr ((if_neg hzero).trans (if_neg hone)))
  refine ⟨row, e, ?_, hfirst, hadmin, husers, hrecords, hsecond, hstatus, ?_⟩
  · intro i
    rcases hstages i with rfl | rfl | hwaiting
    · exact .inr (.inr ⟨row.user, hfirst⟩)
    · exact .inr (.inl ⟨.error e, hsecond⟩)
    · exact .inl hwaiting
  · intro i p hp
    have hp : w.stage i = .answered (.ok p) := hp
    rcases hstages i with rfl | rfl | hwaiting
    · exact absurd (hfirst.symm.trans hp) nofun
    · exact absurd (hsecond.symm.trans hp) nofun
    · exact absurd (hwaiting.symm.trans hp) nofun

/-- Everybody wants the same, at a cost of hashing that is not allowed. -/
def cheapContest : Contest := ⟨sampleConfig, 3, fun _ => sampleOrder⟩

/-- One client, whose password cannot be hashed. -/
def cheapMoves : List Move := [.check 0, .hash 0 (Crypto.Bcrypt.Salt.ofNat 7)]

/-- The client is answered with an error. -/
theorem cheap_run :
    ∃ e, (run cheapContest {} cheapMoves).stage = fun i => if i = 0 then .answered (.error e) else .waiting := by
  let cleared := World.enter {} 0 (.cleared sampleOrder)
  have hcleared : step cheapContest {} (.check 0) = (.silent, cleared) := rfl
  have hstage : cleared.stage 0 = .cleared sampleOrder := enter_stage_self _ _ _
  obtain ⟨e, he⟩ : ∃ e, hashPassword 3 (Crypto.Bcrypt.Salt.ofNat 7) sampleOrder.password = .error e := ⟨_, rfl⟩
  refine ⟨.ofAuthError e, ?_⟩
  rw [cheapMoves, run, hcleared, run, step_hash hstage, cheapContest, he, run]
  funext i
  by_cases hzero : i = 0
  · rw [if_pos hzero, hzero, enter_stage_self]
  · rw [if_neg hzero, enter_stage_of_ne _ _ hzero, enter_stage_of_ne _ _ hzero]

/-- In the end nobody has the username that was wanted. -/
theorem cheap_contest :
    let w := run cheapContest {} cheapMoves
    w.Finished ∧ w.Enters cheapContest 0 sampleOrder ∧ w.CompeteAlone cheapContest sampleOrder.username ∧
      ∀ i p, ¬ w.Registers i p := by
  intro w
  obtain ⟨e, hstage⟩ := cheap_run
  have hstage : w.stage = _ := hstage
  have hstages (i : Nat) : w.stage i = .answered (.error e) ∨ w.stage i = .waiting := by
    rw [hstage]
    by_cases hzero : i = 0
    · exact .inl (if_pos hzero)
    · exact .inr (if_neg hzero)
  have hbegun : w.stage 0 ≠ .waiting := by
    rw [hstage]
    exact nofun
  refine ⟨fun i => ?_, ⟨hbegun, sample_tidy⟩, sample_competeAlone (fun _ => rfl) w _, fun i p hp => ?_⟩
  · rcases hstages i with hanswered | hwaiting
    · exact .inr (.inl ⟨.error e, hanswered⟩)
    · exact .inl hwaiting
  · have hp : w.stage i = .answered (.ok p) := hp
    rcases hstages i with hanswered | hwaiting
    · exact absurd (hanswered.symm.trans hp) nofun
    · exact absurd (hwaiting.symm.trans hp) nofun

/-- If the expiries do not lie in the calendar, an account can be left and a client be refused for a conflict although
nobody is registered. If the cost of hashing is not allowed, nobody gets a username that is wanted alone. No id is
drawn twice in either contest, and no client that began has a move left. -/
theorem contest_can_be_unfair :
    ((endlessMoves.filterMap Move.newId?).Nodup ∧
      let w := run endlessContest {} endlessMoves
      w.Finished ∧ w.memory.users.users ≠ [] ∧ (∃ e, w.stage 1 = .answered (.error e) ∧ e.status = 409) ∧
        ∀ i p, ¬ w.Registers i p) ∧
    (cheapMoves.filterMap Move.newId?).Nodup ∧
      let w := run cheapContest {} cheapMoves
      w.Finished ∧ w.Enters cheapContest 0 sampleOrder ∧ w.CompeteAlone cheapContest sampleOrder.username ∧
        ∀ i p, ¬ w.Registers i p := by
  obtain ⟨row, e, hfinished, -, -, husers, -, hrefused, hstatus, hnobody⟩ := endless_contest
  refine ⟨⟨by decide, hfinished, ?_, ⟨e, hrefused, hstatus⟩, hnobody⟩, by decide, cheap_contest⟩
  rw [husers]
  exact List.cons_ne_nil _ _

end Gatehouse.Registering
