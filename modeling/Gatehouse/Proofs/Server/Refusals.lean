import Gatehouse.Proofs.Server.Outcome
import Gatehouse.Proofs.Server.Totality

/-!
# What is refused changes nothing

A service writes only when all of its checks have passed, and then its answer is 200: of the nine things that
a server does with a request (`Server.Outcome`), only those that are answered by 200 change the stores, apart
from the one that overflows. So whatever is answered by an error status leaves both stores as they were, and
while the expiries of the time lie in the calendar, everything is answered
(`Server.refused_requests_write_nothing`).
-/

namespace Gatehouse.Server

open Http (Request Response)

variable {tokens : TokenConfig} {scanLimit hashCost : Nat} {m : Moment} {r : Request} {before after : Memory}
  {answer : Option Response}

/-- The headers that are added to an answer, and the body that is dropped from it, leave its status. -/
@[simp] theorem finish_status (m : Moment) (r : Request) (response : Response) :
    (finish m r response).status = response.status := by
  unfold finish
  split <;> rfl

/-- What is written is answered by 200, unless an expiry lies outside the calendar. -/
theorem Outcome.written (h : Outcome tokens hashCost m r before answer after) :
    after = before ∨ (∃ response, answer = some response ∧ response.status = 200) ∨
      answer = none ∧ tokens.expiries? m.now = none := by
  cases h with
  | unchanged => exact .inl rfl
  | stranded _ _ _ _ _ _ overflow => exact .inr (.inr ⟨rfl, overflow⟩)
  | registered | loggedIn | refreshed | loggedOut | revoked | profileChanged | passwordChanged =>
    exact .inr (.inl ⟨_, rfl, finish_status m r _⟩)

/-- **A request that is answered by an error status leaves both stores as they were**, whatever they hold and
whatever is asked; and while both expiries of the time lie in the calendar, every request is answered. -/
theorem refused_requests_write_nothing (tokens : TokenConfig) (scanLimit hashCost : Nat) (m : Moment)
    (r : Request) (before : Memory) :
    let result := (inMemory tokens scanLimit hashCost).handle m r before
    (∀ response ∈ result.1, 400 ≤ response.status → result.2 = before) ∧
      ((tokens.expiries? m.now).isSome = true → result.1.isSome = true) := by
  intro result
  refine ⟨fun response hresponse hstatus => ?_,
    fun hexpiries => isSome_handle (inMemory tokens scanLimit hashCost) r hexpiries before⟩
  have hanswer : result.1 = some response := Option.mem_def.mp hresponse
  have houtcome : Outcome tokens hashCost m r before result.1 result.2 :=
    handle_outcome tokens scanLimit hashCost m r before
  rcases houtcome.written with hsame | ⟨written, hwritten, hok⟩ | ⟨hnone, -⟩
  · exact hsame
  · obtain rfl : written = response := Option.some.inj (hwritten.symm.trans hanswer)
    omega
  · exact absurd (hnone.symm.trans hanswer) nofun

/-- A registration is refused if its username or its email is taken. -/
theorem handle_taken {wish order : Registration} (asks : r.Asks (.free .register))
    (payload : RequestReader.payload Registration.shape r = .ok wish) (tidy : wish.tidy = .ok order)
    (taken : before.users.taken order.username order.email = true) :
    ((inMemory tokens scanLimit hashCost).handle m r before).1 =
      some (finish m r (Refusal.conflict "Username or email already registered").toResponse) := by
  have hanswer : ((inMemory tokens scanLimit hashCost).answerOpen m r .register before).1 =
      .error (.error (Refusal.conflict "Username or email already registered").toResponse) := by
    rw [answerOpen_register payload, Handler.answer_apply, register_eq, tidy]
    dsimp only
    rw [taken, if_pos rfl]
    rfl
  rw [handle_open asks, hanswer]
  rfl

/-- Stores with an account and a token record, of which neither the hash nor the sealed token can be read. -/
def sampleCorrupted : Memory where
  users := ⟨[⟨sampleUser, "?"⟩]⟩
  records := ⟨[(sampleUser.id, ⟨"1", sampleUser.id, ⟨"?", "?"⟩, ⟨0, 0⟩, 1, ⟨0, 0⟩, ⟨0, 0⟩⟩)]⟩

/-- The sample registration is refused by these stores, and changes nothing. -/
theorem sample_refusal_writes_nothing :
    let result := (inMemory sampleConfig 10 4).handle sampleMoment sampleRegistration sampleCorrupted
    result.1.isSome = true ∧ (∀ response ∈ result.1, response.status = 409) ∧ result.2 = sampleCorrupted := by
  intro result
  have hanswer : result.1 = some _ := handle_taken ⟨rfl, rfl⟩ sample_payload rfl rfl
  obtain ⟨hrefused, hanswered⟩ :=
    refused_requests_write_nothing sampleConfig 10 4 sampleMoment sampleRegistration sampleCorrupted
  refine ⟨hanswered (Option.isSome_of_eq_some (sample_expiries 0 (by decide))), fun response hresponse => ?_,
    hrefused _ (Option.mem_def.mpr hanswer) ?_⟩
  · rw [hanswer] at hresponse
    rw [← Option.mem_some_iff.mp hresponse, finish_status]
    rfl
  · rw [finish_status]
    decide

end Gatehouse.Server
