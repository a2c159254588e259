import IntakeApi.Lifecycle

/-! When a failed mirror is tried again. The delay doubles with every recorded failure until
the cap on the exponent stops it, which is before the cap on the seconds does. -/
namespace IntakeApi

open Relational Transaction Service

/-- The delay doubles up to an hour for as long as the exponent is not capped, and the cap on the
seconds is out of reach. -/
theorem failed_delay (item : OutboxItem) (now : Timestamp) (code : String) :
    (item.failed now code).nextAttemptAt = now + seconds (2 ^ min item.attempts 11) := by
  have reach : 2 ^ min item.attempts 11 ≤ 3600 := by
    calc 2 ^ min item.attempts 11 ≤ 2 ^ 11 := Nat.pow_le_pow_right (by decide) (Nat.min_le_right ..)
      _ ≤ 3600 := by decide
  simp only [OutboxItem.failed]
  rw [Nat.one_shiftLeft, Nat.min_eq_right reach]

/-- After twelve failures the exponent lags behind. -/
theorem doubling_iff (n : Nat) : 2 ^ min n 11 = min 3600 (2 ^ n) ↔ n < 12 := by
  constructor
  · intro equal
    by_contra late
    have large : 2 ^ 12 ≤ 2 ^ n := Nat.pow_le_pow_right (by decide) (Nat.not_lt.mp late)
    have capped : min 3600 (2 ^ n) = 3600 := Nat.min_eq_left (by omega)
    have stuck : min n 11 = 11 := by omega
    rw [capped, stuck] at equal
    exact absurd equal (by decide)
  · intro early
    have small : 2 ^ n ≤ 2 ^ 11 := Nat.pow_le_pow_right (by decide) (by omega)
    rw [Nat.min_eq_left (by omega : n ≤ 11), Nat.min_eq_right (by omega)]

/-- The failure that is recorded after `n` others, whatever came between them, is tried again
after `2 ^ n` seconds, at most an hour, just while `n` is below twelve. -/
theorem retry_delays {contract : Contract} {turns : List Turn} {db : Database}
    (served : Served contract turns db) {env : Env} {kind : StoredSubmissionKind} {id : Uuid} {code : String}
    (committed : Turn.commits contract ⟨env,.recordMirrorFailure kind id code,db⟩ = true) :
    ∃ item ∈ (Turn.after contract ⟨env,.recordMirrorFailure kind id code,db⟩).outbox,
      item.submissionKind = kind ∧ item.submissionId = id ∧
      (item.nextAttemptAt = env.databaseNow + seconds (min 3600 (2 ^ failures contract kind id turns)) ↔
        failures contract kind id turns < 12) := by
  obtain ⟨old,-,attempts,sort,named,failed⟩ := recorded_item served committed
  refine ⟨_,failed,sort,named,?_⟩
  rw [failed_delay, attempts, ← doubling_iff]
  simp only [seconds, Nat.add_left_cancel_iff, Nat.mul_left_inj (by decide : 1000000 ≠ 0)]

namespace Sample

/-- The turns of a database that serves these commands, and what it holds after them. -/
def turns : List (Env × Command) → List Turn × Database
  | [] => ([],.empty)
  | (env,command) :: older =>
    let served := turns older
    (⟨env,command,served.2⟩ :: served.1,Turn.after .sample ⟨env,command,served.2⟩)

theorem turns_served (commands : List (Env × Command)) :
    Served .sample (turns commands).1 (turns commands).2 := by
  induction commands with
  | nil => exact .nil
  | cons entry older ih => exact .cons entry.1 entry.2 ih

def failing (n : Nat) : List (Env × Command) :=
  List.replicate n (calm 20,.recordMirrorFailure .preInterest 1 "supabase_unavailable") ++
    [(calm 10,.store .primary .preInterest (@context 1 .preInterest preInterest)
      ⟨preInterest,some "proof-one"⟩)]

end Sample

theorem retry_delays_second :
    ∃ item ∈ (Turn.after .sample ⟨Sample.calm 30,.recordMirrorFailure .preInterest 1 "supabase_unavailable",
        (Sample.turns (Sample.failing 1)).2⟩).outbox,
      item.submissionKind = .preInterest ∧ item.submissionId = 1 ∧
      (item.nextAttemptAt = 30 + seconds
          (min 3600 (2 ^ failures .sample .preInterest 1 (Sample.turns (Sample.failing 1)).1)) ↔
        failures .sample .preInterest 1 (Sample.turns (Sample.failing 1)).1 < 12) :=
  retry_delays (Sample.turns_served _) (by decide +kernel)

/-- The thirteenth failure is to be tried again after an hour, and is after 2048 seconds. -/
theorem retry_delays_thirteenth :
    Served .sample (Sample.turns (Sample.failing 12)).1 (Sample.turns (Sample.failing 12)).2 ∧
    failures .sample .preInterest 1 (Sample.turns (Sample.failing 12)).1 = 12 ∧
    (∃ item ∈ (Turn.after .sample ⟨Sample.calm 30,.recordMirrorFailure .preInterest 1 "supabase_unavailable",
        (Sample.turns (Sample.failing 12)).2⟩).outbox.rows,
      item.submissionKind = .preInterest ∧ item.submissionId = 1 ∧ item.attempts = 13 ∧
        item.nextAttemptAt = 30 + seconds 2048) ∧
    min 3600 (2 ^ 12) = 3600 := by
  refine ⟨Sample.turns_served _,?_⟩
  decide +kernel

end IntakeApi
