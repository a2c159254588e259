import IntakeApi.Provenance
import IntakeApi.Sample

/-! One monotone clock for the API and the databases: a mirror store begins after the
primary row that it copies was committed, so the mirror's upload window closes later. -/
namespace IntakeApi

open Interaction Relational Transaction Service

/-- All readings come from one monotone clock. `commit n` is the time at which the call with
`n` calls before it took effect; a request's next call begins after that. -/
structure Clocked (log : List Entry) (commit : Nat → Timestamp) : Prop where
  monotone : ∀ m n, m ≤ n → commit m ≤ commit n
  called : ∀ newer entry older, log = newer ++ entry :: older →
    entry.env.apiNow ≤ commit older.length ∧
    ∀ newer' earlier older', older = newer' ++ earlier :: older' → earlier.session = entry.session →
      commit older'.length ≤ entry.env.apiNow

/-- The older part of a clocked log is clocked. -/
theorem Clocked.older {newer older : List Entry} {commit : Nat → Timestamp}
    (clocked : Clocked (newer ++ older) commit) : Clocked older commit where
  monotone := clocked.monotone
  called newer' entry older' split := by
    refine clocked.called (newer ++ newer') entry older' ?_
    rw [split, List.append_assoc]

/-- Whatever a clocked log holds was called before its last call took effect. -/
theorem Clocked.bounded {last entry : Entry} {older : List Entry} {commit : Nat → Timestamp}
    (clocked : Clocked (last :: older) commit) (member : entry ∈ last :: older) :
    entry.env.apiNow ≤ commit older.length := by
  obtain ⟨newer,older',split⟩ := List.append_of_mem member
  have counted := congrArg List.length split
  simp only [List.length_cons, List.length_append] at counted
  exact Nat.le_trans (clocked.called newer entry older' split).1
    (clocked.monotone _ _ (by omega))

/-- A log whose calls take no time, at increasing times. -/
theorem clocked_of_instant {log : List Entry} {commit : Nat → Timestamp}
    (monotone : ∀ m n, m ≤ n → commit m ≤ commit n)
    (instant : log.map (fun entry => entry.env.apiNow) = (List.range log.length).reverse.map commit) :
    Clocked log commit where
  monotone := monotone
  called newer entry older split := by
    have size := congrArg List.length split
    rw [List.length_append, List.length_cons] at size
    have reading := congrArg (fun times : List Timestamp => times[newer.length]?) instant
    have position : log.length - 1 - newer.length = older.length := by omega
    have below : newer.length < (List.range log.length).length := by rw [List.length_range]; omega
    have inside : older.length < log.length := by omega
    simp only [List.getElem?_map] at reading
    rw [List.getElem?_reverse below, List.length_range, position, List.getElem?_range inside, split,
      List.getElem?_append_right (Nat.le_refl _), Nat.sub_self] at reading
    have exact_reading : entry.env.apiNow = commit older.length := Option.some.inj reading
    rw [exact_reading]
    refine ⟨Nat.le_refl _,?_⟩
    rintro newer' earlier older' rfl -
    refine monotone _ _ ?_
    rw [List.length_append, List.length_cons]
    omega

section Windows

variable {contract : Contract} {w : World} (reachable : Reachable contract w)

include reachable in
/-- An upload's window is counted from the call that inserted it. -/
theorem inserted_expiry {connection : Connection} {row : Row .upload}
    (member : row ∈ (w.store connection).table .upload) : ∃ entry ∈ w.log,
      Inserts contract connection row entry ∧
      row.state.expiresAt = entry.env.apiNow + hours uploadLifetimeHours := by
  obtain ⟨entry,logged,inserts⟩ := insertion reachable connection .upload row member
  refine ⟨entry,logged,inserts,?_⟩
  cases inserts.originates with
  | store guarded continues =>
    obtain ⟨-,expiry,-⟩ := continues.state
    exact expiry

include reachable in
/-- A copy was inserted by a request that had been told of the primary's row before. -/
theorem copied_after {copy : Row .upload} (member : copy ∈ (w.store .supabase).table .upload) :
    ∃ newer entry older, w.log = newer ++ entry :: older ∧
      copy.state.expiresAt = entry.env.apiNow + hours uploadLifetimeHours ∧
      ∃ newer' told older', older = newer' ++ told :: older' ∧ told.session = entry.session ∧
        ∃ row ∈ ((server contract).after told .primary).table .upload, row.id = copy.id := by
  obtain ⟨entry,logged,inserts,expiry⟩ := inserted_expiry reachable member
  obtain ⟨newer,older,split⟩ := List.append_of_mem logged
  obtain ⟨⟨earlier,arrival,next,begun,here,-,rest,-⟩,-⟩ :=
    Server.log_made reachable newer entry older split
  have asks := asked begun here
  cases inserts.originates with
  | @store i context body answer env before guarded continues =>
    have named := continues.id.trans (freshRow_id ..)
    cases asks with
    | complete request admitted asks => exact (asks.not_stored rfl).elim
    | create request admitted asks =>
      obtain ⟨same,⟨elsewhere,-⟩ | ⟨-,stored,rfl,history⟩⟩ := asks.stored rfl
      · cases elsewhere
      · cases same
        have told : _ ∈ earlier.history i := history ▸ List.mem_cons_self
        obtain ⟨first,there,own,exchange⟩ := (World.mem_history earlier).mp told
        obtain ⟨newer',older',split'⟩ := List.append_of_mem there
        refine ⟨newer,_,older,split,expiry,newer',first,older',rest.symm.trans split',own,?_⟩
        have sound := Server.log_sound begun first there
        obtain ⟨j,exchange',env',before'⟩ := first
        cases exchange
        obtain ⟨row,holds⟩ := store_holds sound.symm
        exact ⟨row,holds.member,holds.id.trans named.symm⟩

include reachable in
/-- The primary's window closes no later than the mirror's. -/
theorem expiry_order {commit : Nat → Timestamp} (clocked : Clocked w.log commit) {row copy : Row .upload}
    (member : row ∈ (w.store .primary).table .upload)
    (copied : copy ∈ (w.store .supabase).table .upload) (same : row.id = copy.id) :
    row.state.expiresAt ≤ copy.state.expiresAt := by
  obtain ⟨newer,entry,older,split,expiry,newer',told,older',split',own,first,there,named⟩ :=
    copied_after reachable copied
  have logged : told ∈ w.log := by rw [split, split']; simp
  -- the row as the request was told of it, and the call that had inserted it by then
  obtain ⟨-,later,reached,store,log⟩ := Server.log_made reachable (newer ++ entry :: newer') told older'
    (by rw [split, split', List.append_assoc, List.cons_append])
  rw [← store] at there
  obtain ⟨inserter,before,-,opened⟩ := inserted_expiry reached there
  have kept := after_retained reachable logged
  obtain ⟨row',member',continues⟩ := kept .primary .upload first (store ▸ there)
  obtain ⟨-,window,-⟩ := continues.state
  have equal : row' = row := Table.eq_of_id member' member (continues.id.trans (named.trans same.symm))
  rw [split] at clocked
  have begun := (clocked.called newer entry older rfl).2 newer' told older' split' own
  have ended : inserter.env.apiNow ≤ commit older'.length := by
    rw [log] at before
    have rest : Clocked (newer ++ entry :: (newer' ++ told :: older')) commit := split' ▸ clocked
    have rest' : Clocked ((newer ++ entry :: newer') ++ (told :: older')) commit := by
      rwa [List.append_assoc, List.cons_append]
    exact rest'.older.bounded before
  rw [expiry, ← equal, window, opened]
  exact Nat.add_le_add_right (Nat.le_trans ended begun) _

end Windows

/-- What the guards of the upload commands find unexpired in the primary is unexpired in the
mirror too. -/
theorem mirror_window {contract : Contract} {w : World} (reachable : Reachable contract w)
    {commit : Nat → Timestamp} (clocked : Clocked w.log commit) :
    ∀ row ∈ (w.store .primary).table .upload, ∀ copy ∈ (w.store .supabase).table .upload,
      row.id = copy.id → row.state.expiresAt ≤ copy.state.expiresAt ∧
        (∀ now id subject, row.isPending now id subject = true → now < copy.state.expiresAt) ∧
        (∀ now subject resume photoId, row.isVerifiedUpload now subject resume photoId = true →
          now < copy.state.expiresAt) := by
  intro row member copy copied same
  have order := expiry_order reachable clocked member copied same
  refine ⟨order,?_,?_⟩
  · intro now id subject pending
    simp only [Row.isPending, Bool.and_eq_true, decide_eq_true_eq] at pending
    exact Nat.lt_of_lt_of_le pending.1.2 order
  · intro now subject resume photoId verified
    simp only [Row.isVerifiedUpload, Bool.and_eq_true, decide_eq_true_eq] at verified
    exact Nat.lt_of_lt_of_le verified.1.2 order

def Sample.windows : List (Event Env Arrival) :=
  [.arrive (intent 1 .resume),.advance 0 (calm 10),.cancel 0,.arrive (intent 2 .resume),
    .advance 1 (calm 20),.advance 1 (calm 30)]

theorem mirror_window_retried :
    ∃ row ∈ ((outcome .sample Sample.windows).store .primary).table .upload,
      ∃ copy ∈ ((outcome .sample Sample.windows).store .supabase).table .upload,
        row.state.expiresAt = 10 + hours 2 ∧ copy.state.expiresAt = 30 + hours 2 ∧
        ∀ now id subject, row.isPending now id subject = true → now < copy.state.expiresAt := by
  have computed : possible .sample Sample.windows = true ∧
      (outcome .sample Sample.windows).log.map (fun entry => entry.env.apiNow) = [30,20,10] ∧
      (∃ row ∈ (((outcome .sample Sample.windows).store .primary).table .upload).rows,
        row.id = 1 ∧ row.state.expiresAt = 10 + hours 2) ∧
      ∃ copy ∈ (((outcome .sample Sample.windows).store .supabase).table .upload).rows,
        copy.id = 1 ∧ copy.state.expiresAt = 30 + hours 2 := by decide +kernel
  obtain ⟨ran,times,⟨row,member,id,expiry⟩,copy,copied,id',expiry'⟩ := computed
  have three : (outcome .sample Sample.windows).log.length = 3 := by
    rw [← List.length_map, times]
    rfl
  have clocked : Clocked (outcome .sample Sample.windows).log fun n => 10 * (n + 1) := by
    refine clocked_of_instant (fun m n below => Nat.mul_le_mul_left 10 (Nat.succ_le_succ below)) ?_
    rw [times, three]
    rfl
  exact ⟨row,member,copy,copied,expiry,expiry',
    (mirror_window (reachable_outcome ran) clocked row member copy copied (id.trans id'.symm)).2.1⟩

end IntakeApi
