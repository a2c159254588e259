import IntakeApi.Mirror
import IntakeApi.Sample

/-! What an acknowledgement is worth: nothing is called mirrored that is not, and what
is not mirrored keeps its outbox item. -/
namespace IntakeApi

open Interaction Relational Service

def Database.HoldsCopy (db : Database) (row : Row kind) : Prop :=
  ∃ copy ∈ db.table kind, copy.id = row.id ∧ copy.idempotencyKey = row.idempotencyKey ∧
    copy.payloadSha256 = row.payloadSha256

theorem Database.holdsCopy_of_held {db : Database} {row : Row kind}
    (held : ((kind,row.idempotencyKey),(row.id,row.payloadSha256)) ∈ db.held) : db.HoldsCopy row := by
  obtain ⟨k,copy,member,equal⟩ := held
  injection equal with slots entries
  injection slots with kinds keys
  injection entries with ids digests
  subst kinds
  exact ⟨copy,member,ids.symm,keys.symm,digests.symm⟩

/-- Every row of the mirror is a copy of a row of the primary. -/
theorem copied_row {contract : Contract} {w : World} (reachable : Reachable contract w)
    {kind : StoredSubmissionKind} {copy : Row kind} (member : copy ∈ (w.store .supabase).table kind) :
    (w.store .primary).HoldsCopy copy :=
  Database.holdsCopy_of_held ((coherent reachable).copied (Database.held_row member))

/-- A row that is called mirrored has its copy. -/
theorem attested_row {contract : Contract} {w : World} (reachable : Reachable contract w)
    {kind : StoredSubmissionKind} {row : Row kind} (member : row ∈ (w.store .primary).table kind)
    (attested : (w.store .primary).Attests row) : (w.store .supabase).HoldsCopy row :=
  Database.holdsCopy_of_held ((coherent reachable).mirrored (Database.held_row member)
    (Database.recorded_row member attested))

section Receipts

variable {contract : Contract} {w : World} {i : Nat} {arrival : Arrival} {receipt : Receipt}

/-- What a handler was told before it sent a 201. -/
structure Acknowledged (contract : Contract) (w : World) (i : Nat) (arrival : Arrival)
    (receipt : Receipt) {kind : StoredSubmissionKind} (context : SubmissionContext) (body : Create kind)
    (stored : Stored kind) : Prop where
  requested : Requested contract arrival body context
  primary : (⟨primaryLeg kind context body,.ok stored⟩ : Exchange Call Call.Answer) ∈ w.history i
  mirror : ∃ other : Stored kind, other.id = stored.id ∧
    (⟨mirrorLeg kind context body stored.id,.ok other⟩ : Exchange Call Call.Answer) ∈ w.history i
  marked : (⟨markLeg kind context stored.id,.ok ()⟩ : Exchange Call Call.Answer) ∈ w.history i
  created : receipt.created = some (kind,stored.id)
  accepted : ∀ submission, receipt = .submission submission →
    submissionReceipt kind stored = some submission

theorem acknowledged (reachable : Reachable contract w)
    (here : w.sessions[i]? = some ⟨arrival,.replied (.ok receipt)⟩) {created : StoredSubmissionKind × Uuid}
    (named : receipt.created = some created) :
    ∃ (kind : StoredSubmissionKind) (context : SubmissionContext) (body : Create kind)
      (stored : Stored kind), Acknowledged contract w i arrival receipt context body stored := by
  generalize traced : w.history i = history
  have ends := replied reachable here
  rw [traced] at ends
  cases ends with
  | rejected _ failed => cases failed
  | @create kind body context request admitted ends =>
    generalize answered : (Except.ok receipt : Except ApiFailure Receipt) = result at ends
    cases ends with
    | refused => cases answered
    | unmirrored => cases answered
    | unmarked => cases answered
    | unsigned => cases answered
    | @accepted _ _ _ stored other submission same reported =>
      cases answered
      refine ⟨kind,context,body,stored,⟨request,admitted⟩,?_,⟨other,same,?_⟩,?_,?_,?_⟩
      · rw [traced]; simp
      · rw [traced]; simp
      · rw [traced]; simp
      · cases kind <;> cases reported <;> rfl
      · rintro _ ⟨⟩
        exact reported
    | @signed _ body stored other url same =>
      cases answered
      refine ⟨.upload,context,body,stored,⟨request,admitted⟩,?_,⟨other,same,?_⟩,?_,rfl,?_⟩
      · rw [traced]; simp
      · rw [traced]; simp
      · rw [traced]; simp
      · rintro _ ⟨⟩
  | complete request admitted ends =>
    generalize answered : (Except.ok receipt : Except ApiFailure Receipt) = result at ends
    cases ends with
    | stopped => cases answered
    | verified => cases answered; cases named

/-- The same with the kind and the id that the receipt names. -/
theorem acknowledged_as (reachable : Reachable contract w)
    (here : w.sessions[i]? = some ⟨arrival,.replied (.ok receipt)⟩) {kind : StoredSubmissionKind} {id : Uuid}
    (named : receipt.created = some (kind,id)) :
    ∃ (context : SubmissionContext) (body : Create kind) (stored : Stored kind),
      Acknowledged contract w i arrival receipt context body stored ∧ stored.id = id := by
  obtain ⟨kind',context,body,stored,told⟩ := acknowledged reachable here named
  have same := told.created.symm.trans named
  simp only [Option.some.injEq, Prod.mk.injEq] at same
  obtain ⟨rfl,rfl⟩ := same
  exact ⟨context,body,stored,told,rfl⟩

/-- A 201 is sent with both rows in place, under the request's own key and digest. -/
theorem Acknowledged.rows {kind : StoredSubmissionKind} {context : SubmissionContext}
    {body : Create kind} {stored : Stored kind}
    (told : Acknowledged contract w i arrival receipt context body stored)
    (reachable : Reachable contract w) (connection : Connection) :
    ∃ row ∈ (w.store connection).table kind, row.id = stored.id ∧
      row.idempotencyKey = context.idempotencyKey ∧ row.payloadSha256 = context.payloadSha256 := by
  cases connection with
  | primary =>
    obtain ⟨row,holds⟩ := stored_row reachable told.primary
    exact ⟨row,holds.member,holds.id,holds.idempotencyKey,holds.payloadSha256⟩
  | supabase =>
    obtain ⟨other,same,answered⟩ := told.mirror
    obtain ⟨row,holds⟩ := stored_row reachable answered
    exact ⟨row,holds.member,holds.id.trans same,holds.idempotencyKey,holds.payloadSha256⟩

end Receipts

/-- What is called mirrored is mirrored, and a 201 names a row that both stores hold. -/
theorem acknowledgement_sound {contract : Contract} {w : World} (reachable : Reachable contract w) :
    (∀ item ∈ (w.store .primary).outbox, item.mirrorStatus = .mirrored →
      ∃ row ∈ (w.store .primary).table item.submissionKind, row.id = item.submissionId ∧
        row.payloadSha256 = item.payloadSha256 ∧ (w.store .supabase).HoldsCopy row) ∧
    (∀ kind, ∀ row ∈ (w.store .primary).table kind, row.mirrorStatus = some .mirrored →
      (w.store .supabase).HoldsCopy row) ∧
    (∀ (i : Nat) (arrival : Arrival) (receipt : Receipt) (kind : StoredSubmissionKind) (id : Uuid),
      w.sessions[i]? = some ⟨arrival,.replied (.ok receipt)⟩ → receipt.created = some (kind,id) →
      ∃ (body : Create kind) (context : SubmissionContext), Requested contract arrival body context ∧
        ∀ connection, ∃ row ∈ (w.store connection).table kind, row.id = id ∧
          row.idempotencyKey = context.idempotencyKey ∧ row.payloadSha256 = context.payloadSha256) := by
  refine ⟨?_,?_,?_⟩
  · intro item listed status
    obtain ⟨row,member,id,digest⟩ := (outboxed reachable).1.owned item listed
    exact ⟨row,member,id,digest,
      attested_row reachable member (.inr ⟨item,listed,rfl,id.symm,status⟩)⟩
  · intro kind row member status
    exact attested_row reachable member (.inl status)
  · intro i arrival receipt kind id here created
    obtain ⟨context,body,stored,told,rfl⟩ := acknowledged_as reachable here created
    exact ⟨body,context,told.requested,told.rows reachable⟩

namespace Sample

/-- A pre-interest is stored, copied, marked and acknowledged. -/
def accepted : List (Event Env Arrival) :=
  [.arrive (anonymous 1),.advance 0 (calm 10),.advance 0 (calm 11),.advance 0 (calm 12),.reply 0]

/-- A pre-interest whose mirror is out of reach. -/
def unmirrored : List (Event Env Arrival) :=
  [.arrive (anonymous 1),.advance 0 (calm 10),
    .advance 0 { calm 11 with faults := ⟨some 1,.acknowledged⟩ },.advance 0 (calm 12),.reply 0]

theorem accepted_possible : possible .sample accepted = true := by decide +kernel

theorem accepted_sessions : (outcome .sample accepted).sessions =
    [⟨anonymous 1,.replied (.ok (.submission ⟨1,.preInterest,10,.stored,.stored⟩))⟩] := rfl

theorem accepted_replied : (outcome .sample accepted).sessions[0]? =
    some ⟨anonymous 1,.replied (.ok (.submission ⟨1,.preInterest,10,.stored,.stored⟩))⟩ := by
  rw [accepted_sessions, List.getElem?_cons_zero]

theorem unmirrored_possible : possible .sample unmirrored = true := by decide +kernel

end Sample

theorem acknowledgement_sound_accepted :
    (∀ row ∈ ((outcome .sample Sample.accepted).store .primary).table .preInterest,
      ((outcome .sample Sample.accepted).store .supabase).HoldsCopy row) ∧
    ∃ (body : Create .preInterest) (context : SubmissionContext),
      Requested .sample (Sample.anonymous 1) body context ∧
      ∀ connection, ∃ row ∈ ((outcome .sample Sample.accepted).store connection).table .preInterest,
        row.id = 1 ∧ row.idempotencyKey = context.idempotencyKey ∧
          row.payloadSha256 = context.payloadSha256 := by
  have sound := acknowledgement_sound (reachable_outcome Sample.accepted_possible)
  have statuses : ∀ row ∈ (((outcome .sample Sample.accepted).store .primary).table .preInterest).rows,
      row.mirrorStatus = some .mirrored := by
    decide +kernel
  refine ⟨fun row member => sound.2.1 _ row member (statuses row member),?_⟩
  exact sound.2.2 0 _ _ .preInterest 1 Sample.accepted_replied rfl

/-- Outbox items and canonical rows of the primary correspond one to one, the mirror has
none, and a row without its copy keeps an item that is not called mirrored. -/
theorem outbox_one_to_one {contract : Contract} {w : World} (reachable : Reachable contract w) :
    (∀ kind, ∀ row ∈ (w.store .primary).table kind, ∃ item ∈ (w.store .primary).outbox,
      (item.submissionKind = kind ∧ item.submissionId = row.id ∧
        item.payloadSha256 = row.payloadSha256) ∧
      ∀ other ∈ (w.store .primary).outbox, other.submissionKind = kind → other.submissionId = row.id →
        other = item) ∧
    (∀ item ∈ (w.store .primary).outbox, ∃ row ∈ (w.store .primary).table item.submissionKind,
      row.id = item.submissionId ∧ ∀ other ∈ (w.store .primary).table item.submissionKind,
        other.id = item.submissionId → other = row) ∧
    (∀ item, item ∉ (w.store .supabase).outbox) ∧
    (∀ kind, ∀ row ∈ (w.store .primary).table kind, ¬(w.store .supabase).HoldsCopy row →
      ∃ item ∈ (w.store .primary).outbox, item.submissionKind = kind ∧ item.submissionId = row.id ∧
        item.mirrorStatus ≠ .mirrored) := by
  obtain ⟨primary,mirror⟩ := outboxed reachable
  refine ⟨?_,?_,mirror,?_⟩
  · intro kind row member
    obtain ⟨item,listed,sort,id,digest⟩ := primary.covered kind row member
    refine ⟨item,listed,⟨sort,id,digest⟩,?_⟩
    intro other listed' sort' id'
    exact Outboxed.item_unique listed' listed (sort'.trans sort.symm) (id'.trans id.symm)
  · intro item listed
    obtain ⟨row,member,id,-⟩ := primary.owned item listed
    refine ⟨row,member,id,?_⟩
    intro other member' id'
    exact Table.eq_of_id member' member (id'.trans id.symm)
  · intro kind row member missing
    obtain ⟨item,listed,sort,id,-⟩ := primary.covered kind row member
    refine ⟨item,listed,sort,id,?_⟩
    intro status
    exact missing (attested_row reachable member (.inr ⟨item,listed,sort,id,status⟩))

theorem outbox_one_to_one_unmirrored :
    (∃ row ∈ ((outcome .sample Sample.unmirrored).store .primary).table .preInterest, row.id = 1) ∧
    ∀ row ∈ ((outcome .sample Sample.unmirrored).store .primary).table .preInterest,
      ∃ item ∈ ((outcome .sample Sample.unmirrored).store .primary).outbox,
        item.submissionKind = .preInterest ∧ item.submissionId = row.id ∧
          item.mirrorStatus ≠ .mirrored := by
  have whole := outbox_one_to_one (reachable_outcome Sample.unmirrored_possible)
  have stored : ∃ row ∈ (((outcome .sample Sample.unmirrored).store .primary).table .preInterest).rows,
      row.id = 1 := by decide +kernel
  have bare : (((outcome .sample Sample.unmirrored).store .supabase).table .preInterest).rows = [] := by
    rfl
  refine ⟨stored,fun row member => whole.2.2.2 _ row member ?_⟩
  rintro ⟨copy,member',-⟩
  have nowhere : copy ∈ (((outcome .sample Sample.unmirrored).store .supabase).table .preInterest).rows :=
    member'
  rw [bare] at nowhere
  cases nowhere

end IntakeApi
