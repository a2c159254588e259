import IntakeApi.Outbox
import IntakeApi.Library.Replica

/-! The two stores refine a primary with its mirror: a slot is a kind and an
idempotency key, an entry the id and the digest stored under it. -/
namespace IntakeApi

open Interaction Relational Service

abbrev Slot := StoredSubmissionKind × String
abbrev Held := Uuid × String

namespace Database

def held (db : Database) : Set (Slot × Held) :=
  {pair | ∃ kind, ∃ row ∈ db.table kind, pair = ((kind,row.idempotencyKey),(row.id,row.payloadSha256))}

def Attests (db : Database) (row : Row kind) : Prop :=
  row.mirrorStatus = some .mirrored ∨ ∃ item ∈ db.outbox, item.submissionKind = kind ∧
    item.submissionId = row.id ∧ item.mirrorStatus = .mirrored

def recorded (db : Database) : Set Slot :=
  {slot | ∃ kind, ∃ row ∈ db.table kind, db.Attests row ∧ slot = (kind,row.idempotencyKey)}

variable {db db' : Database} {kind k : StoredSubmissionKind}

theorem held_row {row : Row kind} (member : row ∈ db.table kind) :
    ((kind,row.idempotencyKey),(row.id,row.payloadSha256)) ∈ db.held := ⟨kind,row,member,rfl⟩

theorem recorded_row {row : Row kind} (member : row ∈ db.table kind) (attested : db.Attests row) :
    (kind,row.idempotencyKey) ∈ db.recorded := ⟨kind,row,member,attested,rfl⟩

theorem held_rewrites (rewrites : db.Rewrites db') : db'.held = db.held := by
  ext pair
  constructor
  · rintro ⟨k,row,member,rfl⟩
    obtain ⟨before,here,continues⟩ := rewrites.rows k row member
    rw [continues.idempotencyKey, continues.id, continues.payloadSha256]
    exact held_row here
  · rintro ⟨k,row,member,rfl⟩
    obtain ⟨later,here,continues⟩ := rewrites.kept k row member
    rw [← continues.idempotencyKey, ← continues.id, ← continues.payloadSha256]
    exact held_row here

section Inserted

variable {target : PersistenceTarget} {context : SubmissionContext} {now : Timestamp}
variable {fresh : Row kind}

theorem mem_inserted (inserted : Inserted target context now fresh db db') {row : Row k} :
    row ∈ db'.table k ↔ (⟨k,row⟩ : (kind : StoredSubmissionKind) × Row kind) = ⟨kind,fresh⟩ ∨
      row ∈ db.table k := by
  by_cases same : k = kind
  · subst same
    rw [inserted.here]
    simp
  · rw [inserted.elsewhere k same]
    simp [same]

theorem held_inserted (inserted : Inserted target context now fresh db db') :
    db'.held = insert ((kind,fresh.idempotencyKey),(fresh.id,fresh.payloadSha256)) db.held := by
  ext pair
  constructor
  · rintro ⟨k,row,member,rfl⟩
    rcases (mem_inserted inserted).mp member with equal | old
    · cases equal
      exact .inl rfl
    · exact .inr (held_row old)
  · rintro (rfl | ⟨k,row,member,rfl⟩)
    · exact held_row ((mem_inserted inserted).mpr (.inl rfl))
    · exact held_row ((mem_inserted inserted).mpr (.inr member))

theorem attests_inserted (inserted : Inserted .primary context now fresh db db') (row : Row k) :
    db'.Attests row ↔ db.Attests row := by
  refine or_congr Iff.rfl ⟨?_,?_⟩
  · rintro ⟨item,listed,sort,id,status⟩
    rcases (inserted.outbox item).mp listed with ⟨-,rfl⟩ | before
    · cases status
    · exact ⟨item,before,sort,id,status⟩
  · rintro ⟨item,listed,facts⟩
    exact ⟨item,(inserted.outbox item).mpr (.inr listed),facts⟩

theorem recorded_inserted (inserted : Inserted .primary context now fresh db db')
    (pending : fresh.mirrorStatus ≠ some .mirrored) : db'.recorded = db.recorded := by
  ext slot
  constructor
  · rintro ⟨k,row,member,attested,rfl⟩
    rw [attests_inserted inserted] at attested
    rcases (mem_inserted inserted).mp member with equal | old
    · cases equal
      rcases attested with status | ⟨item,listed,sort,id,-⟩
      · exact absurd status pending
      · exact absurd ⟨sort,id⟩ (inserted.item_free rfl item listed)
    · exact recorded_row old attested
  · rintro ⟨k,row,member,attested,rfl⟩
    exact recorded_row ((mem_inserted inserted).mpr (.inr member))
      ((attests_inserted inserted row).mpr attested)

end Inserted

section Mark

variable {id : Uuid} {digest : String}

theorem attests_mirrored {row : Row k} (attested : (db.mirrored kind id digest).Attests
    (if k = kind ∧ row.matches id digest = true then row.setMirrorStatus .mirrored else row)) :
    (k = kind ∧ row.id = id) ∨ db.Attests row := by
  rcases attested with status | ⟨item,listed,sort,itemId,status⟩
  · split at status
    · next chosen =>
      exact .inl ⟨chosen.1,row.matches_id chosen.2⟩
    · exact .inr (.inl status)
  · have sameId : (if k = kind ∧ row.matches id digest = true then row.setMirrorStatus .mirrored
        else row).id = row.id := by split <;> rfl
    rw [sameId] at itemId
    obtain ⟨before,listed',rfl⟩ := mem_mirrored_outbox.mp listed
    split at sort
    · next chosen =>
      rw [if_pos chosen] at itemId
      obtain ⟨sort',named⟩ := before.matches_names chosen
      exact .inl ⟨sort.symm.trans sort',itemId.symm.trans named⟩
    · next passed =>
      rw [if_neg passed] at itemId status
      exact .inr (.inr ⟨before,listed',sort,itemId,status⟩)

theorem mirrored_attests {row : Row k} (attested : db.Attests row) :
    (db.mirrored kind id digest).Attests
      (if k = kind ∧ row.matches id digest = true then row.setMirrorStatus .mirrored else row) := by
  rcases attested with status | ⟨item,listed,sort,itemId,status⟩
  · refine .inl ?_
    split
    · cases k <;> first | rfl | cases status
    · exact status
  · refine .inr ⟨_,mem_mirrored_outbox.mpr ⟨item,listed,rfl⟩,?_,?_,?_⟩
    · split <;> exact sort
    · split <;> split <;> exact itemId
    · split
      · rfl
      · exact status

theorem recorded_mirrored {row : Row kind} (member : row ∈ db.table kind) (named : row.id = id)
    (acknowledged : db.acknowledges kind id digest = true) :
    (db.mirrored kind id digest).recorded = insert (kind,row.idempotencyKey) db.recorded := by
  have keyed {k : StoredSubmissionKind} (old : Row k) :
      (if k = kind ∧ old.matches id digest = true then old.setMirrorStatus .mirrored
        else old).idempotencyKey = old.idempotencyKey := by split <;> rfl
  ext slot
  constructor
  · rintro ⟨k,later,member',attested,rfl⟩
    obtain ⟨old,here,rfl⟩ := mem_mirrored_table.mp member'
    rw [keyed]
    rcases attests_mirrored attested with ⟨rfl,same⟩ | attested
    · have equal : old = row := Table.eq_of_id here member (same.trans named.symm)
      exact .inl (by rw [equal])
    · exact .inr (recorded_row here attested)
  · rintro (rfl | ⟨k,old,here,attested,rfl⟩)
    · refine ⟨kind,_,mem_mirrored_table.mpr ⟨row,member,rfl⟩,.inr ?_,by rw [keyed]⟩
      obtain ⟨item,listed,chosen⟩ := acknowledged_item acknowledged
      obtain ⟨sort,submitted⟩ := item.matches_names chosen
      refine ⟨item.mirrored,mem_mirrored_outbox.mpr ⟨item,listed,if_pos chosen⟩,sort,?_,rfl⟩
      refine submitted.trans (named.symm.trans ?_)
      split <;> rfl
    · exact ⟨k,_,mem_mirrored_table.mpr ⟨old,here,rfl⟩,mirrored_attests attested,by rw [keyed]⟩

end Mark

theorem recorded_failed (now : Timestamp) (id : Uuid) (errorCode : String) :
    (db.failed now kind id errorCode).recorded ⊆ db.recorded := by
  rintro slot ⟨k,later,member,attested,rfl⟩
  obtain ⟨old,here,rfl⟩ := mem_failed_table.mp member
  refine ⟨k,old,here,?_,by split <;> rfl⟩
  rcases attested with status | ⟨item,listed,sort,itemId,status⟩
  · split at status
    · cases k <;> cases status
    · exact .inl status
  · obtain ⟨before,listed',rfl⟩ := mem_failed_outbox.mp listed
    refine .inr ⟨before,listed',?_,?_,?_⟩
    · split at sort <;> exact sort
    · split at itemId <;> split at itemId <;> exact itemId
    · split at status
      · simp only [OutboxItem.failed] at status
        split at status <;> cases status
      · exact status

theorem recorded_verifyUpload (now : Timestamp) (id : Uuid) (subject : Option String) (digest : String) :
    (db.verifyUpload now id subject digest).recorded ⊆ db.recorded := by
  rintro slot ⟨k,later,member,attested,rfl⟩
  by_cases upload : k = .upload
  · subst upload
    obtain ⟨old,here,rfl⟩ := mem_verifyUpload.mp member
    refine ⟨.upload,old,here,?_,by split <;> rfl⟩
    rcases attested with status | ⟨item,listed,sort,itemId,status⟩
    · cases status
    · refine .inr ⟨item,listed,sort,?_,status⟩
      split at itemId <;> exact itemId
  · rw [verifyUpload_other upload] at member
    exact ⟨k,later,member,attested,rfl⟩

theorem held_empty : empty.held = ∅ := by
  ext pair
  constructor
  · rintro ⟨k,row,member,-⟩
    exact (Table.not_mem_empty row member).elim
  · exact False.elim

theorem recorded_empty : empty.recorded = ∅ := by
  ext slot
  constructor
  · rintro ⟨k,row,member,-⟩
    exact (Table.not_mem_empty row member).elim
  · exact False.elim

end Database

/-- The abstract state of the two stores. -/
def view (stores : Stores) : Replica.State Slot Held :=
  ⟨(stores .primary).held,(stores .supabase).held,(stores .primary).recorded⟩

theorem view_primary (stores : Stores) (db : Database) :
    view (Function.update stores .primary db) = ⟨db.held,(stores .supabase).held,db.recorded⟩ := by
  have distinct : Connection.supabase ≠ .primary := by decide
  simp only [view, Function.update_self, Function.update_of_ne distinct]

theorem view_supabase (stores : Stores) (db : Database) :
    view (Function.update stores .supabase db) =
      ⟨(stores .primary).held,db.held,(stores .primary).recorded⟩ := by
  have distinct : Connection.primary ≠ .supabase := by decide
  simp only [view, Function.update_self, Function.update_of_ne distinct]

theorem Holds.held {db : Database} {kind : StoredSubmissionKind} {context : SubmissionContext}
    {stored : Stored kind} {row : Row kind} (holds : Holds db kind context stored row) :
    ((kind,context.idempotencyKey),(stored.id,context.payloadSha256)) ∈ db.held := by
  rw [← holds.idempotencyKey, ← holds.id, ← holds.payloadSha256]
  exact Database.held_row holds.member

/-- Every change of the stores is a step of the abstract pair. -/
theorem change_refines {contract : Contract} {w : World} {i : Nat} {arrival : Arrival} {env : Env}
    {call : Call} {stores : Stores} (reachable : Reachable contract w)
    (change : Change contract env arrival (w.history i) w.store call stores) :
    Replica.Step (view w.store) (view stores) := by
  cases change with
  | @accept kind body context db requested followed guarded inserted =>
    rw [view_primary]
    refine .accept (kind,_) _ ?_ (Database.held_inserted inserted) rfl
      (Database.recorded_inserted inserted ?_)
    · rintro other ⟨k,row,member,equal⟩
      injection equal with slots
      injection slots with kinds keys
      subst kinds
      exact inserted.absent row member (keys.symm.trans (freshRow_idempotencyKey ..))
    · cases kind <;> simp [freshRow, Row.mirrorStatus, preInterestValues, applicationValues,
        referralValues, PersistenceTarget.mirrorStatus]
  | @copy kind body context stored db requested followed guarded inserted =>
    rw [view_supabase]
    have told : (⟨primaryLeg kind context body,.ok stored⟩ : Exchange Call Call.Answer) ∈ w.history i := by
      rw [followed]; exact List.mem_cons_self
    obtain ⟨row,holds⟩ := stored_row reachable told
    refine .copy (kind,_) _ ?_ rfl (Database.held_inserted inserted) rfl
    rw [freshRow_idempotencyKey, freshRow_id, freshRow_payloadSha256]
    exact holds.held
  | @mark kind body context stored other requested same followed acknowledged =>
    rw [view_primary]
    have told : (⟨primaryLeg kind context body,.ok stored⟩ : Exchange Call Call.Answer) ∈ w.history i := by
      rw [followed]; exact List.mem_cons_of_mem _ List.mem_cons_self
    have copied : (⟨mirrorLeg kind context body stored.id,.ok other⟩ : Exchange Call Call.Answer) ∈
        w.history i := by
      rw [followed]; exact List.mem_cons_self
    obtain ⟨row,holds⟩ := stored_row reachable told
    obtain ⟨copy,holds'⟩ := stored_row reachable copied
    refine .record (kind,context.idempotencyKey) _ holds'.held
      (Database.held_rewrites (Database.mirrored_rewrites ..)) rfl ?_
    rw [Database.recorded_mirrored holds.member holds.id acknowledged, holds.idempotencyKey]
    rfl
  | fail requested followed retried =>
    rw [view_primary]
    exact .withdraw (Database.held_rewrites (Database.failed_rewrites ..)) rfl
      (Database.recorded_failed ..)
  | @verify connection id subject body completing asks =>
    have kept := Database.held_rewrites (Database.verifyUpload_rewrites (w.store connection)
      env.databaseNow id (subject.map VerifiedSubject.value) body.sha256)
    cases connection with
    | primary =>
      rw [view_primary]
      exact .withdraw kept rfl (Database.recorded_verifyUpload ..)
    | supabase =>
      rw [view_supabase]
      exact .withdraw rfl kept (fun _ member => member)

/-- The stores stay a primary with its mirror, in every reachable state. -/
theorem coherent {contract : Contract} {w : World} (reachable : Reachable contract w) :
    Replica.Coherent (view w.store) := by
  apply @store_invariant _ _ (fun stores => Replica.Coherent (view stores)) reachable
  · have nothing : view .empty = ⟨∅,∅,∅⟩ := by
      simp only [view, Stores.empty, Database.held_empty, Database.recorded_empty]
    rw [nothing]
    exact Replica.coherent_empty
  · intro w i arrival env call stores before change holds
    exact (change_refines before change).coherent holds

end IntakeApi
