import IntakeApi.Changes

/-! The three updates row by row and item by item, and what all of them keep: the
rows and the items stay the same ones. -/
namespace IntakeApi

open Relational

theorem Row.setMirrorStatus_upload (status : MirrorStatus) (row : Row .upload) :
    row.setMirrorStatus status = row := rfl

/-- Two states of an outbox item: the same submission under the same digest. -/
structure OutboxItem.Same (old new : OutboxItem) : Prop where
  submissionKind : new.submissionKind = old.submissionKind
  submissionId : new.submissionId = old.submissionId
  payloadSha256 : new.payloadSha256 = old.payloadSha256

theorem OutboxItem.same_refl (item : OutboxItem) : item.Same item := ⟨rfl,rfl,rfl⟩

theorem OutboxItem.failed_unmirrored (item : OutboxItem) (now : Timestamp) (errorCode : String) :
    (item.failed now errorCode).mirrorStatus ≠ .mirrored := by
  simp only [OutboxItem.failed]
  split <;> decide

namespace Database

variable {db : Database} {kind k : StoredSubmissionKind} {id : Uuid} {digest errorCode : String}
variable {now : Timestamp}

theorem mirrored_outbox : (db.mirrored kind id digest).outbox =
    db.outbox.update (OutboxItem.matches kind id digest) OutboxItem.mirrored (fun _ => rfl) (fun _ => rfl) := by
  unfold mirrored
  split <;> rfl

theorem failed_outbox : (db.failed now kind id errorCode).outbox =
    db.outbox.update (OutboxItem.retries kind id) (OutboxItem.failed now errorCode) (fun _ => rfl)
      (fun _ => rfl) := by
  unfold failed
  split <;> rfl

/-- The item that an acknowledgement is about. -/
theorem acknowledged_item (acknowledged : db.acknowledges kind id digest = true) :
    ∃ item ∈ db.outbox, item.matches kind id digest = true := by
  simp only [acknowledges, Bool.and_eq_true, decide_eq_true_eq] at acknowledged
  exact Table.exists_of_count (by omega)

theorem retried_item (retried : db.retries kind id = true) : ∃ item ∈ db.outbox, item.retries kind id = true := by
  simp only [retries, Bool.and_eq_true, decide_eq_true_eq] at retried
  exact Table.exists_of_count (by omega)

section Chosen

variable {row : Row kind} {item : OutboxItem} (member : row ∈ db.table kind) (listed : item ∈ db.outbox)
variable (sort : item.submissionKind = kind) (named : item.submissionId = row.id)

include member listed sort named in
/-- Both updates of `mark_mirrored` match one row. -/
theorem acknowledges_row (hashed : item.payloadSha256 = row.payloadSha256) :
    db.acknowledges kind row.id row.payloadSha256 = true := by
  have rows : (db.table kind).count (Row.matches row.id row.payloadSha256) = 1 := by
    refine Table.count_eq_one member ?_ fun other chosen => other.matches_id chosen
    simp [Row.matches]
  have items : db.outbox.count (OutboxItem.matches kind row.id row.payloadSha256) = 1 := by
    refine Table.count_eq_one listed ?_ ?_
    · simp [OutboxItem.matches, sort, named, hashed]
    · intro other chosen
      obtain ⟨sort',named'⟩ := other.matches_names chosen
      exact Prod.ext (sort'.trans sort.symm) (named'.trans named.symm)
  simp only [acknowledges, rows, items, decide_true, Bool.or_true, Bool.and_self]

include member listed sort named in
/-- Both updates of `record_mirror_failure` match one row. -/
theorem retries_row (below : item.attempts < 100) : db.retries kind row.id = true := by
  have rows : (db.table kind).count (fun other => other.id = row.id) = 1 :=
    Table.count_eq_one member (decide_eq_true rfl) fun _ chosen => of_decide_eq_true chosen
  have items : db.outbox.count (OutboxItem.retries kind row.id) = 1 := by
    refine Table.count_eq_one listed ?_ ?_
    · simp [OutboxItem.retries, sort, named, below]
    · intro other chosen
      obtain ⟨sort',named'⟩ := other.retries_names chosen
      exact Prod.ext (sort'.trans sort.symm) (named'.trans named.symm)
  simp only [retries, rows, items, decide_true, Bool.or_true, Bool.and_self]

end Chosen

theorem mem_mirrored_outbox {item : OutboxItem} : item ∈ (db.mirrored kind id digest).outbox ↔
    ∃ old ∈ db.outbox, (if old.matches kind id digest then old.mirrored else old) = item := by
  rw [mirrored_outbox]
  exact Table.mem_update

theorem mem_failed_outbox {item : OutboxItem} : item ∈ (db.failed now kind id errorCode).outbox ↔
    ∃ old ∈ db.outbox, (if old.retries kind id then old.failed now errorCode else old) = item := by
  rw [failed_outbox]
  exact Table.mem_update

/-- An update of a mirror status, which uploads go without. -/
theorem mem_setMirrorStatus {selected : (k : StoredSubmissionKind) → Row k → Bool} {status : MirrorStatus}
    {row : Row k} : row ∈ (if kind = .upload then db else db.setTable kind ((db.table kind).update (selected kind)
        (Row.setMirrorStatus status) (fun _ => rfl) (fun _ => rfl))).table k ↔
    ∃ old ∈ db.table k, (if k = kind ∧ selected k old = true then old.setMirrorStatus status else old) = row := by
  by_cases upload : kind = .upload
  · subst upload
    simp only [if_true]
    constructor
    · intro member
      refine ⟨row,member,?_⟩
      split
      · next chosen => obtain ⟨rfl,-⟩ := chosen; rfl
      · rfl
    · rintro ⟨old,member,rfl⟩
      split
      · next chosen => obtain ⟨rfl,-⟩ := chosen; exact member
      · exact member
  · rw [if_neg upload]
    by_cases same : k = kind
    · subst same
      simp only [setTable_same, true_and]
      exact Table.mem_update
    · simp only [setTable_other db _ same, same, false_and, if_false, exists_eq_right]

theorem mem_mirrored_table {row : Row k} : row ∈ (db.mirrored kind id digest).table k ↔
    ∃ old ∈ db.table k,
      (if k = kind ∧ old.matches id digest = true then old.setMirrorStatus .mirrored else old) = row :=
  @mem_setMirrorStatus db kind k (fun _ => Row.matches id digest) .mirrored row

theorem mem_failed_table {row : Row k} : row ∈ (db.failed now kind id errorCode).table k ↔
    ∃ old ∈ db.table k,
      (if k = kind ∧ old.id = id then old.setMirrorStatus .retryableFailure else old) = row := by
  refine Iff.trans (@mem_setMirrorStatus db kind k (fun _ row => row.id = id) .retryableFailure row) ?_
  simp only [decide_eq_true_eq]

section Verify

variable {subject : Option String}

@[simp] theorem verifyUpload_outbox : (db.verifyUpload now id subject digest).outbox = db.outbox := rfl

theorem verifyUpload_other (other : k ≠ .upload) :
    (db.verifyUpload now id subject digest).table k = db.table k :=
  setTable_other db _ other

theorem mem_verifyUpload {row : Row .upload} :
    row ∈ (db.verifyUpload now id subject digest).table .upload ↔ ∃ old ∈ db.table .upload,
      (if old.isPending now id subject = true ∧ old.payload.sha256 = digest then old.verified now
        else old) = row := by
  simp only [verifyUpload, setTable_same]
  refine Table.mem_update.trans ?_
  simp only [Bool.and_eq_true, decide_eq_true_eq]

end Verify

/-- Rows and items only continue: none appears and none is lost. -/
structure Rewrites (old new : Database) : Prop where
  rows : ∀ kind, ∀ row ∈ new.table kind, ∃ before ∈ old.table kind, before.Continues row
  kept : old.Retains new
  items : ∀ item ∈ new.outbox, ∃ before ∈ old.outbox, before.Same item
  items_kept : ∀ item ∈ old.outbox, ∃ later ∈ new.outbox, item.Same later

theorem rewrites_refl (db : Database) : db.Rewrites db where
  rows _ row member := ⟨row,member,row.continues_refl⟩
  kept := db.retains_refl
  items item member := ⟨item,member,item.same_refl⟩
  items_kept item member := ⟨item,member,item.same_refl⟩

/-- Rows whose mirror status is set, and items that change but in their names. -/
theorem updates_rewrite {db' : Database} {status : MirrorStatus} {update : OutboxItem → OutboxItem}
    {chosen : (k : StoredSubmissionKind) → Row k → Prop} [∀ k row, Decidable (chosen k row)]
    {selected : OutboxItem → Bool}
    (tables : ∀ {k} {row : Row k}, row ∈ db'.table k ↔
      ∃ old ∈ db.table k, (if chosen k old then old.setMirrorStatus status else old) = row)
    (outbox : ∀ {item}, item ∈ db'.outbox ↔ ∃ old ∈ db.outbox, (if selected old then update old else old) = item)
    (same : ∀ item : OutboxItem, item.Same (update item)) : db.Rewrites db' where
  rows k row member := by
    obtain ⟨old,here,rfl⟩ := tables.mp member
    refine ⟨old,here,?_⟩
    split
    · exact old.setMirrorStatus_continues _
    · exact old.continues_refl
  kept k row member := by
    refine ⟨_,tables.mpr ⟨row,member,rfl⟩,?_⟩
    split
    · exact row.setMirrorStatus_continues _
    · exact row.continues_refl
  items item member := by
    obtain ⟨old,here,rfl⟩ := outbox.mp member
    refine ⟨old,here,?_⟩
    split
    · exact same old
    · exact old.same_refl
  items_kept item member := by
    refine ⟨_,outbox.mpr ⟨item,member,rfl⟩,?_⟩
    split
    · exact same item
    · exact item.same_refl

theorem mirrored_rewrites (db : Database) (kind : StoredSubmissionKind) (id : Uuid) (digest : String) :
    db.Rewrites (db.mirrored kind id digest) :=
  updates_rewrite mem_mirrored_table mem_mirrored_outbox fun _ => ⟨rfl,rfl,rfl⟩

theorem failed_rewrites (db : Database) (now : Timestamp) (kind : StoredSubmissionKind) (id : Uuid)
    (errorCode : String) : db.Rewrites (db.failed now kind id errorCode) :=
  updates_rewrite mem_failed_table mem_failed_outbox fun _ => ⟨rfl,rfl,rfl⟩

theorem verifyUpload_rewrites (db : Database) (now : Timestamp) (id : Uuid) (subject : Option String)
    (digest : String) : db.Rewrites (db.verifyUpload now id subject digest) where
  rows k row member := by
    by_cases upload : k = .upload
    · subst upload
      obtain ⟨old,here,rfl⟩ := mem_verifyUpload.mp member
      refine ⟨old,here,?_⟩
      split
      · exact old.verified_continues now
      · exact old.continues_refl
    · rw [verifyUpload_other upload] at member
      exact ⟨row,member,row.continues_refl⟩
  kept k row member := by
    by_cases upload : k = .upload
    · subst upload
      refine ⟨_,mem_verifyUpload.mpr ⟨row,member,rfl⟩,?_⟩
      split
      · exact row.verified_continues now
      · exact row.continues_refl
    · rw [verifyUpload_other upload]
      exact ⟨row,member,row.continues_refl⟩
  items item member := ⟨item,member,item.same_refl⟩
  items_kept item member := ⟨item,member,item.same_refl⟩

end Database
end IntakeApi
