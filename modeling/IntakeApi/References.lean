import IntakeApi.Verification

/-! Applications refer to verified uploads of their own owner, in each store by itself:
the gate saw both when the row was inserted, and nothing that it saw goes away. -/
namespace IntakeApi

open Interaction Relational Transaction Service

structure Row.Serves (upload : Row .upload) (kind : UploadKind) (id : Uuid) (row : Row .application) :
    Prop where
  id : upload.id = id
  kind : upload.payload.kind = kind
  verified : upload.state.status = .verified
  subject : upload.subject = row.subject

section Inserted

variable {contract : Contract} {w : World} (reachable : Reachable contract w)
variable {connection : Connection} {row : Row .application} {entry : Entry}

include reachable in
/-- What the gate saw when it let a row in, as the store holds it now. -/
theorem inserted_uploads (logged : entry ∈ w.log) (inserts : Inserts contract connection row entry) :
    (w.store connection).HoldsVerified entry.env.databaseNow row.subject .resume
        row.payload.resumeUploadId ∧
      (w.store connection).HoldsVerified entry.env.databaseNow row.subject .photoId
        row.payload.photoIdUploadId := by
  have held := before_retained reachable logged
  cases inserts.originates with
  | @store i context body answer env before guarded continues =>
    obtain ⟨resume,photoId⟩ := application_guarded guarded
    rw [continues.payload, continues.subject, freshRow_subject _ _ _ _ guarded]
    exact ⟨resume.later (held connection),photoId.later (held connection)⟩

end Inserted

/-- An application refers to two verified uploads of its owner, one of each kind, that were
not expired when it was inserted. -/
theorem application_references {contract : Contract} {w : World} (reachable : Reachable contract w)
    (connection : Connection) :
    ∀ row ∈ (w.store connection).table .application,
      ∃ resume ∈ (w.store connection).table .upload, ∃ photoId ∈ (w.store connection).table .upload,
        resume.id ≠ photoId.id ∧ resume.Serves .resume row.payload.resumeUploadId row ∧
        photoId.Serves .photoId row.payload.photoIdUploadId row ∧
        ∃ entry ∈ w.log, Inserts contract connection row entry ∧
          entry.env.databaseNow < resume.state.expiresAt ∧
          entry.env.databaseNow < photoId.state.expiresAt := by
  intro row member
  obtain ⟨entry,logged,inserts⟩ := insertion reachable connection .application row member
  obtain ⟨⟨resume,there,id,kind,owner,verified,unexpired⟩,⟨photoId,there',id',kind',owner',verified',unexpired'⟩⟩ :=
    inserted_uploads reachable logged inserts
  refine ⟨resume,there,photoId,there',?_,⟨id,kind,verified,owner⟩,⟨id',kind',verified',owner'⟩,
    entry,logged,inserts,unexpired,unexpired'⟩
  intro same
  have equal : resume = photoId := Table.eq_of_id there there' same
  rw [equal, kind'] at kind
  cases kind

namespace Sample

def applying (canonicalId : Uuid) : Arrival :=
  arrival none canonicalId (.create .application ⟨application,some "proof-one"⟩) "hhaus.org"

/-- The two uploads an application needs, stored by both intents and verified. -/
def documents : List (Event Env Arrival) :=
  [.arrive (intent 2 .resume),.advance 0 (calm 10),.advance 0 (calm 11),
    .arrive (keyed "intake-key-000002" (intent 3 .photoId)),.advance 1 (calm 12),.advance 1 (calm 13),
    .arrive (completion 2 .resume),.advance 2 (calm 14),.advance 2 (calm 15),
    .advance 2 { calm 16 with object := .ok (object .resume) },.advance 2 (calm 17),.advance 2 (calm 18),
    .arrive (completion 3 .photoId),.advance 3 (calm 19),.advance 3 (calm 20),
    .advance 3 { calm 21 with object := .ok (object .photoId) },.advance 3 (calm 22),.advance 3 (calm 23)]

def applied : List (Event Env Arrival) :=
  documents ++ [.arrive (applying 4),.advance 4 (calm 24),.advance 4 (calm 25)]

theorem applied_possible : possible .sample applied = true ∧
    ∀ connection ∈ [Connection.primary,.supabase],
      ∃ row ∈ (((outcome .sample applied).store connection).table .application).rows,
        row.id = 4 ∧ row.subject = none ∧ row.idempotencyKey = "intake-key-000001" ∧
          row.payloadSha256 = @Contract.canonicalDigest .sample .application application := by
  decide +kernel

end Sample

theorem application_references_applied :
    ∃ row ∈ ((outcome .sample Sample.applied).store .supabase).table .application,
      ∃ resume ∈ ((outcome .sample Sample.applied).store .supabase).table .upload,
        resume.Serves .resume row.payload.resumeUploadId row := by
  obtain ⟨ran,rows⟩ := Sample.applied_possible
  obtain ⟨row,member,-⟩ := rows .supabase (by decide)
  obtain ⟨resume,there,-,-,-,serves,-⟩ :=
    application_references (reachable_outcome ran) .supabase row member
  exact ⟨row,member,resume,there,serves⟩

end IntakeApi
