import IntakeApi.Replay

/-! The upload gate of applications: one verified upload of each kind, owned by the
caller and not expired, in the store that is asked. -/
namespace IntakeApi

open Interaction Relational Transaction Service

def Database.HoldsVerified (db : Database) (now : Timestamp) (subject : Option String) (kind : UploadKind)
    (id : Uuid) : Prop :=
  ∃ row ∈ db.table .upload, row.id = id ∧ row.payload.kind = kind ∧ row.subject = subject ∧
    row.state.status = .verified ∧ now < row.state.expiresAt

/-- The uploads that the gate has seen are retained. -/
theorem Database.HoldsVerified.later {db later : Database} {now : Timestamp} {subject : Option String}
    {kind : UploadKind} {id : Uuid} (held : db.HoldsVerified now subject kind id)
    (kept : db.Retains later) : later.HoldsVerified now subject kind id := by
  obtain ⟨old,member,named,sort,owner,verified,unexpired⟩ := held
  obtain ⟨row,here,continues⟩ := kept .upload old member
  obtain ⟨-,expiry,status,-⟩ := continues.state
  exact ⟨row,here,continues.id.trans named,by rw [continues.payload, sort],continues.subject.trans owner,
    status verified,by rwa [expiry]⟩

section Gate

variable {db : Database} {now : Timestamp} {subject : Option String} {resume photoId : Uuid}

/-- The half of the gate's condition that is about one of the two uploads. -/
def Row.isVerifiedAs (now : Timestamp) (subject : Option String) (kind : UploadKind) (id : Uuid)
    (row : Row .upload) : Bool :=
  row.subject = subject && row.state.status = .verified && now < row.state.expiresAt &&
    (row.id = id && row.payload.kind = kind)

theorem isVerifiedAs_iff {kind : UploadKind} {id : Uuid} {row : Row .upload} :
    row.isVerifiedAs now subject kind id = true ↔ row.id = id ∧ row.payload.kind = kind ∧
      row.subject = subject ∧ row.state.status = .verified ∧ now < row.state.expiresAt := by
  simp only [Row.isVerifiedAs, Bool.and_eq_true, decide_eq_true_eq]
  tauto

theorem count_isVerifiedAs {kind : UploadKind} {id : Uuid} :
    (db.table .upload).count (Row.isVerifiedAs now subject kind id) = 1 ↔
      db.HoldsVerified now subject kind id := by
  constructor
  · intro one
    have positive : 0 < (db.table .upload).count (Row.isVerifiedAs now subject kind id) := by omega
    obtain ⟨row,member,chosen⟩ := Table.exists_of_count positive
    exact ⟨row,member,isVerifiedAs_iff.mp chosen⟩
  · rintro ⟨row,member,facts⟩
    refine Table.count_eq_one member (isVerifiedAs_iff.mpr facts) ?_
    intro other chosen
    exact (isVerifiedAs_iff.mp chosen).1.trans facts.1.symm

theorem gate_open : (db.table .upload).count (Row.isVerifiedUpload now subject resume photoId) = 2 ↔
    db.HoldsVerified now subject .resume resume ∧ db.HoldsVerified now subject .photoId photoId := by
  have split : (db.table .upload).count (Row.isVerifiedUpload now subject resume photoId) =
      (db.table .upload).count (Row.isVerifiedAs now subject .resume resume) +
        (db.table .upload).count (Row.isVerifiedAs now subject .photoId photoId) := by
    rw [← Table.count_or]
    · congr 1
      funext row
      simp only [Row.isVerifiedUpload, Row.isVerifiedAs, Bool.and_or_distrib_left]
    · intro row chosen
      have kind := (isVerifiedAs_iff.mp chosen).2.1
      simp [Row.isVerifiedAs, kind]
  have resumes : (db.table .upload).count (Row.isVerifiedAs now subject .resume resume) ≤ 1 :=
    Table.count_le_one resume fun row chosen => (isVerifiedAs_iff.mp chosen).1
  have photos : (db.table .upload).count (Row.isVerifiedAs now subject .photoId photoId) ≤ 1 :=
    Table.count_le_one photoId fun row chosen => (isVerifiedAs_iff.mp chosen).1
  rw [split, ← count_isVerifiedAs, ← count_isVerifiedAs]
  omega

end Gate

/-- What an application passes before its insert-or-replay. -/
theorem application_guard {contract : Contract} {context : SubmissionContext} {now : Timestamp}
    {body : Create .application} {db : Database} (valid : contract.validate body = true) :
    storeGuard contract context now body db = .ok () ↔
      db.HoldsVerified now context.subjectColumn .resume body.input.resumeUploadId ∧
        db.HoldsVerified now context.subjectColumn .photoId body.input.photoIdUploadId := by
  have occupancy := contract.room_occupancy body valid
  rw [← gate_open]
  simp only [storeGuard, valid, occupancy, if_true]
  split
  · next passed => exact ⟨fun _ => passed,fun _ => rfl⟩
  · next failed => exact iff_of_false (by intro equal; cases equal) failed

theorem application_guarded {contract : Contract} {context : SubmissionContext} {now : Timestamp}
    {body : Create .application} {db : Database}
    (guarded : storeGuard contract context now body db = .ok ()) :
    db.HoldsVerified now context.subjectColumn .resume body.input.resumeUploadId ∧
      db.HoldsVerified now context.subjectColumn .photoId body.input.photoIdUploadId := by
  refine (application_guard ?_).mp guarded
  simp only [storeGuard] at guarded
  split at guarded
  · assumption
  · cases guarded

end IntakeApi
