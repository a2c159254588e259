import IntakeApi.Expiry

/-! Signed upload URLs: for which uploads the object storage is asked for one. An object
key belongs to one upload only, so that the row behind a URL can be named. -/
namespace IntakeApi

open Interaction Relational Transaction Service

section Uuid

def uuidDigits (id : Uuid) : List Char :=
  (List.range 32).map fun i => hexDigit (UInt8.ofNat (id.toNat / 16 ^ (31 - i) % 16))

theorem filter_digits (id : Uuid) (part : List Char) (sub : ∀ c ∈ part, c ∈ uuidDigits id) :
    part.filter (· ≠ '-') = part := by
  refine List.filter_eq_self.mpr fun c member => ?_
  obtain ⟨i,-,rfl⟩ := List.mem_map.mp (sub c member)
  have dash : isLowerHex '-' = false := by decide
  have hex := hexDigit_isLowerHex (UInt8.ofNat (id.toNat / 16 ^ (31 - i) % 16))
  rw [decide_eq_true_eq]
  intro equal
  rw [equal, dash] at hex
  cases hex

theorem uuidChars_digits (id : Uuid) : (uuidChars id).filter (· ≠ '-') = uuidDigits id := by
  have whole : uuidChars id = (uuidDigits id).take 8 ++ '-' :: ((uuidDigits id).drop 8).take 4 ++
      '-' :: ((uuidDigits id).drop 12).take 4 ++ '-' :: ((uuidDigits id).drop 16).take 4 ++
      '-' :: (uuidDigits id).drop 20 := rfl
  have taken (n m : Nat) : (((uuidDigits id).drop n).take m).filter (· ≠ '-') = ((uuidDigits id).drop n).take m :=
    filter_digits id _ fun c member => List.mem_of_mem_drop (List.mem_of_mem_take member)
  have first : ((uuidDigits id).take 8).filter (· ≠ '-') = (uuidDigits id).take 8 :=
    filter_digits id _ fun c member => List.mem_of_mem_take member
  have last : ((uuidDigits id).drop 20).filter (· ≠ '-') = (uuidDigits id).drop 20 :=
    filter_digits id _ fun c member => List.mem_of_mem_drop member
  have joined (n m : Nat) : ((uuidDigits id).drop n).take m ++ (uuidDigits id).drop (n + m) =
      (uuidDigits id).drop n := by
    rw [← List.drop_drop, List.take_append_drop]
  rw [whole]
  simp only [List.filter_append, List.filter_cons, taken, first, last, ne_eq, not_true_eq_false,
    decide_false, Bool.false_eq_true, if_false, List.append_assoc]
  rw [joined 16 4, joined 12 4, joined 8 4, List.take_append_drop]

theorem hexDigit_injective : ∀ a < 16, ∀ b < 16,
    hexDigit (UInt8.ofNat a) = hexDigit (UInt8.ofNat b) → a = b := by decide

theorem mod_eq_of_digits {a b : Nat} (k : Nat) (same : ∀ j < k, a / 16 ^ j % 16 = b / 16 ^ j % 16) :
    a % 16 ^ k = b % 16 ^ k := by
  induction k with
  | zero => rw [Nat.pow_zero, Nat.mod_one, Nat.mod_one]
  | succ k ih =>
    rw [Nat.mod_pow_succ, Nat.mod_pow_succ, ih fun j below => same j (Nat.lt_succ_of_lt below),
      same k (Nat.lt_succ_self k)]

theorem uuidChars_injective {a b : Uuid} (same : uuidChars a = uuidChars b) : a = b := by
  have digits : uuidDigits a = uuidDigits b := by rw [← uuidChars_digits, same, uuidChars_digits]
  have nibbles : ∀ j < 32, a.toNat / 16 ^ j % 16 = b.toNat / 16 ^ j % 16 := by
    intro j below
    have equal := List.map_inj_left.mp digits (31 - j) (List.mem_range.mpr (by omega))
    rw [Nat.sub_sub_self (by omega)] at equal
    exact hexDigit_injective _ (Nat.mod_lt _ (by decide)) _ (Nat.mod_lt _ (by decide)) equal
  have size : 2 ^ 128 = 16 ^ 32 := by decide
  have whole := mod_eq_of_digits 32 nibbles
  rw [← size, Nat.mod_eq_of_lt a.isLt, Nat.mod_eq_of_lt b.isLt] at whole
  exact BitVec.eq_of_toNat_eq whole

theorem uploadObjectKey_id {kind other : UploadKind} {a b : Uuid} {sha256 sha256' : String}
    (same : uploadObjectKey kind a sha256 = uploadObjectKey other b sha256') : a = b := by
  have kinds := uploadObjectKey_kind same
  subst kinds
  have chars := congrArg String.toList same
  rw [uploadObjectKey_toList, uploadObjectKey_toList] at chars
  have named := (List.cons.inj (List.append_cancel_left chars)).2
  have numbered := (List.cons.inj (List.append_cancel_left named)).2
  exact uuidChars_injective (List.append_inj_left numbered (by rw [uuidChars_length, uuidChars_length]))

end Uuid

section Signed

variable {contract : Contract} {w : World} (reachable : Reachable contract w)

include reachable in
theorem objectKey_unique {connection : Connection} {row other : Row .upload}
    (member : row ∈ (w.store connection).table .upload)
    (there : other ∈ (w.store connection).table .upload)
    (same : row.state.objectKey = other.state.objectKey) : row = other := by
  rw [written_objectKey reachable member, written_objectKey reachable there] at same
  exact Table.eq_of_id member there (uploadObjectKey_id same)

/-- What an intent's primary store call finds under its key is neither verified nor
expired; where it finds nothing, the API's clock is not two hours behind the database's. -/
structure Issuable (first : Entry) (context : SubmissionContext) : Prop where
  found : ∀ row ∈ (first.before .primary).table .upload, row.idempotencyKey = context.idempotencyKey →
    row.state.status ≠ .verified ∧ first.env.databaseNow < row.state.expiresAt
  fresh : (∀ row ∈ (first.before .primary).table .upload, row.idempotencyKey ≠ context.idempotencyKey) →
    first.env.databaseNow < first.env.apiNow + hours uploadLifetimeHours

def Database.Awaits (db : Database) (now : Timestamp) (objectKey : String) : Prop :=
  ∃ row ∈ db.table .upload, row.state.objectKey = objectKey ∧
    (∀ other ∈ db.table .upload, other.state.objectKey = objectKey → other = row) ∧
    row.state.status = .pending ∧ now < row.state.expiresAt

include reachable in
/-- The upload that a successful intent was told of, right after it. -/
theorem told_awaits {first : Entry} (logged : first ∈ w.log) {context : SubmissionContext}
    {body : Create .upload} {stored : StoredUpload}
    (told : first.exchange = ⟨primaryLeg .upload context body,.ok stored⟩) :
    ((server contract).after first .primary).Awaits first.env.databaseNow stored.objectKey ↔
      Issuable first context := by
  obtain ⟨later,there,same⟩ := Server.log_reached reachable first logged
  have unique {row other : Row .upload}
      (member : row ∈ ((server contract).after first .primary).table .upload)
      (member' : other ∈ ((server contract).after first .primary).table .upload)
      (keys : row.state.objectKey = other.state.objectKey) : row = other := by
    rw [← same] at member member'
    exact objectKey_unique there member member' keys
  obtain ⟨earlier,begun,equal⟩ := Server.log_reachable reachable first logged
  have status {row : Row .upload} (member : row ∈ (first.before .primary).table .upload) :
      row.state.status = .pending ↔ row.state.status ≠ .verified := by
    rw [← equal] at member
    rcases upload_status begun .primary row member with pending | verified
    · simp [pending]
    · simp [verified]
  have sound := Server.log_sound reachable first logged
  obtain ⟨i,exchange,env,before⟩ := first
  cases told
  obtain ⟨db,performed,changed⟩ := respond_ok sound.symm
  have after : (server contract).after ⟨i,⟨primaryLeg .upload context body,.ok stored⟩,env,before⟩
      .primary = db := by
    change (respond contract env (primaryLeg .upload context body) before).2 .primary = db
    rw [primaryLeg, changed, Function.update_self]
  rw [after] at unique ⊢
  obtain ⟨-,row,replayed,reported,settled⟩ := store_performed performed
  have named : stored.objectKey = row.state.objectKey := congrArg StoredUpload.objectKey reported
  rw [named]
  rcases settled with ⟨-,rfl,member,key,-⟩ | ⟨-,rfl,inserted⟩
  · constructor
    · rintro ⟨other,member',keys,-,pending,unexpired⟩
      have equal := unique member' member keys
      subst equal
      refine ⟨fun found here keyed => ?_,fun free => (free other member key).elim⟩
      have equal := Table.eq_of_key here member (keyed.trans key.symm)
      subst equal
      exact ⟨(status member).mp pending,unexpired⟩
    · intro issuable
      obtain ⟨unverified,unexpired⟩ := issuable.found row member key
      exact ⟨row,member,rfl,fun other member' keys => unique member' member keys,
        (status member).mpr unverified,unexpired⟩
  · have here : freshRow .primary context env.apiNow env.databaseNow body ∈ db.table .upload :=
      (inserted.here _).mpr (.inl rfl)
    constructor
    · rintro ⟨other,member',keys,-,pending,unexpired⟩
      have equal := unique member' here keys
      subst equal
      exact ⟨fun found member keyed => (inserted.absent found member keyed).elim,fun _ => unexpired⟩
    · intro issuable
      exact ⟨_,here,rfl,fun other member' keys => unique member' here keys,rfl,
        issuable.fresh inserted.absent⟩

end Signed

/-- A signed upload URL is asked for on behalf of an upload that was waiting for its object
at the intent's primary store call just where that call found no verified and no expired
upload under its key. -/
theorem signed_uploads {contract : Contract} {w : World} (reachable : Reachable contract w) {entry : Entry}
    (logged : entry ∈ w.log) {objectKey : String}
    (called : entry.exchange.1 = .createSignedUploadUrl objectKey) :
    ∃ first ∈ w.log, first.session = entry.session ∧
      ∃ (context : SubmissionContext) (body : Create .upload) (stored : StoredUpload),
        first.exchange = ⟨primaryLeg .upload context body,.ok stored⟩ ∧ stored.objectKey = objectKey ∧
        (((server contract).after first .primary).Awaits first.env.databaseNow objectKey ↔
          Issuable first context) := by
  obtain ⟨context,body,stored,rfl,told⟩ := signed_told reachable logged called
  obtain ⟨first,there,own,exchange⟩ := (World.mem_history w).mp told
  exact ⟨first,there,own,context,body,stored,exchange,rfl,told_awaits reachable there exchange⟩

namespace Sample

/-- The intent of a completed upload is sent once more. -/
def reissued : List (Event Env Arrival) :=
  completed ++ [.arrive (intent 5 .resume),.advance 2 (calm 20),.advance 2 (calm 21),.advance 2 (calm 22),
    .advance 2 { calm 23 with signedUrl := .ok "https://storage/again" },.reply 2]

def keyOf : Call → Option String
  | .persist _ (.store _ _ context _) => some context.idempotencyKey
  | _ => none

theorem reissued_possible : possible .sample reissued = true ∧
    (outcome .sample reissued).sessions[2]?.bind Session.reply? = some (.ok (.uploadIntent
      ⟨1,.resume,"https://storage/again",10 + hours 2,maxUploadBytes,allowedContentTypes .resume⟩)) ∧
    ∀ first ∈ (outcome .sample reissued).log, first.session = 2 →
      ∀ key ∈ keyOf first.exchange.1, key = "intake-key-000001" := by
  decide +kernel

theorem reissued_asked : ∃ entry ∈ (outcome .sample reissued).log, entry.session = 2 ∧
    ∃ objectKey, entry.exchange.1 = .createSignedUploadUrl objectKey := by
  obtain ⟨ran,left,-⟩ := reissued_possible
  have here : (outcome .sample reissued).sessions[2]? = some ⟨intent 5 .resume,_⟩ :=
    session_outcome ran rfl left
  have requested : Requested .sample (intent 5 .resume)
      (⟨upload .resume,some "proof-one"⟩ : Create .upload) (@context 5 .upload (upload .resume)) :=
    ⟨rfl,rfl⟩
  have issued : ∃ receipt, Creation.Ends .upload (@context 5 .upload (upload .resume)) _ _
      (.ok (.uploadIntent receipt)) := ⟨_,requested.ends (replied (reachable_outcome ran) here)⟩
  obtain ⟨receipt,ends⟩ := issued
  have asked : ∃ objectKey answer, (⟨.createSignedUploadUrl objectKey,answer⟩ : Exchange Call Call.Answer) ∈
      (outcome .sample reissued).history 2 := by
    generalize (outcome .sample reissued).history 2 = history at ends
    cases ends with
    | signed same => exact ⟨_,_,List.mem_cons_self⟩
  obtain ⟨objectKey,answer,signed⟩ := asked
  obtain ⟨entry,logged,own,called⟩ := (World.mem_history _).mp signed
  exact ⟨entry,logged,own,objectKey,by rw [called]⟩

/-- A URL is asked for again, and each call of that session finds the upload verified under its key. -/
theorem reissued_url : Reachable .sample (outcome .sample reissued) ∧
    ∃ entry ∈ (outcome .sample reissued).log, (∃ objectKey, entry.exchange.1 = .createSignedUploadUrl objectKey) ∧
      ∀ first ∈ (outcome .sample reissued).log, first.session = entry.session →
        (∀ key ∈ keyOf first.exchange.1, key = "intake-key-000001") ∧
        ∃ row ∈ (first.before .primary).table .upload, row.idempotencyKey = "intake-key-000001" ∧
          row.state.status = .verified := by
  obtain ⟨ran,-,keyed⟩ := reissued_possible
  obtain ⟨entry,logged,own,asked⟩ := reissued_asked
  refine ⟨reachable_outcome ran,entry,logged,asked,fun first there same => ⟨keyed first there (same.trans own),?_⟩⟩
  obtain ⟨reached,row,member,-,key,-,verified⟩ := completed_possible
  have arrived : (outcome .sample completed).sessions.length ≤ 2 :=
    Nat.le_of_eq (length_sessions_outcome reached)
  obtain ⟨row',member',continues⟩ := Server.arrived_since Stores.retains_refl Stores.retains_trans
    (respond_retains .sample) (handle_obeys .sample) (reachable_outcome reached) (run_outcome ran) arrived
    first there (same.trans own) .primary .upload row member
  obtain ⟨-,-,status,-⟩ := continues.state
  exact ⟨row',member',continues.idempotencyKey.trans key,status verified⟩

theorem unissuable_of_verified {first : Entry} {context : SubmissionContext} {body : Create .upload}
    {answer : (primaryLeg .upload context body).Answer}
    (told : first.exchange = ⟨primaryLeg .upload context body,answer⟩)
    (keyed : ∀ key ∈ keyOf first.exchange.1, key = "intake-key-000001")
    (verified : ∃ row ∈ (first.before .primary).table .upload, row.idempotencyKey = "intake-key-000001" ∧
      row.state.status = .verified) : ¬Issuable first context := by
  intro issuable
  obtain ⟨row,member,key,status⟩ := verified
  have same : context.idempotencyKey = "intake-key-000001" := keyed _ (by rw [told]; rfl)
  exact (issuable.found row member (key.trans same.symm)).1 status

end Sample

/-- At the entry that asked for the URL again, the upload waits for no object, and the primary store
call of its session had found it verified. -/
theorem signed_uploads_reissued : ∃ entry ∈ (outcome .sample Sample.reissued).log,
    ∃ first ∈ (outcome .sample Sample.reissued).log, ∃ (context : SubmissionContext)
      (body : Create .upload) (stored : StoredUpload),
      entry.exchange.1 = .createSignedUploadUrl stored.objectKey ∧ first.session = entry.session ∧
      first.exchange = ⟨primaryLeg .upload context body,.ok stored⟩ ∧ ¬Issuable first context ∧
      ¬((server .sample).after first .primary).Awaits first.env.databaseNow stored.objectKey := by
  obtain ⟨reachable,entry,logged,⟨objectKey,called⟩,facts⟩ := Sample.reissued_url
  obtain ⟨first,there,own,context,body,stored,told,rfl,iff⟩ := signed_uploads reachable logged called
  obtain ⟨keyed,verified⟩ := facts first there own
  have barred := Sample.unissuable_of_verified told keyed verified
  exact ⟨entry,logged,first,there,context,body,stored,called,own,told,barred,fun awaits => barred (iff.mp awaits)⟩

/-- An upload is verified, and its intent is given a new URL for the same object. -/
theorem signed_uploads_verified : ∃ entry ∈ (outcome .sample Sample.reissued).log,
    ∃ first ∈ (outcome .sample Sample.reissued).log, ∃ (context : SubmissionContext)
      (body : Create .upload) (stored : StoredUpload),
      entry.exchange.1 = .createSignedUploadUrl stored.objectKey ∧ first.session = entry.session ∧
      first.exchange = ⟨primaryLeg .upload context body,.ok stored⟩ ∧
      ¬((server .sample).after first .primary).Awaits first.env.databaseNow stored.objectKey := by
  obtain ⟨reachable,entry,logged,⟨objectKey,called⟩,facts⟩ := Sample.reissued_url
  obtain ⟨context,body,stored,rfl,told⟩ := signed_told reachable logged called
  obtain ⟨first,there,own,exchange⟩ := (World.mem_history _).mp told
  obtain ⟨keyed,verified⟩ := facts first there own
  refine ⟨entry,logged,first,there,context,body,stored,called,own,exchange,fun awaits => ?_⟩
  exact Sample.unissuable_of_verified exchange keyed verified ((told_awaits reachable there exchange).mp awaits)

end IntakeApi
