import IntakeApi.Authentication
import IntakeApi.HandlerRules

/-! Two layers check what a submission is persisted under: the handlers on the headers, and the
context when it is built. Together they accept a key by the rule of the second, whatever the
first lets through. -/
namespace IntakeApi

/-- `[A-Za-z0-9_:.-]`. -/
def isKeyByte (byte : UInt8) : Bool :=
  (48 ≤ byte && byte ≤ 57) || (65 ≤ byte && byte ≤ 90) || (97 ≤ byte && byte ≤ 122) ||
    byte == 45 || byte == 46 || byte == 58 || byte == 95

def isIdempotencyChar (c : Char) : Bool :=
  isAlphanumeric c || c == '-' || c == '_' || c == ':' || c == '.'

section Keys

theorem isIdempotencyChar_byte : ∀ n < 128, isIdempotencyChar (Char.ofNat n) = isKeyByte (UInt8.ofNat n) := by
  decide +kernel

theorem isKeyByte_visible : ∀ n < 256, isKeyByte (UInt8.ofNat n) = true →
    isVisible (UInt8.ofNat n) = true ∧ isWhitespace (Char.ofNat n) = false ∧
      isControl (Char.ofNat n) = false := by
  decide +kernel

theorem isIdempotencyChar_charOfByte {byte : UInt8} (ascii : byte.toNat < 128) :
    isIdempotencyChar (Char.ofNat byte.toNat) = isKeyByte byte := by
  rw [isIdempotencyChar_byte _ ascii, UInt8.ofNat_toNat]

theorem isKeyByte_readable {byte : UInt8} (key : isKeyByte byte = true) :
    isVisible byte = true ∧ isWhitespace (Char.ofNat byte.toNat) = false ∧
      isControl (Char.ofNat byte.toNat) = false := by
  have checked := isKeyByte_visible byte.toNat byte.toNat_lt
  rw [UInt8.ofNat_toNat] at checked
  exact checked key

theorem isIdempotencyKey_iff {key : String} : isIdempotencyKey key = true ↔
    (16 ≤ byteLength key ∧ byteLength key ≤ 128) ∧ ∀ c ∈ key.toList, isIdempotencyChar c = true := by
  simp only [isIdempotencyKey, isIdempotencyChar, Bool.and_eq_true, decide_eq_true_eq, List.all_eq_true]

theorem isIdempotencyKey_visible {key : String} (valid : isIdempotencyKey key = true) :
    ∀ c ∈ key.toList, c.toNat < 128 ∧ isVisible (UInt8.ofNat c.toNat) = true := by
  intro c member
  have chosen := (isIdempotencyKey_iff.mp valid).2 c member
  have ascii : c.toNat < 128 := by
    simp only [isIdempotencyChar, Bool.or_eq_true, beq_iff_eq] at chosen
    rcases chosen with (((alphanumeric | rfl) | rfl) | rfl) | rfl
    · exact isAlphanumeric_ascii alphanumeric
    all_goals decide
  refine ⟨ascii,(isKeyByte_readable ?_).1⟩
  rw [← isIdempotencyChar_byte _ ascii, Char.ofNat_toNat]
  exact chosen

/-- The bytes of a header value and the key that they are read as. -/
theorem key_bytes {raw : List UInt8} {key : String} (readable : toStr raw = some key) :
    byteLength key = raw.length ∧
      ((∀ c ∈ key.toList, isIdempotencyChar c = true) ↔ ∀ byte ∈ raw, isKeyByte byte = true) := by
  obtain ⟨-,visible,chars⟩ := toStr_some readable
  have ascii (byte : UInt8) (member : byte ∈ raw) : byte.toNat < 128 := isVisible_ascii (visible byte member)
  refine ⟨?_,?_⟩
  · rw [byteLength_ascii, chars, List.length_map]
    intro c member
    rw [chars] at member
    obtain ⟨byte,there,rfl⟩ := List.mem_map.mp member
    exact utf8Size_ascii (by rw [toNat_charOfByte (ascii byte there)]; exact ascii byte there)
  · rw [chars]
    constructor
    · intro each byte member
      rw [← isIdempotencyChar_charOfByte (ascii byte member)]
      exact each _ (List.mem_map_of_mem member)
    · intro each c member
      obtain ⟨byte,there,rfl⟩ := List.mem_map.mp member
      rw [isIdempotencyChar_charOfByte (ascii byte there)]
      exact each byte there

structure HoldsKey (raw : List UInt8) : Prop where
  length : 16 ≤ raw.length ∧ raw.length ≤ 128
  bytes : ∀ byte ∈ raw, isKeyByte byte = true

theorem HoldsKey.readable {raw : List UInt8} (holds : HoldsKey raw) :
    ∃ key, toStr raw = some key ∧ isIdempotencyKey key = true ∧ key.toList.any isWhitespace = false ∧
      key.toList.any isControl = false := by
  have readable := toStr_visible fun byte member => (isKeyByte_readable (holds.bytes byte member)).1
  obtain ⟨size,chars⟩ := key_bytes readable
  refine ⟨_,readable,isIdempotencyKey_iff.mpr ⟨size ▸ holds.length,chars.mpr holds.bytes⟩,?_,?_⟩
  · refine List.any_eq_false.mpr fun c member => ?_
    rw [String.toList_ofList] at member
    obtain ⟨byte,there,rfl⟩ := List.mem_map.mp member
    simp [(isKeyByte_readable (holds.bytes byte there)).2.1]
  · refine List.any_eq_false.mpr fun c member => ?_
    rw [String.toList_ofList] at member
    obtain ⟨byte,there,rfl⟩ := List.mem_map.mp member
    simp [(isKeyByte_readable (holds.bytes byte there)).2.2]

theorem holdsKey_iff {raw : List UInt8} {key : String} (readable : toStr raw = some key) :
    isIdempotencyKey key = true ↔ HoldsKey raw := by
  obtain ⟨size,chars⟩ := key_bytes readable
  rw [isIdempotencyKey_iff, size, chars]
  exact ⟨fun ⟨length,bytes⟩ => ⟨length,bytes⟩,fun ⟨length,bytes⟩ => ⟨length,bytes⟩⟩

end Keys

section Layers

variable {admission : Admission} {key host : String}

theorem sourceHost_ok (settled : admission.sourceHost = .ok host) : Admission.isIntakeHost host = true := by
  unfold Admission.sourceHost at settled
  split at settled
  · cases settled
  split at settled
  · cases settled
  split at settled
  · cases settled
  split at settled
  · next named => cases settled; exact named
  · cases settled

theorem checkedKey_error {failure : ApiFailure} (failed : admission.checkedKey = .error failure) :
    failure = .invalid := by
  unfold Admission.checkedKey at failed
  split at failed
  · cases failed; rfl
  split at failed <;> cases failed
  rfl

/-- The hosts of the intake are hosts of a context, in lower case. -/
theorem isIntakeHost_isSourceHost (intake : Admission.isIntakeHost host = true) :
    toAsciiLowercase host = host ∧ isSourceHost host = true := by
  have listed : ∀ known ∈ ["hhaus.org","www.hhaus.org","user.hhaus.org","medellin.hhaus.org"],
      toAsciiLowercase known = known ∧ isSourceHost known = true := by decide
  exact listed host (List.contains_iff_mem.mp intake)

/-- The handlers let every key through that a context accepts. -/
theorem checkedKey_of_holdsKey {raw : List UInt8} (holds : HoldsKey raw)
    (named : admission.idempotencyKey = toStr raw) :
    ∃ key, toStr raw = some key ∧ isIdempotencyKey key = true ∧ admission.checkedKey = .ok key := by
  obtain ⟨key,readable,valid,unbroken,printable⟩ := holds.readable
  refine ⟨key,readable,valid,?_⟩
  obtain ⟨size,-⟩ := key_bytes readable
  have within : (decide (16 ≤ byteLength key) && decide (byteLength key ≤ 128)) = true := by
    rw [size, Bool.and_eq_true, decide_eq_true_eq, decide_eq_true_eq]
    exact holds.length
  simp only [Admission.checkedKey, named, readable, within, unbroken, printable, Bool.not_true,
    Bool.or_false, Bool.false_eq_true, if_false]

variable {canonicalId : Uuid} {subject : Option VerifiedSubject} {digest : String}

/-- A context refuses nothing but the key of what the handlers hand to it. -/
theorem new_of_settled (intake : Admission.isIntakeHost host = true) (hex : isDigest digest = true) :
    (∃ context, SubmissionContext.new canonicalId subject key digest host = .ok context) ∧
        isIdempotencyKey key = true ∨
      SubmissionContext.new canonicalId subject key digest host = .error (.invalidContext "idempotency_key") ∧
        isIdempotencyKey key = false := by
  obtain ⟨lower,hosted⟩ := isIntakeHost_isSourceHost intake
  by_cases valid : isIdempotencyKey key = true
  · exact .inl ⟨by simp [SubmissionContext.new, valid, hex, lower, hosted],valid⟩
  · exact .inr ⟨by simp [SubmissionContext.new, valid],Bool.eq_false_iff.mpr valid⟩

theorem submissionContext_cases (hex : isDigest digest = true) :
    admission.submissionContext canonicalId subject digest = .error .invalid ∨
    ∃ key host context, admission.checkedKey = .ok key ∧ admission.sourceHost = .ok host ∧
      isIdempotencyKey key = true ∧ SubmissionContext.new canonicalId subject key digest host = .ok context ∧
      admission.submissionContext canonicalId subject digest = .ok context := by
  unfold Admission.submissionContext
  cases checked : admission.checkedKey with
  | error failure => rw [checkedKey_error checked]; exact .inl rfl
  | ok key =>
    cases hosted : admission.sourceHost with
    | error failure => rw [Admission.sourceHost_error hosted]; exact .inl rfl
    | ok host =>
      rcases @new_of_settled key host canonicalId subject digest (sourceHost_ok hosted) hex with
        ⟨⟨context,built⟩,valid⟩ | ⟨refused,-⟩
      · exact .inr ⟨key,host,context,rfl,rfl,valid,built,by simp [Except.bind, built, Except.mapError]⟩
      · exact .inl (by simp [Except.bind, refused, Except.mapError, ApiFailure.ofData])

variable {state : AppState} {headers : HeaderMap}

theorem checkedKey_given (checked : (state.admission headers).checkedKey = .ok key) :
    ∃ raw, headers.get "idempotency-key" = some raw ∧ toStr raw = some key :=
  Option.bind_eq_some_iff.mp (Admission.checkedKey_ok checked)

theorem idempotencyKey_given {raw : List UInt8} (present : headers.get "idempotency-key" = some raw) :
    (state.admission headers).idempotencyKey = toStr raw := by
  rw [AppState.admission, present, Option.bind_some]

theorem submissionContext_given (hex : isDigest digest = true) :
    (∃ context, (state.admission headers).submissionContext canonicalId subject digest = .ok context) ↔
      (∃ host, (state.admission headers).sourceHost = .ok host) ∧
        ∃ raw, headers.get "idempotency-key" = some raw ∧ HoldsKey raw := by
  constructor
  · rintro ⟨context,accepted⟩
    rcases @submissionContext_cases (state.admission headers) canonicalId subject _ hex with
      refused | ⟨key,host,_,checked,hosted,valid,-,-⟩
    · cases accepted.symm.trans refused
    · obtain ⟨raw,present,readable⟩ := checkedKey_given checked
      exact ⟨⟨host,hosted⟩,raw,present,(holdsKey_iff readable).mp valid⟩
  · rintro ⟨⟨host,hosted⟩,raw,present,holds⟩
    obtain ⟨key,-,valid,checked⟩ := checkedKey_of_holdsKey holds (@idempotencyKey_given state _ _ present)
    rcases @new_of_settled key host canonicalId subject _ (sourceHost_ok hosted) hex with
      ⟨⟨context,built⟩,-⟩ | ⟨-,invalid⟩
    · exact ⟨context,by simp [Admission.submissionContext, checked, hosted, Except.bind, built, Except.mapError]⟩
    · cases valid.symm.trans invalid

/-- A context that is built holds what the handlers were given. -/
theorem submissionContext_keeps (hex : isDigest digest = true) {context : SubmissionContext}
    (accepted : (state.admission headers).submissionContext canonicalId subject digest = .ok context) :
    headers.get "idempotency-key" = some (asBytes context.idempotencyKey) ∧ context.payloadSha256 = digest ∧
      context.subject = subject ∧ (state.admission headers).sourceHost = .ok context.sourceHost ∧
      toAsciiLowercase context.sourceHost = context.sourceHost := by
  rcases @submissionContext_cases (state.admission headers) canonicalId subject _ hex with
    refused | ⟨key,host,made,checked,hosted,-,built,equal⟩
  · cases refused.symm.trans accepted
  · cases equal.symm.trans accepted
    obtain ⟨-,owner,keyed,payload,lower⟩ := SubmissionContext.new_ok built
    obtain ⟨same,-⟩ := isIntakeHost_isSourceHost (sourceHost_ok hosted)
    obtain ⟨raw,present,readable⟩ := checkedKey_given checked
    rw [same] at lower
    rw [lower, keyed, present, (toStr_some readable).1]
    exact ⟨rfl,payload,owner,hosted,same⟩

end Layers

/-- A request is given a context exactly where its origin settles a host and its key header holds
a key; the two layers agree on everything that the handlers accept, refuse with one response, and
hand on unchanged what they were given. -/
theorem context_layers_agree (contract : Contract) (state : AppState) (headers : HeaderMap)
    (canonicalId : Uuid) (subject : Option VerifiedSubject) {kind : StoredSubmissionKind} (input : Input kind) :
    ((∃ context, (state.admission headers).submissionContext canonicalId subject
        (contract.canonicalDigest input) = .ok context) ↔
      (∃ host, (state.admission headers).sourceHost = .ok host) ∧
        ∃ raw, headers.get "idempotency-key" = some raw ∧ HoldsKey raw) ∧
    (∀ key, isIdempotencyKey key = true → headers.get "idempotency-key" = some (asBytes key) →
      (state.admission headers).checkedKey = .ok key) ∧
    (∀ key host error, (state.admission headers).sourceHost = .ok host →
      SubmissionContext.new canonicalId subject key (contract.canonicalDigest input) host = .error error →
      error = .invalidContext "idempotency_key" ∧ isIdempotencyKey key = false) ∧
    (∀ failure, (state.admission headers).submissionContext canonicalId subject
        (contract.canonicalDigest input) = .error failure → failure = .invalid ∧ failure.status = 422) ∧
    (∀ context, (state.admission headers).submissionContext canonicalId subject
        (contract.canonicalDigest input) = .ok context →
      headers.get "idempotency-key" = some (asBytes context.idempotencyKey) ∧
      context.payloadSha256 = contract.canonicalDigest input ∧ context.subject = subject ∧
      (state.admission headers).sourceHost = .ok context.sourceHost ∧
      toAsciiLowercase context.sourceHost = context.sourceHost) ∧
    (∀ (arrival : Arrival) (body : Create .referral) (caller : VerifiedSubject),
      arrival.admission = state.admission headers → contract.validate body = true →
      (state.admission headers).requiredSubject = .ok caller →
      admitCreate contract arrival body = (state.admission headers).submissionContext arrival.canonicalId
        (some caller) (contract.canonicalDigest body.input)) := by
  have hex := contract.canonicalDigest_isDigest input
  refine ⟨submissionContext_given hex,?_,?_,?_,fun context accepted => submissionContext_keeps hex accepted,?_⟩
  · intro key valid present
    have readable := toStr_asBytes (isIdempotencyKey_visible valid)
    obtain ⟨same,readable',-,checked⟩ :=
      checkedKey_of_holdsKey ((holdsKey_iff readable).mp valid) (idempotencyKey_given present)
    obtain rfl := Option.some.inj (readable'.symm.trans readable)
    exact checked
  · intro key host error hosted refused
    rcases @new_of_settled key host canonicalId subject _ (sourceHost_ok hosted) hex with
      ⟨⟨context,built⟩,-⟩ | ⟨named,invalid⟩
    · cases built.symm.trans refused
    · cases named.symm.trans refused
      exact ⟨rfl,invalid⟩
  · intro failure failed
    rcases @submissionContext_cases (state.admission headers) canonicalId subject _ hex with
      refused | ⟨_,_,_,-,-,-,-,accepted⟩
    · cases refused.symm.trans failed
      exact ⟨rfl,rfl⟩
    · cases accepted.symm.trans failed
  · intro arrival body caller received valid required
    rw [admitCreate, if_pos valid, received, required]
    rfl

end IntakeApi
