import IntakeApi.PersistenceRules

/-! The services outside: the proofs that Turnstile checks, and private object storage, which
keys of it may be addressed and the bounded streaming check of an uploaded object. What the
services answer is a parameter. -/
namespace IntakeApi

inductive ExternalError where
  | rejected
  | unavailable
  | objectMismatch
  | invalidResponse
  deriving DecidableEq, Repr

/-- The JSON of a Turnstile response, where an absent text is empty. -/
structure TurnstileResponse where
  success : Bool
  hostname : String
  action : String

/-- A response to a proof. Its body is `none` if it is not the expected JSON. -/
structure TurnstileReply where
  status : Nat
  json : Option TurnstileResponse

def isSuccess (status : Nat) : Bool := 200 ≤ status && status < 300

/-- `siteverify` is what Turnstile answers to a proof, if it can be reached. -/
structure TurnstileVerifier where
  expectedAction : String
  siteverify : String → Except Unit TurnstileReply

def isTurnstileHost (hostname : String) : Bool :=
  ["hhaus.org","www.hhaus.org","user.hhaus.org","medellin.hhaus.org"].contains hostname

def TurnstileVerifier.verify (verifier : TurnstileVerifier) (token : String) : Except ExternalError Unit :=
  if token.isEmpty || 4096 < byteLength token || token.toList.any isControl then .error .rejected
  else match verifier.siteverify token with
  | .error _ => .error .unavailable
  | .ok response =>
    if !isSuccess response.status then .error .unavailable
    else match response.json with
    | none => .error .invalidResponse
    | some result =>
      if !result.success || result.action ≠ verifier.expectedAction || !isTurnstileHost result.hostname then
        .error .rejected
      else .ok ()

/-- Turnstile called the proof valid, for the expected action on one of the intake's hosts. -/
structure TurnstileVerifier.Accepts (verifier : TurnstileVerifier) (token : String) : Prop where
  length : 1 ≤ byteLength token ∧ byteLength token ≤ 4096
  printable : ∀ c ∈ token.toList, isControl c = false
  answered : ∃ response result, verifier.siteverify token = .ok response ∧
    (200 ≤ response.status ∧ response.status < 300) ∧ response.json = some result ∧
    result.success = true ∧ result.action = verifier.expectedAction ∧
    result.hostname ∈ ["hhaus.org","www.hhaus.org","user.hhaus.org","medellin.hhaus.org"]

theorem TurnstileVerifier.verify_ok {verifier : TurnstileVerifier} {token : String}
    (verified : verifier.verify token = .ok ()) : verifier.Accepts token := by
  unfold verify at verified
  split at verified
  · cases verified
  next formed =>
  split at verified
  · cases verified
  next response answered =>
  split at verified
  · cases verified
  next success =>
  split at verified
  · cases verified
  next result parsed =>
  split at verified
  · cases verified
  next bound =>
  simp only [Bool.or_eq_true, decide_eq_true_eq, List.any_eq_true, not_or, not_exists, not_and,
    Bool.not_eq_true, Nat.not_lt, String.isEmpty_eq_false_iff] at formed
  simp only [isSuccess, Bool.not_eq_true', Bool.not_eq_false, Bool.and_eq_true, decide_eq_true_eq] at success
  simp only [isTurnstileHost, Bool.or_eq_true, Bool.not_eq_true', decide_eq_true_eq, not_or, not_not,
    Bool.not_eq_false, List.contains_iff_mem] at bound
  obtain ⟨⟨nonempty,short⟩,printable⟩ := formed
  have some_byte : 1 ≤ byteLength token := by
    refine Nat.pos_of_ne_zero fun zero => nonempty ?_
    exact String.utf8ByteSize_eq_zero_iff.mp zero
  exact ⟨⟨some_byte,short⟩,printable,response,result,answered,success,parsed,bound.1.1,bound.1.2,bound.2⟩

/-- A response to the read of an object. A header that is absent or not readable
as text is `none`; a chunk is an error when the stream breaks there. -/
structure ObjectResponse where
  status : Nat
  contentType : Option String
  contentLength : Option Nat
  chunks : List (Except Unit (List UInt8))

def ObjectResponse.isSuccess (response : ObjectResponse) : Bool :=
  200 ≤ response.status && response.status < 300

/-- The part of a `Content-Type` before its parameters. -/
def mimeType (header : String) : String := trim (String.ofList ((split ';' header).headD []))

def isKeyChar (c : Char) : Bool := isAlphanumeric c || c == '-' || c == '_'

def isKeySegment (segment : List Char) : Bool :=
  !segment.isEmpty && segment ≠ ['.'] && segment ≠ ['.','.'] && segment.all isKeyChar

def validateObjectKey (value : String) : Bool :=
  !value.isEmpty && byteLength value ≤ 1024 && value.toList.head? ≠ some '/' &&
    (split '/' value).all isKeySegment

/-- Where the loop over the body stands when it ends: why it failed, the bytes counted and those fed to the
digest, and how many chunks were taken. -/
structure Streamed where
  failure : Option ExternalError
  observed : Nat
  digest : List UInt8
  taken : Nat
  deriving DecidableEq

def stream (sizeBytes : Nat) (observed : Nat) (digest : List UInt8) : List (Except Unit (List UInt8)) → Streamed
  | [] => ⟨none,observed,digest,0⟩
  | .error _ :: _ => ⟨some .unavailable,observed,digest,1⟩
  | .ok chunk :: rest =>
    if 2 ^ 64 ≤ observed + chunk.length then ⟨some .objectMismatch,observed,digest,1⟩
    else if sizeBytes < observed + chunk.length || maxUploadBytes < observed + chunk.length then
      ⟨some .objectMismatch,observed + chunk.length,digest,1⟩
    else
      let last := stream sizeBytes (observed + chunk.length) (digest ++ chunk) rest
      { last with taken := last.taken + 1 }

def verifyBody (contract : Contract) (expected : PendingUpload)
    (chunks : List (Except Unit (List UInt8))) : Except ExternalError Unit :=
  let last := stream expected.sizeBytes 0 [] chunks
  match last.failure with
  | some error => .error error
  | none =>
    if last.observed ≠ expected.sizeBytes || lowerHex (contract.sha256 last.digest) ≠ expected.expectedSha256 then
      .error .objectMismatch
    else .ok ()

/-- `answer` is what the request for the object came back with, if it could be made. -/
def verifyObject (contract : Contract) (expected : PendingUpload)
    (answer : Except ExternalError ObjectResponse) : Except ExternalError Unit :=
  if !validateObjectKey expected.objectKey then .error .invalidResponse
  else if maxUploadBytes < expected.sizeBytes then .error .objectMismatch
  else match answer with
  | .error error => .error error
  | .ok response =>
    if !response.isSuccess then .error .objectMismatch
    else if response.contentType.map mimeType ≠ some expected.contentType then .error .objectMismatch
    else if response.contentLength.any (· ≠ expected.sizeBytes) then .error .objectMismatch
    else verifyBody contract expected response.chunks

/-- `answer` is the URL that the storage service's response denotes, or why there is none. -/
def createSignedUploadUrl (objectKey : String) (answer : Except ExternalError String) :
    Except ExternalError String :=
  if validateObjectKey objectKey then answer else .error .invalidResponse

/-- A URL as the URL parser reads it. -/
structure ParsedUrl where
  scheme : String
  host : Option String
  path : String
  query : List (String × String)
  text : String

/-- A response to the request for a signed upload. Its `url` is `none` if the body is not the
expected JSON. -/
structure SignedUploadReply where
  status : Nat
  url : Option String

/-- `join` resolves a path below the project's `storage/v1/`, and `post` is what the storage
service answers there, if it can be reached. -/
structure SupabaseStorage where
  projectHost : Option String
  join : String → Option ParsedUrl
  parse : String → Option ParsedUrl
  post : ParsedUrl → Except Unit SignedUploadReply

/-- What `create_signed_upload_url` makes of a checked key. -/
def SupabaseStorage.signUpload (storage : SupabaseStorage) (objectKey : String) : Except ExternalError String :=
  match storage.join ("object/upload/sign/hhm-intake-private/" ++ objectKey) with
  | none => .error .invalidResponse
  | some endpoint => match storage.post endpoint with
    | .error _ => .error .unavailable
    | .ok response =>
      if !isSuccess response.status then .error .unavailable
      else match response.url with
      | none => .error .invalidResponse
      | some url =>
        let suffix := (stripPrefix "/" url).getD url
        let suffix := (stripPrefix "object/" suffix).getD suffix
        match if startsWith "https://" url then storage.parse url else storage.join ("object/" ++ suffix) with
        | none => .error .invalidResponse
        | some signed =>
          if signed.scheme ≠ "https" || signed.host ≠ storage.projectHost ||
              !startsWith "/storage/v1/object/upload/sign/" signed.path ||
              signed.query.all (fun pair => pair.1 ≠ "token") then .error .invalidResponse
          else .ok signed.text

theorem SupabaseStorage.signUpload_error {storage : SupabaseStorage} {objectKey : String} {error : ExternalError}
    (failed : storage.signUpload objectKey = .error error) : error = .unavailable ∨ error = .invalidResponse := by
  unfold signUpload at failed
  split at failed
  · cases failed; exact .inr rfl
  split at failed
  · cases failed; exact .inl rfl
  split at failed
  · cases failed; exact .inl rfl
  split at failed
  · cases failed; exact .inr rfl
  dsimp only at failed
  split at failed
  · cases failed; exact .inr rfl
  · split at failed
    · cases failed; exact .inr rfl
    · cases failed

/-- The whole body that a sequence of chunks carries. -/
def bodyOf (chunks : List (Except Unit (List UInt8))) : List UInt8 :=
  chunks.flatMap fun chunk => chunk.toOption.getD []

theorem stream_ok {sizeBytes observed : Nat} {digest : List UInt8} {chunks : List (Except Unit (List UInt8))}
    (counted : observed = digest.length) (finished : (stream sizeBytes observed digest chunks).failure = none) :
    (stream sizeBytes observed digest chunks).digest = digest ++ bodyOf chunks ∧
      (stream sizeBytes observed digest chunks).observed = (digest ++ bodyOf chunks).length := by
  induction chunks generalizing observed digest with
  | nil => simp [stream, bodyOf, counted]
  | cons chunk rest ih =>
    cases chunk with
    | error => cases finished
    | ok bytes =>
      have whole : digest ++ bodyOf (.ok bytes :: rest) = digest ++ bytes ++ bodyOf rest := by
        simp [bodyOf, Except.toOption]
      rw [whole]
      simp only [stream] at finished ⊢
      split at finished
      · cases finished
      next fits =>
      rw [if_neg fits]
      split at finished
      · cases finished
      next within =>
      rw [if_neg within]
      exact ih (by simp [counted]) finished

structure Matches (contract : Contract) (expected : PendingUpload) (response : ObjectResponse) :
    Prop where
  success : response.isSuccess = true
  mime : response.contentType.map mimeType = some expected.contentType
  size : (bodyOf response.chunks).length = expected.sizeBytes
  digest : lowerHex (contract.sha256 (bodyOf response.chunks)) = expected.expectedSha256

theorem verifyObject_ok {contract : Contract} {expected : PendingUpload}
    {answer : Except ExternalError ObjectResponse}
    (verified : verifyObject contract expected answer = .ok ()) :
    ∃ response, answer = .ok response ∧ Matches contract expected response := by
  unfold verifyObject at verified
  split at verified
  · cases verified
  split at verified
  · cases verified
  split at verified
  · cases verified
  next response =>
  split at verified
  · cases verified
  next success =>
  split at verified
  · cases verified
  next mime =>
  split at verified
  · cases verified
  unfold verifyBody at verified
  dsimp only at verified
  split at verified
  · cases verified
  next finished =>
  split at verified
  · cases verified
  next equal =>
  obtain ⟨whole,size⟩ := stream_ok List.length_nil.symm finished
  rw [whole, size, List.nil_append] at equal
  simp only [ne_eq, Bool.or_eq_true, decide_eq_true_eq, not_or, not_not] at equal
  exact ⟨response,rfl,by simpa using success,not_not.mp mime,equal.1,equal.2⟩

theorem isKeyChar_ascii {c : Char} (key : isKeyChar c = true) : c.toNat < 128 := by
  simp only [isKeyChar, Bool.or_eq_true, beq_iff_eq] at key
  rcases key with (alphanumeric | rfl) | rfl
  · exact isAlphanumeric_ascii alphanumeric
  · decide
  · decide

theorem isKeyChar_of_hex {c : Char} (hex : isLowerHex c = true) : isKeyChar c = true := by
  simp [isKeyChar, isLowerHex_alphanumeric hex]

theorem isKeySegment_of_chars {segment : List Char} (nonempty : segment ≠ [])
    (chars : ∀ c ∈ segment, isKeyChar c = true) : isKeySegment segment = true := by
  have dot : isKeyChar '.' = false := by decide
  have single : segment ≠ ['.'] := by
    rintro rfl
    simp [dot] at chars
  have double : segment ≠ ['.','.'] := by
    rintro rfl
    simp [dot] at chars
  simp only [isKeySegment, ne_eq, Bool.and_eq_true, decide_eq_true_eq, List.all_eq_true,
    Bool.not_eq_true', List.isEmpty_eq_false_iff]
  exact ⟨⟨⟨nonempty,single⟩,double⟩,chars⟩

theorem uuidChars_keyChars (id : Uuid) : ∀ c ∈ uuidChars id, isKeyChar c = true := by
  have dash : isKeyChar '-' = true := by decide
  have digits : ∀ c ∈ (List.range 32).map fun i =>
      hexDigit (UInt8.ofNat (id.toNat / 16 ^ (31 - i) % 16)), isKeyChar c = true := by
    intro c member
    obtain ⟨i,_,rfl⟩ := List.mem_map.mp member
    exact isKeyChar_of_hex (hexDigit_isLowerHex _)
  intro c member
  simp only [uuidChars, List.mem_append, List.mem_cons] at member
  rcases member with (((h | rfl | h) | rfl | h) | rfl | h) | rfl | h
  · exact digits c (List.mem_of_mem_take h)
  · exact dash
  · exact digits c (List.mem_of_mem_drop (List.mem_of_mem_take h))
  · exact dash
  · exact digits c (List.mem_of_mem_drop (List.mem_of_mem_take h))
  · exact dash
  · exact digits c (List.mem_of_mem_drop (List.mem_of_mem_take h))
  · exact dash
  · exact digits c (List.mem_of_mem_drop h)

theorem uuidChars_length (id : Uuid) : (uuidChars id).length = 36 := by
  simp [uuidChars]

/-- Segments of key characters, joined by `/`, are the segments that are found again. -/
theorem split_segment (first rest : List Char) (chars : ∀ c ∈ first, isKeyChar c = true) :
    (first ++ '/' :: rest).splitOn '/' = first :: rest.splitOn '/' := by
  rw [List.splitOn_eq_splitOnP, List.splitOn_eq_splitOnP]
  refine List.splitOnP_append_cons_of_forall_mem ?_ '/' (by decide) rest
  intro c member
  have slash : isKeyChar '/' = false := by decide
  simp only [beq_eq_false_iff_ne, ne_eq]
  rintro rfl
  simp [chars _ member] at slash

theorem split_last (last : List Char) (chars : ∀ c ∈ last, isKeyChar c = true) :
    last.splitOn '/' = [last] := by
  rw [List.splitOn_eq_splitOnP]
  refine List.splitOnP_eq_singleton ?_
  intro c member
  have slash : isKeyChar '/' = false := by decide
  simp only [beq_eq_false_iff_ne, ne_eq]
  rintro rfl
  simp [chars _ member] at slash

theorem intake_joined {a b c : List Char} :
    (String.ofList ("intake/".toList ++ a ++ '/' :: b ++ '/' :: c)).toList =
      "intake".toList ++ '/' :: (a ++ '/' :: (b ++ '/' :: c)) := by
  have prefixed : "intake/".toList = "intake".toList ++ ['/'] := by decide
  rw [String.toList_ofList, prefixed]
  simp only [List.append_assoc, List.cons_append, List.nil_append]

theorem uploadObjectKey_toList (kind : UploadKind) (id : Uuid) (sha256 : String) :
    (uploadObjectKey kind id sha256).toList = "intake".toList ++ '/' ::
      ((uploadKind kind).toList ++ '/' :: (uuidChars id ++ '/' :: sha256.toList.take 16)) :=
  intake_joined

/-- Every key the store makes for a contract-checked digest may be addressed. -/
theorem uploadObjectKey_valid (kind : UploadKind) (id : Uuid) {sha256 : String}
    (digest : isDigest sha256 = true) :
    validateObjectKey (uploadObjectKey kind id sha256) = true := by
  obtain ⟨length,hex⟩ := isDigest_chars digest
  have head : ∀ c ∈ "intake".toList, isKeyChar c = true := List.all_eq_true.mp (by decide)
  have kindChars : ∀ c ∈ (uploadKind kind).toList, isKeyChar c = true :=
    List.all_eq_true.mp (by cases kind <;> decide)
  have idChars := uuidChars_keyChars id
  have last : ∀ c ∈ sha256.toList.take 16, isKeyChar c = true :=
    fun c member => isKeyChar_of_hex (hex c (List.mem_of_mem_take member))
  have whole := uploadObjectKey_toList kind id sha256
  have segments : split '/' (uploadObjectKey kind id sha256) =
      ["intake".toList,(uploadKind kind).toList,uuidChars id,sha256.toList.take 16] := by
    rw [split, whole, split_segment _ _ head, split_segment _ _ kindChars, split_segment _ _ idChars,
      split_last _ last]
  have ascii : ∀ c ∈ (uploadObjectKey kind id sha256).toList, c.utf8Size = 1 := by
    intro c member
    rw [whole] at member
    have slash : '/'.toNat < 128 := by decide
    simp only [List.mem_append, List.mem_cons] at member
    rcases member with h | rfl | h | rfl | h | rfl | h
    · exact utf8Size_ascii (isKeyChar_ascii (head c h))
    · exact utf8Size_ascii slash
    · exact utf8Size_ascii (isKeyChar_ascii (kindChars c h))
    · exact utf8Size_ascii slash
    · exact utf8Size_ascii (isKeyChar_ascii (idChars c h))
    · exact utf8Size_ascii slash
    · exact utf8Size_ascii (isKeyChar_ascii (last c h))
  have bytes : byteLength (uploadObjectKey kind id sha256) ≤ 1024 := by
    have kindLength : (uploadKind kind).toList.length ≤ 8 := by cases kind <;> decide
    have headLength : "intake".toList.length = 6 := by decide
    rw [byteLength_ascii _ ascii, whole]
    simp only [List.length_append, List.length_cons, List.length_take, uuidChars_length, headLength]
    omega
  have nonempty : uploadObjectKey kind id sha256 ≠ "" := by
    intro empty
    rw [empty] at whole
    simp at whole
  have first : (uploadObjectKey kind id sha256).toList.head? ≠ some '/' := by
    have initial : "intake".toList.head? = some 'i' := by decide
    rw [whole, List.head?_append_of_ne_nil _ (by decide), initial]
    decide
  have kindSegment : isKeySegment (uploadKind kind).toList = true := by cases kind <;> decide
  have idSegment : isKeySegment (uuidChars id) = true := by
    refine isKeySegment_of_chars ?_ idChars
    intro empty
    have size := uuidChars_length id
    rw [empty, List.length_nil] at size
    omega
  have lastSegment : isKeySegment (sha256.toList.take 16) = true := by
    refine isKeySegment_of_chars ?_ last
    intro empty
    have size := congrArg List.length empty
    simp [length] at size
  have headSegment : isKeySegment "intake".toList = true := by decide
  simp only [validateObjectKey, segments, List.all_cons, List.all_nil, headSegment, kindSegment,
    idSegment, lastSegment, bytes, first, Bool.and_true, decide_true,
    Bool.not_eq_true', String.isEmpty_eq_false_iff, ne_eq, not_false_eq_true]
  exact nonempty

end IntakeApi
