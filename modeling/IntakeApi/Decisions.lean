import IntakeApi.Admittance
import IntakeApi.Library.Shell

/-! Whom a caller is taken to be, exactly, and when it is told to come back: which answers of
Shared Auth and of Turnstile admit it, and which leave the question open. -/
namespace IntakeApi

theorem isSuccess_iff {status : Nat} : isSuccess status = true ↔ 200 ≤ status ∧ status < 300 := by
  simp [isSuccess]

theorem byteLength_pos {s : String} : 1 ≤ byteLength s ↔ s ≠ "" := by
  rw [Nat.one_le_iff_ne_zero, byteLength, ne_eq, String.utf8ByteSize_eq_zero_iff]

section Bearer

variable {headers : HeaderMap}

theorem bearerToken_none_iff : bearerToken headers = .ok none ↔ headers.get "authorization" = none := by
  refine ⟨bearerToken_none,fun absent => ?_⟩
  rw [bearerToken, absent]

theorem bearerToken_iff {token : String} : bearerToken headers = .ok (some token) ↔ headers.Bears token := by
  refine ⟨bearerToken_some,?_⟩
  rintro ⟨⟨raw,text,scheme,present,readable,joined,first,bearer⟩,⟨some_byte,short⟩,unbroken⟩
  have parts : splitOnce ' ' text = some (scheme,token) := by
    obtain ⟨dropped,taken⟩ := Shell.dropWhile_field (fun member => first ' ' member rfl) token.toList
    simp only [splitOnce, joined, dropped, taken, String.ofList_toList]
  have formed : ¬(toAsciiLowercase scheme ≠ toAsciiLowercase "bearer" || token.isEmpty ||
      maxCredentialBytes < byteLength token || token.toList.any isWhitespace) = true := by
    have lower : toAsciiLowercase "bearer" = "bearer" := by decide
    have solid : token.toList.any isWhitespace = false := List.any_eq_false.mpr (by simpa using unbroken)
    have fits : ¬maxCredentialBytes < byteLength token := Nat.not_lt.mpr short
    simp [lower, bearer, solid, fits, byteLength_pos.mp some_byte]
  simp only [bearerToken, present, readable, parts, if_neg formed]

end Bearer

/-- Active, and for the audience of the intake. -/
def Introspection.Current (introspection : Introspection) (audience : String) : Prop :=
  introspection.active = true ∧ introspection.aud = some audience

def Introspection.Granted (introspection : Introspection) : Prop :=
  ∃ scope, introspection.scope = some scope ∧ "hhm:intake:write" ∈ splitAsciiWhitespace scope

theorem authorizeIntrospection_iff {introspection : Introspection} {audience : String} :
    authorizeIntrospection introspection audience = .ok () ↔
      introspection.Current audience ∧ introspection.Granted := by
  constructor
  · intro authorized
    obtain ⟨active,named,granted⟩ := authorizeIntrospection_ok authorized
    exact ⟨⟨active,named⟩,granted⟩
  · rintro ⟨⟨active,named⟩,scope,present,member⟩
    simpa [authorizeIntrospection, active, named, Introspection.hasScope, present] using member

theorem authorizeIntrospection_error {introspection : Introspection} {audience : String} {error : AuthError}
    (refused : authorizeIntrospection introspection audience = .error error) :
    (error = .forbidden ∧ introspection.Current audience ∧ ¬introspection.Granted) ∨
      error = .invalid ∧ ¬introspection.Current audience := by
  have ungranted : ¬(introspection.Current audience ∧ introspection.Granted) := by
    rw [← authorizeIntrospection_iff, refused]
    exact nofun
  unfold authorizeIntrospection at refused
  split at refused
  · next other =>
    cases refused
    refine .inr ⟨rfl,fun current => ?_⟩
    simp [current.1, current.2] at other
  · next named =>
    split at refused
    · cases refused
      have current : introspection.Current audience := by simpa [Introspection.Current] using named
      exact .inl ⟨rfl,current,fun granted => ungranted ⟨current,granted⟩⟩
    · cases refused

namespace Authenticator

variable {auth : Authenticator} {token : String}

/-- The body of a response, announced and sent within the limit and without a break. -/
structure Whole (response : IntrospectionResponse) : Prop where
  success : 200 ≤ response.status ∧ response.status < 300
  announced : ∀ length, response.contentLength = some length → length ≤ maxResponseBytes
  clean : Chunks.Clean response.chunks
  fits : (Chunks.whole response.chunks).length ≤ maxResponseBytes

def Claims (auth : Authenticator) (token : String) (introspection : Introspection) : Prop :=
  ∃ response, auth.introspect token = .ok response ∧ Whole response ∧
    auth.decode (Chunks.whole response.chunks) = some introspection

/-- Shared Auth made no decision: it is out of reach, it fails, or it breaks off. -/
def Undecided (auth : Authenticator) (token : String) : Prop :=
  auth.introspect token = .error () ∨ ∃ response, auth.introspect token = .ok response ∧
    ((500 ≤ response.status ∧ response.status < 600) ∨
      (200 ≤ response.status ∧ response.status < 300) ∧
        (∀ length, response.contentLength = some length → length ≤ maxResponseBytes) ∧
        Chunks.Breaks maxResponseBytes [] response.chunks)

theorem announced_iff {length : Option Nat} : length.any (maxResponseBytes < ·) = false ↔
    ∀ n, length = some n → n ≤ maxResponseBytes := by
  cases length <;> simp

theorem boundedResponse_ok {chunks : List (Except Unit (List UInt8))} {bytes : List UInt8} :
    boundedResponse chunks = .ok bytes ↔
      bytes = Chunks.whole chunks ∧ Chunks.Clean chunks ∧ (Chunks.whole chunks).length ≤ maxResponseBytes := by
  rw [boundedResponse_eq]
  constructor
  · intro finished
    obtain ⟨equal,bound⟩ := Chunks.gather_ok (Nat.zero_le _) finished
    rw [List.nil_append] at equal
    exact ⟨equal,Chunks.gather_ok_clean finished,equal ▸ bound⟩
  · rintro ⟨rfl,clean,fits⟩
    rw [Chunks.gather_clean clean (Nat.zero_le _), List.nil_append, if_pos fits]

theorem boundedResponse_unavailable {chunks : List (Except Unit (List UInt8))} :
    boundedResponse chunks = .error .unavailable ↔ Chunks.Breaks maxResponseBytes [] chunks := by
  rw [boundedResponse_eq]
  exact Chunks.gather_broken (Nat.zero_le _) (by decide)

theorem readIntrospection_iff {response : IntrospectionResponse} {introspection : Introspection} :
    auth.readIntrospection response = .ok introspection ↔
      Whole response ∧ auth.decode (Chunks.whole response.chunks) = some introspection := by
  constructor
  · intro read
    obtain ⟨success,fits,decoded⟩ := readIntrospection_ok read
    unfold readIntrospection at read
    split at read
    · cases read
    split at read
    · cases read
    split at read
    · cases read
    next announced =>
    cases gathered : boundedResponse response.chunks with
    | error error => rw [gathered] at read; cases read
    | ok bytes =>
      obtain ⟨-,clean,-⟩ := boundedResponse_ok.mp gathered
      exact ⟨⟨success,announced_iff.mp (Bool.eq_false_iff.mpr announced),clean,fits⟩,decoded⟩
  · rintro ⟨⟨success,announced,clean,fits⟩,decoded⟩
    have server : ¬(500 ≤ response.status && response.status < 600) = true := by
      simp only [Bool.and_eq_true, decide_eq_true_eq]
      omega
    have other : ¬(response.status = 401 || !isSuccess response.status) = true := by
      rw [isSuccess_iff.mpr success]
      simp only [Bool.not_true, Bool.or_false, decide_eq_true_eq]
      omega
    simp only [Bool.and_eq_true, decide_eq_true_eq] at server
    simp only [readIntrospection, Bool.and_eq_true, decide_eq_true_eq, if_neg server, if_neg other,
      announced_iff.mpr announced, boundedResponse_ok.mpr ⟨rfl,clean,fits⟩, Except.bind, decoded]
    rfl

theorem readIntrospection_error {response : IntrospectionResponse} {error : AuthError}
    (failed : auth.readIntrospection response = .error error) : error = .invalid ∨ error = .unavailable := by
  unfold readIntrospection at failed
  split at failed
  · cases failed; exact .inr rfl
  split at failed
  · cases failed; exact .inl rfl
  split at failed
  · cases failed; exact .inl rfl
  cases gathered : boundedResponse response.chunks with
  | error other =>
    rw [gathered] at failed
    cases failed
    rw [boundedResponse_eq] at gathered
    exact (Chunks.gather_error gathered).symm
  | ok bytes =>
    rw [gathered] at failed
    dsimp only [Except.bind] at failed
    split at failed <;> cases failed
    exact .inl rfl

theorem readIntrospection_unavailable {response : IntrospectionResponse} :
    auth.readIntrospection response = .error .unavailable ↔
      (500 ≤ response.status ∧ response.status < 600) ∨
        (200 ≤ response.status ∧ response.status < 300) ∧
          (∀ length, response.contentLength = some length → length ≤ maxResponseBytes) ∧
          Chunks.Breaks maxResponseBytes [] response.chunks := by
  unfold readIntrospection
  by_cases server : 500 ≤ response.status ∧ response.status < 600
  · simp [server]
  rw [if_neg (by simpa using server), or_iff_right server]
  by_cases success : 200 ≤ response.status ∧ response.status < 300
  · have other : ¬(response.status = 401 || !isSuccess response.status) = true := by
      rw [isSuccess_iff.mpr success]
      simp only [Bool.not_true, Bool.or_false, decide_eq_true_eq]
      omega
    rw [if_neg other]
    by_cases announced : ∀ length, response.contentLength = some length → length ≤ maxResponseBytes
    · rw [if_neg (Bool.eq_false_iff.mp (announced_iff.mpr announced)), ← boundedResponse_unavailable]
      cases gathered : boundedResponse response.chunks with
      | error error => simpa [Except.bind, success] using fun _ => announced
      | ok bytes =>
        dsimp only [Except.bind]
        split <;> simp
    · rw [if_pos (Bool.of_not_eq_false (mt announced_iff.mp announced))]
      exact ⟨nofun,fun ⟨_,fits,_⟩ => absurd fits announced⟩
  · have other : (response.status = 401 || !isSuccess response.status) = true := by
      rw [Bool.eq_false_iff.mpr (mt isSuccess_iff.mp success)]
      simp
    rw [if_pos other]
    exact ⟨nofun,fun ⟨fine,_⟩ => absurd fine success⟩

def Certifies (auth : Authenticator) (token : String) (subject : VerifiedSubject) : Prop :=
  ∃ introspection, auth.Claims token introspection ∧ introspection.Current auth.audience ∧ introspection.Granted ∧
    introspection.sub = some subject.value

theorem fromVerifiedClaim_ok {value : String} {subject : VerifiedSubject} :
    VerifiedSubject.fromVerifiedClaim value = .ok subject ↔ value = subject.value := by
  unfold VerifiedSubject.fromVerifiedClaim
  constructor
  · intro made
    split at made <;> cases made
    rfl
  · rintro rfl
    rw [dif_pos subject.valid]

theorem verify_iff {subject : VerifiedSubject} : auth.verify token = .ok subject ↔ auth.Certifies token subject := by
  constructor
  · intro verified
    unfold verify at verified
    split at verified
    · cases verified
    next response answered =>
    cases read : auth.readIntrospection response with
    | error => rw [read] at verified; cases verified
    | ok introspection =>
      cases authorized : authorizeIntrospection introspection auth.audience with
      | error => simp [read, authorized, Except.bind] at verified
      | ok =>
        simp only [read, authorized, Except.bind] at verified
        split at verified
        · cases verified
        next sub named =>
        split at verified
        · cases verified
        obtain ⟨whole,decoded⟩ := readIntrospection_iff.mp read
        obtain ⟨current,granted⟩ := authorizeIntrospection_iff.mp authorized
        cases claimed : VerifiedSubject.fromVerifiedClaim sub with
        | error => rw [claimed] at verified; cases verified
        | ok made =>
          rw [claimed] at verified
          cases verified
          exact ⟨introspection,⟨response,answered,whole,decoded⟩,current,granted,
            named.trans (congrArg some (fromVerifiedClaim_ok.mp claimed))⟩
  · rintro ⟨introspection,⟨response,answered,whole,decoded⟩,current,granted,named⟩
    have nonempty : subject.value.isEmpty = false := by
      have valid := subject.valid
      simp only [isSubject, Bool.not_eq_true', Bool.or_eq_false_iff] at valid
      exact valid.1.1.1
    simp [verify, answered, readIntrospection_iff.mpr ⟨whole,decoded⟩, Except.bind,
      authorizeIntrospection_iff.mpr ⟨current,granted⟩, named, nonempty, fromVerifiedClaim_ok.mpr rfl, Except.mapError]

theorem verify_error {error : AuthError} (failed : auth.verify token = .error error) :
    (error = .unavailable ∧ auth.Undecided token) ∨
      (error = .forbidden ∧ ¬auth.Undecided token ∧ ∃ introspection, auth.Claims token introspection ∧
        introspection.Current auth.audience ∧ ¬introspection.Granted) ∨
      error = .invalid ∧ ¬auth.Undecided token := by
  unfold verify at failed
  split at failed
  · next unreachable =>
    cases failed
    exact .inl ⟨rfl,.inl unreachable⟩
  next response answered =>
  have open_question : auth.Undecided token ↔ auth.readIntrospection response = .error .unavailable := by
    rw [Undecided, answered, readIntrospection_unavailable]
    simp
  cases read : auth.readIntrospection response with
  | error other =>
    rw [read] at failed open_question
    cases failed
    rcases readIntrospection_error read with rfl | rfl
    · exact .inr (.inr ⟨rfl,fun undecided => by cases open_question.mp undecided⟩)
    · exact .inl ⟨rfl,open_question.mpr rfl⟩
  | ok introspection =>
    have decided : ¬auth.Undecided token := by
      rw [open_question, read]
      exact nofun
    obtain ⟨whole,decoded⟩ := readIntrospection_iff.mp read
    rw [read] at failed
    cases authorized : authorizeIntrospection introspection auth.audience with
    | error other =>
      rw [Except.bind, authorized] at failed
      cases failed
      rcases authorizeIntrospection_error authorized with ⟨rfl,current,ungranted⟩ | ⟨rfl,-⟩
      · exact .inr (.inl ⟨rfl,decided,introspection,⟨response,answered,whole,decoded⟩,current,ungranted⟩)
      · exact .inr (.inr ⟨rfl,decided⟩)
    | ok =>
      refine .inr (.inr ⟨?_,decided⟩)
      simp only [authorized, Except.bind] at failed
      split at failed
      · cases failed; rfl
      · split at failed
        · cases failed; rfl
        · next sub _ _ =>
          cases claimed : VerifiedSubject.fromVerifiedClaim sub with
          | error => rw [claimed] at failed; cases failed; rfl
          | ok => rw [claimed] at failed; cases failed

theorem verify_forbidden : auth.verify token = .error .forbidden ↔ ∃ introspection, auth.Claims token introspection ∧
    introspection.Current auth.audience ∧ ¬introspection.Granted := by
  constructor
  · intro refused
    rcases verify_error refused with ⟨other,-⟩ | ⟨-,-,told⟩ | ⟨other,-⟩
    · cases other
    · exact told
    · cases other
  · rintro ⟨introspection,⟨response,answered,whole,decoded⟩,current,ungranted⟩
    have refused : authorizeIntrospection introspection auth.audience = .error .forbidden := by
      cases authorized : authorizeIntrospection introspection auth.audience with
      | ok => exact absurd (authorizeIntrospection_iff.mp authorized).2 ungranted
      | error other =>
        rcases authorizeIntrospection_error authorized with ⟨rfl,-⟩ | ⟨-,stale⟩
        · rfl
        · exact absurd current stale
    simp [verify, answered, readIntrospection_iff.mpr ⟨whole,decoded⟩, Except.bind, refused]

theorem verify_response {error : AuthError} (failed : auth.verify token = .error error) :
    ((ApiFailure.ofAuth error).body.retryable = true ↔ auth.Undecided token) ∧
      ((ApiFailure.ofAuth error).status = 403 ↔ error = .forbidden) := by
  rcases verify_error failed with ⟨rfl,undecided⟩ | ⟨rfl,decided,-⟩ | ⟨rfl,decided⟩
  · simp [ApiFailure.ofAuth, ApiFailure.new, undecided]
  · simp [ApiFailure.ofAuth, ApiFailure.new, decided]
  · simp [ApiFailure.ofAuth, ApiFailure.new, decided]

end Authenticator

namespace TurnstileVerifier

variable {verifier : TurnstileVerifier} {token : String}

structure IsProof (token : String) : Prop where
  length : 1 ≤ byteLength token ∧ byteLength token ≤ 4096
  printable : ∀ c ∈ token.toList, isControl c = false

/-- Turnstile made no decision: it is out of reach, it fails, or its answer cannot be read. -/
def Undecided (verifier : TurnstileVerifier) (token : String) : Prop :=
  IsProof token ∧ (verifier.siteverify token = .error () ∨ ∃ response, verifier.siteverify token = .ok response ∧
    (¬(200 ≤ response.status ∧ response.status < 300) ∨ response.json = none))

theorem isProof_iff : (token.isEmpty || 4096 < byteLength token || token.toList.any isControl) = false ↔
    IsProof token := by
  constructor
  · intro formed
    simp only [Bool.or_eq_false_iff, decide_eq_false_iff_not, List.any_eq_false, Bool.not_eq_true, Nat.not_lt,
      String.isEmpty_eq_false_iff] at formed
    exact ⟨⟨byteLength_pos.mpr formed.1.1,formed.1.2⟩,formed.2⟩
  · rintro ⟨⟨some_byte,short⟩,printable⟩
    have calm : token.toList.any isControl = false := List.any_eq_false.mpr (by simpa using printable)
    simp [byteLength_pos.mp some_byte, Nat.not_lt.mpr short, calm]

theorem verify_iff : verifier.verify token = .ok () ↔ verifier.Accepts token := by
  refine ⟨verify_ok,?_⟩
  rintro ⟨length,printable,response,result,answered,success,parsed,succeeded,action,host⟩
  have listed : isTurnstileHost result.hostname = true := List.contains_iff_mem.mpr host
  have formed := isProof_iff.mpr ⟨length,printable⟩
  rw [verify, formed, if_neg Bool.false_ne_true, answered]
  simp [isSuccess_iff.mpr success, parsed, succeeded, action, listed]

theorem verify_error {error : ExternalError} (failed : verifier.verify token = .error error) :
    ((error = .unavailable ∨ error = .invalidResponse) ∧ verifier.Undecided token) ∨
      error = .rejected ∧ ¬verifier.Undecided token := by
  unfold verify at failed
  split at failed
  · next unformed =>
    cases failed
    refine .inr ⟨rfl,fun undecided => ?_⟩
    rw [isProof_iff.mpr undecided.1] at unformed
    cases unformed
  next formed =>
  have isProof : IsProof token := isProof_iff.mp (Bool.eq_false_iff.mpr formed)
  split at failed
  · next unreachable =>
    cases failed
    exact .inl ⟨.inl rfl,isProof,.inl unreachable⟩
  next response answered =>
  split at failed
  · next unsuccessful =>
    cases failed
    refine .inl ⟨.inl rfl,isProof,.inr ⟨response,answered,.inl fun success => ?_⟩⟩
    rw [isSuccess_iff.mpr success] at unsuccessful
    cases unsuccessful
  next success =>
  split at failed
  · next unread =>
    cases failed
    exact .inl ⟨.inr rfl,isProof,.inr ⟨response,answered,.inr unread⟩⟩
  next result parsed =>
  split at failed
  · cases failed
    refine .inr ⟨rfl,?_⟩
    rintro ⟨-,unreachable | ⟨other,again,failing | unread⟩⟩
    · rw [answered] at unreachable
      cases unreachable
    · cases answered.symm.trans again
      exact failing (isSuccess_iff.mp (by simpa using success))
    · cases answered.symm.trans again
      rw [parsed] at unread
      cases unread
  · cases failed

theorem verify_response {error : ExternalError} (failed : verifier.verify token = .error error) :
    ((ApiFailure.ofExternal error).body.retryable = true ↔ verifier.Undecided token) ∧
      (ApiFailure.ofExternal error).status ≠ 403 := by
  rcases verify_error failed with ⟨rfl | rfl,undecided⟩ | ⟨rfl,decided⟩
  · simp [ApiFailure.ofExternal, ApiFailure.new, undecided]
  · simp [ApiFailure.ofExternal, ApiFailure.new, undecided]
  · simp [ApiFailure.ofExternal, ApiFailure.invalid, ApiFailure.new, decided]

end TurnstileVerifier

/-- Nobody has decided about the caller. -/
def Undecided (state : AppState) (headers : HeaderMap) (proof : Option String) : Prop :=
  (∃ token, headers.Bears token ∧ state.auth.Undecided token) ∨
    headers.get "authorization" = none ∧ ∃ given, proof = some given ∧ state.turnstile.Undecided given

section Admission

variable {state : AppState} {headers : HeaderMap} {proof : Option String}

/-- The header of a caller, as it is read. -/
theorem bearerToken_cases (headers : HeaderMap) : headers.get "authorization" = none ∨
    (∃ token, headers.Bears token) ∨ (headers.get "authorization" ≠ none ∧ bearerToken headers = .error .invalid) := by
  cases read : bearerToken headers with
  | ok token =>
    cases token with
    | none => exact .inl (bearerToken_none_iff.mp read)
    | some token => exact .inr (.inl ⟨token,bearerToken_iff.mp read⟩)
  | error error =>
    refine .inr (.inr ⟨fun absent => ?_,?_⟩)
    · rw [bearerToken_none_iff.mpr absent] at read
      cases read
    · unfold bearerToken at read
      split at read
      · cases read
      · split at read
        · exact read.symm
        · split at read
          · exact read.symm
          · split at read
            · exact read.symm
            · cases read

/-- Whoever bears a token is decided about by Shared Auth. -/
theorem decided_bearer {token : String} (bears : headers.Bears token) :
    (state.admission headers).authenticateOrVerifyPublic proof =
      ((state.auth.verify token).map some).mapError ApiFailure.ofAuth := by
  simp only [Admission.authenticateOrVerifyPublic, AppState.admission, Authenticator.optionalSubject,
    bearerToken_iff.mpr bears]
  cases state.auth.verify token <;> rfl

/-- Whoever sends no header is decided about by Turnstile. -/
theorem decided_public (absent : headers.get "authorization" = none) :
    (state.admission headers).authenticateOrVerifyPublic proof = match proof with
      | none => .error .invalid
      | some given => ((state.turnstile.verify given).mapError ApiFailure.ofExternal).map fun _ => none := by
  cases proof <;>
    simp only [Admission.authenticateOrVerifyPublic, AppState.admission, Authenticator.optionalSubject,
      bearerToken_none_iff.mpr absent]

theorem decided_malformed (refused : bearerToken headers = .error .invalid) :
    (state.admission headers).authenticateOrVerifyPublic proof = .error (.ofAuth .invalid) := by
  simp only [Admission.authenticateOrVerifyPublic, AppState.admission, Authenticator.optionalSubject, refused]

theorem HeaderMap.Bears.present {token : String} (bears : headers.Bears token) : headers.get "authorization" ≠ none := by
  obtain ⟨raw,text,scheme,found,-⟩ := bears.header
  rw [found]
  exact nofun

theorem HeaderMap.Bears.unique {token other : String} (bears : headers.Bears token) (again : headers.Bears other) :
    token = other := by
  have same := (bearerToken_iff.mpr bears).symm.trans (bearerToken_iff.mpr again)
  cases same
  rfl

end Admission

/-- A caller is taken for a subject exactly where its token is certified, and for nobody exactly
where it sends no header and a proof that Turnstile accepts. Otherwise it is told to come back
exactly where nobody has decided, and that it may not exactly where its scope is what it lacks. A
header that is there is never passed over for a proof. -/
theorem admission_exact (state : AppState) (headers : HeaderMap) (proof : Option String) :
    (∀ subject, (state.admission headers).authenticateOrVerifyPublic proof = .ok (some subject) ↔
      ∃ token, headers.Bears token ∧ state.auth.Certifies token subject) ∧
    ((state.admission headers).authenticateOrVerifyPublic proof = .ok none ↔
      headers.get "authorization" = none ∧ ∃ given, proof = some given ∧ state.turnstile.Accepts given) ∧
    (∀ failure, (state.admission headers).authenticateOrVerifyPublic proof = .error failure →
      (failure.body.retryable = true ↔ Undecided state headers proof) ∧
      (failure.status = 403 ↔ ∃ token introspection, headers.Bears token ∧ state.auth.Claims token introspection ∧
        introspection.Current state.auth.audience ∧ ¬introspection.Granted)) ∧
    ∀ turnstile other, headers.get "authorization" ≠ none →
      (({ state with turnstile := turnstile } : AppState).admission headers).authenticateOrVerifyPublic other =
        (state.admission headers).authenticateOrVerifyPublic proof := by
  rcases bearerToken_cases headers with absent | ⟨token,bears⟩ | ⟨present,malformed⟩
  · have unborne (token : String) : ¬headers.Bears token := fun bears => bears.present absent
    have other_state : Undecided state headers proof ↔ ∃ given, proof = some given ∧ state.turnstile.Undecided given := by
      simp [Undecided, unborne, absent]
    rw [decided_public absent, other_state]
    simp only [absent, unborne, false_and, exists_false, iff_false, true_and, ne_eq, not_true_eq_false,
      false_imp_iff, implies_true, and_true]
    cases proof with
    | none => simp [ApiFailure.invalid, ApiFailure.new]
    | some given =>
      cases checked : state.turnstile.verify given with
      | ok =>
        have accepted := TurnstileVerifier.verify_iff.mp checked
        simp [checked, Except.map, Except.mapError, accepted]
      | error error =>
        have unaccepted : ¬state.turnstile.Accepts given := by
          rw [← TurnstileVerifier.verify_iff, checked]
          exact nofun
        obtain ⟨retryable,apart⟩ := TurnstileVerifier.verify_response checked
        simp only [checked, Except.map, Except.mapError]
        refine ⟨by simp,by simp [unaccepted],?_⟩
        rintro failure ⟨⟩
        simp [retryable, apart]
  · have only (other : String) : headers.Bears other ↔ other = token :=
      ⟨fun again => again.unique bears,fun same => same ▸ bears⟩
    have other_state : Undecided state headers proof ↔ state.auth.Undecided token := by
      simp [Undecided, only, bears.present]
    rw [decided_bearer bears, other_state]
    simp only [only, exists_eq_left, exists_and_left, bears.present, false_and, iff_false]
    refine ⟨fun subject => ?_,?_,?_,fun turnstile other _ => decided_bearer bears⟩
    · rw [← Authenticator.verify_iff]
      cases state.auth.verify token <;> simp [Except.map, Except.mapError]
    · cases state.auth.verify token <;> simp [Except.map, Except.mapError]
    · intro failure failed
      rw [← Authenticator.verify_forbidden]
      cases checked : state.auth.verify token with
      | ok => rw [checked] at failed; cases failed
      | error error =>
        rw [checked] at failed
        cases failed
        obtain ⟨retryable,denied⟩ := Authenticator.verify_response checked
        refine ⟨retryable,denied.trans ?_⟩
        simp
  · have unborne (token : String) : ¬headers.Bears token := by
      rw [← bearerToken_iff, malformed]
      exact nofun
    have other_state : ¬Undecided state headers proof := by simp [Undecided, unborne, present]
    rw [decided_malformed malformed]
    refine ⟨by simp [unborne],by simp [present],?_,fun turnstile other _ => decided_malformed malformed⟩
    rintro failure ⟨⟩
    simp [unborne, other_state, ApiFailure.ofAuth, ApiFailure.new]

end IntakeApi
