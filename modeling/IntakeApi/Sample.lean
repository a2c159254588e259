import IntakeApi.World

/-! A contract that keeps its promises, with the real digests of a few bodies, and
requests with those bodies: the promises are consistent, and runs can be computed. -/
namespace IntakeApi

def asciiBytes (s : String) : List UInt8 := s.toList.map fun c => UInt8.ofNat c.toNat

namespace Sample

def preInterest : PreInterestCreate where
  email := "builder@example.com"
  linkedinUrl := "https://www.linkedin.com/in/builder"
  entrepreneurshipIdea := "A sufficiently detailed proposal that is stable across proof refreshes."
  stayPreference := .threeMonths
  privacyNoticeVersion := "2026-08-01"

/-- The object declared for a kind holds the kind's own name. -/
def content : UploadKind → String
  | .resume => "resume"
  | .photoId => "photo"

def contentDigest : UploadKind → String
  | .resume => "a83a31320d921b888a48fa5edd0b4b5a29984de6e96bf7b8ac7d29ba06caf616"
  | .photoId => "55c64d0fcd6f9d5f7c828093857e3fdfda68478bb4e9bd24d481ef391c7804e8"

def upload (kind : UploadKind) : UploadIntentCreate where
  kind := kind
  sha256 := contentDigest kind
  contentType := "application/pdf"
  sizeBytes := (content kind).toList.length

/-- An application that refers to the uploads 2 and 3. -/
def application : ApplicationCreate where
  email := "builder@example.com"
  linkedinUrl := "https://www.linkedin.com/in/builder"
  legalName := "Ana Builder"
  dateOfBirth := 7305
  nationality := "CO"
  phone := "+573001234567"
  currentCity := "Medellin"
  githubUrl := none
  portfolioUrl := none
  entrepreneurshipIdea := "A sufficiently detailed proposal that is stable across proof refreshes."
  projectStage := .prototype
  stayPreference := .threeMonths
  preferredStartMonth := 20727
  communityContribution := "Weekly workshops on small tools."
  accessibilityOrAccommodationNotes := none
  allergyNotes := none
  noiseSensitivity := .low
  lightSensitivity := .low
  roomPreferenceNotes := none
  roommatePreference := .flexible
  preferredRoomOccupancy := 2
  roommateForLowerCost := false
  roommateForSocialConnection := true
  accommodationDataConsent := true
  resumeUploadId := 2
  photoIdUploadId := 3
  ageAndIdentityAttestation := true
  privacyNoticeVersion := "2026-08-01"

def referral : ReferralCreate where
  refereeName := "Ana Builder"
  refereeEmail := "ana@example.com"
  refereeLinkedinUrl := "https://www.linkedin.com/in/ana"
  relationship := "Worked together for two years."
  rationale := "Ships useful tools and helps others to ship theirs."
  stayPreference := none
  nomineeConsentConfirmed := true

def text : (kind : StoredSubmissionKind) → Input kind → List String
  | .preInterest, _ =>
    ["\x7b\"email\":\"builder@example.com\"",
     ",\"entrepreneurshipIdea\":\"A sufficiently detailed proposal that is stable across proof refreshes.\"",
     ",\"linkedinUrl\":\"https://www.linkedin.com/in/builder\"",
     ",\"privacyNoticeVersion\":\"2026-08-01\"", ",\"stayPreference\":\"three_months\"\x7d"]
  | .upload, input => match input.kind with
    | .resume =>
      ["\x7b\"contentType\":\"application/pdf\"", ",\"kind\":\"resume\"",
       ",\"sha256\":\"a83a31320d921b888a48fa5edd0b4b5a29984de6e96bf7b8ac7d29ba06caf616\"",
       ",\"sizeBytes\":6\x7d"]
    | .photoId =>
      ["\x7b\"contentType\":\"application/pdf\"", ",\"kind\":\"photo_id\"",
       ",\"sha256\":\"55c64d0fcd6f9d5f7c828093857e3fdfda68478bb4e9bd24d481ef391c7804e8\"",
       ",\"sizeBytes\":5\x7d"]
  | .application, _ =>
    ["\x7b\"accessibilityOrAccommodationNotes\":null", ",\"accommodationDataConsent\":true",
     ",\"ageAndIdentityAttestation\":true", ",\"allergyNotes\":null",
     ",\"communityContribution\":\"Weekly workshops on small tools.\"",
     ",\"currentCity\":\"Medellin\"", ",\"dateOfBirth\":\"1990-01-01\"",
     ",\"email\":\"builder@example.com\"",
     ",\"entrepreneurshipIdea\":\"A sufficiently detailed proposal that is stable across proof refreshes.\"",
     ",\"githubUrl\":null", ",\"legalName\":\"Ana Builder\"", ",\"lightSensitivity\":\"low\"",
     ",\"linkedinUrl\":\"https://www.linkedin.com/in/builder\"", ",\"nationality\":\"CO\"",
     ",\"noiseSensitivity\":\"low\"", ",\"phone\":\"+573001234567\"",
     ",\"photoIdUploadId\":\"00000000-0000-0000-0000-000000000003\"", ",\"portfolioUrl\":null",
     ",\"preferredRoomOccupancy\":2", ",\"preferredStartMonth\":\"2026-10-01\"",
     ",\"privacyNoticeVersion\":\"2026-08-01\"", ",\"projectStage\":\"prototype\"",
     ",\"resumeUploadId\":\"00000000-0000-0000-0000-000000000002\"",
     ",\"roomPreferenceNotes\":null", ",\"roommateForLowerCost\":false",
     ",\"roommateForSocialConnection\":true", ",\"roommatePreference\":\"flexible\"",
     ",\"stayPreference\":\"three_months\"\x7d"]
  | .referral, _ =>
    ["\x7b\"nomineeConsentConfirmed\":true",
     ",\"rationale\":\"Ships useful tools and helps others to ship theirs.\"",
     ",\"refereeEmail\":\"ana@example.com\"",
     ",\"refereeLinkedinUrl\":\"https://www.linkedin.com/in/ana\"",
     ",\"refereeName\":\"Ana Builder\"", ",\"relationship\":\"Worked together for two years.\"",
     ",\"stayPreference\":null\x7d"]

/-- SHA-256 of the sample bodies and objects, told apart by how they begin. -/
def digests : List (List String × Nat) :=
  [(["\x7b\"email"],0x7daff03ea388df47df1829bdc6611aa24ce1f487c64bb262c1c311048dcd15aa),
    (["\x7b\"contentType","\":\"application/pdf","\",\"kind\":\"resume"],
      0x0dbc098b439dcd9bbcbd90902c49105dd8bf793131a3ad280f665b02e81dd351),
    (["\x7b\"contentType","\":\"application/pdf","\",\"kind\":\"photo_id"],
      0x550fe25a372c12ad905a0b96492d55ceae7405f40a966045dc6d4a661c6f4b98),
    (["\x7b\"accessibility"],0x85649996072cb9f8fc183e49ef631469162b579a7ffc411096bbee7f7f7341ed),
    (["\x7b\"nominee"],0xf8f8389d254e6c1a51065467f6bfe6ace08419f41740c356ac3d504daba4e96d),
    ([content .resume],0xa83a31320d921b888a48fa5edd0b4b5a29984de6e96bf7b8ac7d29ba06caf616),
    ([content .photoId],0x55c64d0fcd6f9d5f7c828093857e3fdfda68478bb4e9bd24d481ef391c7804e8)]

def bytesOf (digest : Nat) : List UInt8 :=
  (List.range 32).map fun i => UInt8.ofNat (digest / 256 ^ (31 - i) % 256)

/-- Unknown bytes get the zero digest. -/
def sha256 (bytes : List UInt8) : List UInt8 :=
  match digests.find? fun entry => (entry.1.flatMap asciiBytes).isPrefixOf bytes with
  | some entry => bytesOf entry.2
  | none => bytesOf 0

theorem sha256_length (bytes : List UInt8) : (sha256 bytes).length = 32 := by
  unfold sha256
  split <;> simp only [bytesOf, List.length_map, List.length_range]

end Sample

/-- Accepts what its promises allow. -/
def Contract.sample : Contract where
  validate {kind} body := match kind, body with
    | .upload, body => isDigest body.input.sha256 && body.input.sizeBytes ≤ maxUploadBytes
    | .application, body => body.input.preferredRoomOccupancy < 2 ^ 15
    | _, _ => true
  validateComplete body := isDigest body.sha256
  toVec {kind} input := (Sample.text kind input).flatMap asciiBytes
  sha256 := Sample.sha256
  sha256_length := Sample.sha256_length
  upload_sha256 body valid := by
    simp only [Bool.and_eq_true] at valid
    exact valid.1
  upload_size body valid := by
    simp only [Bool.and_eq_true, decide_eq_true_eq] at valid
    exact valid.2
  room_occupancy body valid := of_decide_eq_true valid

namespace Sample

/-- A clock reading at which nothing fails and the storage is out of reach. -/
def calm (now : Timestamp) : Env where
  apiNow := now
  databaseNow := now
  faults := .clear
  signedUrl := .error .unavailable
  object := .error .unavailable

def owner : VerifiedSubject := ⟨"user-1",by decide⟩
def stranger : VerifiedSubject := ⟨"user-2",by decide⟩

/-- A request under one key, from a host of the intake. -/
def arrival (subject : Option VerifiedSubject) (canonicalId : Uuid) (request : Request)
    (host : String) : Arrival where
  admission :=
    { bearer := .ok subject
      turnstile := fun _ => .ok ()
      idempotencyKey := some "intake-key-000001"
      origin := some ⟨"https",some host,"/",none,none⟩ }
  canonicalId := canonicalId
  request := request

def anonymous (canonicalId : Uuid) : Arrival :=
  arrival none canonicalId (.create .preInterest ⟨preInterest,some "proof-one"⟩) "hhaus.org"

def intent (canonicalId : Uuid) (kind : UploadKind) : Arrival :=
  arrival none canonicalId (.create .upload ⟨upload kind,some "proof-one"⟩) "hhaus.org"

def keyed (key : String) (arrival : Arrival) : Arrival :=
  { arrival with admission := { arrival.admission with idempotencyKey := some key } }

/-- What the requests of anonymous callers are persisted under. -/
def context (canonicalId : Uuid) {kind : StoredSubmissionKind} (input : Input kind) : SubmissionContext :=
  ⟨canonicalId,none,"intake-key-000001",Contract.sample.canonicalDigest input,"hhaus.org",by decide,
    Contract.canonicalDigest_isDigest _ _,by decide⟩

end Sample
end IntakeApi
