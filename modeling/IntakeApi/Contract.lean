import IntakeApi.Hex

/-! The request bodies of the intake contract, as far as the API reads them, and
the parts of the contract that live outside the repository: its validation, the
JSON writer and SHA-256. -/
namespace IntakeApi

abbrev Uuid := BitVec 128

/-- Microseconds, PostgreSQL's resolution of `timestamptz`. -/
abbrev Timestamp := Nat

/-- A calendar date, in days. -/
abbrev Date := Int

def seconds (n : Nat) : Timestamp := n * 1000000
def hours (n : Nat) : Timestamp := seconds (3600 * n)

inductive StoredSubmissionKind where
  | preInterest
  | upload
  | application
  | referral
  deriving DecidableEq, Repr

inductive StayPreference where
  | threeMonths
  | sixMonths
  deriving DecidableEq, Repr

inductive UploadKind where
  | resume
  | photoId
  deriving DecidableEq, Repr

inductive ProjectStage where
  | idea
  | prototype
  | earlyRevenue
  | growing
  | nonprofitOrOpenSource
  deriving DecidableEq, Repr

inductive SensitivityLevel where
  | none
  | low
  | moderate
  | high
  | preferNotToSay
  deriving DecidableEq, Repr

inductive RoommatePreference where
  | privateRoom
  | openToRoommates
  | preferRoommates
  | flexible
  deriving DecidableEq, Repr

structure PreInterestCreate where
  email : String
  linkedinUrl : String
  entrepreneurshipIdea : String
  stayPreference : StayPreference
  privacyNoticeVersion : String

structure UploadIntentCreate where
  kind : UploadKind
  sha256 : String
  contentType : String
  sizeBytes : Nat

structure ApplicationCreate where
  email : String
  linkedinUrl : String
  legalName : String
  dateOfBirth : Date
  nationality : String
  phone : String
  currentCity : String
  githubUrl : Option String
  portfolioUrl : Option String
  entrepreneurshipIdea : String
  projectStage : ProjectStage
  stayPreference : StayPreference
  preferredStartMonth : Date
  communityContribution : String
  accessibilityOrAccommodationNotes : Option String
  allergyNotes : Option String
  noiseSensitivity : SensitivityLevel
  lightSensitivity : SensitivityLevel
  roomPreferenceNotes : Option String
  roommatePreference : RoommatePreference
  preferredRoomOccupancy : Nat
  roommateForLowerCost : Bool
  roommateForSocialConnection : Bool
  accommodationDataConsent : Bool
  resumeUploadId : Uuid
  photoIdUploadId : Uuid
  ageAndIdentityAttestation : Bool
  privacyNoticeVersion : String

structure ReferralCreate where
  refereeName : String
  refereeEmail : String
  refereeLinkedinUrl : String
  relationship : String
  rationale : String
  stayPreference : Option StayPreference
  nomineeConsentConfirmed : Bool

/-- What a submission of a kind says, apart from the single-use Turnstile proof. -/
abbrev Input : StoredSubmissionKind → Type
  | .preInterest => PreInterestCreate
  | .upload => UploadIntentCreate
  | .application => ApplicationCreate
  | .referral => ReferralCreate

/-- A request body. Referrals carry no proof. -/
structure Create (kind : StoredSubmissionKind) where
  input : Input kind
  turnstileToken : Option String

structure UploadCompleteCreate where
  sha256 : String
  turnstileToken : Option String

def maxUploadBytes : Nat := 10 * 1024 * 1024

/-- The contract crate's validation, `serde_json` on a body without its
`turnstileToken`, and SHA-256. The last three fields are what the contract
promises of the bodies it accepts and the API relies on without checking. -/
structure Contract where
  validate : {kind : StoredSubmissionKind} → Create kind → Bool
  validateComplete : UploadCompleteCreate → Bool
  toVec : {kind : StoredSubmissionKind} → Input kind → List UInt8
  sha256 : List UInt8 → List UInt8
  sha256_length : ∀ bytes, (sha256 bytes).length = 32
  upload_sha256 : ∀ body : Create .upload, validate body = true → isDigest body.input.sha256 = true
  upload_size : ∀ body : Create .upload, validate body = true → body.input.sizeBytes ≤ maxUploadBytes
  room_occupancy : ∀ body : Create .application, validate body = true →
    body.input.preferredRoomOccupancy < 2 ^ 15

/-- The digest that fences replays. The proof is not part of it. -/
def Contract.canonicalDigest (contract : Contract) {kind : StoredSubmissionKind} (input : Input kind) :
    String :=
  lowerHex (contract.sha256 (contract.toVec input))

theorem Contract.canonicalDigest_isDigest (contract : Contract) {kind : StoredSubmissionKind}
    (input : Input kind) : isDigest (contract.canonicalDigest input) = true :=
  lowerHex_isDigest _ (contract.sha256_length _)

end IntakeApi
