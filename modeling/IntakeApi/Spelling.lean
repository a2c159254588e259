import IntakeApi.Digest
import IntakeApi.PersistenceRules

/-! The spellings that the digest checks accept are just those that a digest is written in. -/
namespace IntakeApi

def hexValue (c : Char) : Option Nat :=
  if c ∈ lowerHexDigits then some (lowerHexDigits.idxOf c) else none

/-- Two digits a byte. -/
def decodeHex : List Char → Option (List UInt8)
  | [] => some []
  | [_] => none
  | high :: low :: rest => do
    let first ← hexValue high
    let second ← hexValue low
    let bytes ← decodeHex rest
    some (UInt8.ofNat (16 * first + second) :: bytes)

theorem hexDigit_value (nibble : UInt8) :
    hexValue (hexDigit nibble) = some (lowerHexDigits.idxOf (hexDigit nibble)) := by
  have table : ∀ n < 256, hexDigit (UInt8.ofNat n) ∈ lowerHexDigits := by decide +kernel
  have member := table nibble.toNat nibble.toNat_lt
  rw [UInt8.ofNat_toNat] at member
  exact if_pos member

theorem decodeHex_lowerHex (bytes : List UInt8) : decodeHex (lowerHex bytes).toList = some bytes := by
  rw [lowerHex, String.toList_ofList]
  induction bytes with
  | nil => rfl
  | cons byte bytes ih =>
    have value := hexDigits_value byte.toNat byte.toNat_lt
    rw [UInt8.ofNat_toNat] at value
    simp only [List.flatMap_cons, List.cons_append, List.nil_append, decodeHex, hexDigit_value, ih,
      Option.bind_eq_bind, Option.bind_some, value, UInt8.ofNat_toNat]

theorem isLowerHex_member {c : Char} (hex : isLowerHex c = true) : c ∈ lowerHexDigits := by
  have table : ∀ n < 128, isLowerHex (Char.ofNat n) = true → Char.ofNat n ∈ lowerHexDigits := by decide
  have found := table c.toNat (isLowerHex_ascii hex)
  rw [Char.ofNat_toNat] at found
  exact found hex

/-- A pair of digits spells a byte, which is written in these digits. -/
theorem hexDigits_spelled {high low : Char} (first : isLowerHex high = true) (second : isLowerHex low = true) :
    ∃ byte : UInt8, hexDigit (byte >>> 4) = high ∧ hexDigit (byte &&& 0x0f) = low := by
  have table : ∀ i < 16, ∀ j < 16,
      hexDigit (UInt8.ofNat (16 * i + j) >>> 4) = lowerHexDigits.getD i '0' ∧
      hexDigit (UInt8.ofNat (16 * i + j) &&& 0x0f) = lowerHexDigits.getD j '0' := by decide +kernel
  obtain ⟨i,below,rfl⟩ := List.mem_iff_getElem.mp (isLowerHex_member first)
  obtain ⟨j,under,rfl⟩ := List.mem_iff_getElem.mp (isLowerHex_member second)
  have spelled := table i below j under
  rw [List.getD_eq_getElem _ _ below, List.getD_eq_getElem _ _ under] at spelled
  exact ⟨_,spelled⟩

theorem lowerHex_spelled (n : Nat) {chars : List Char} (size : chars.length = 2 * n)
    (hex : ∀ c ∈ chars, isLowerHex c = true) :
    ∃ bytes, bytes.length = n ∧ (lowerHex bytes).toList = chars := by
  induction n generalizing chars with
  | zero =>
    rw [List.length_eq_zero_iff.mp size]
    exact ⟨[],rfl,rfl⟩
  | succ n ih => match chars, size with
    | high :: low :: rest, size =>
      have even : rest.length = 2 * n := by simp only [List.length_cons] at size; omega
      obtain ⟨byte,upper,lower⟩ := hexDigits_spelled (hex high List.mem_cons_self)
        (hex low (List.mem_cons_of_mem _ List.mem_cons_self))
      obtain ⟨bytes,length,spelled⟩ :=
        ih even fun c member => hex c (List.mem_cons_of_mem _ (List.mem_cons_of_mem _ member))
      rw [lowerHex, String.toList_ofList] at spelled
      refine ⟨byte :: bytes,by rw [List.length_cons, length],?_⟩
      rw [lowerHex, String.toList_ofList, List.flatMap_cons, spelled, upper, lower]
      rfl

theorem isDigest_iff {s : String} :
    isDigest s = true ↔ ∃ bytes : List UInt8, bytes.length = 32 ∧ lowerHex bytes = s := by
  constructor
  · intro digest
    obtain ⟨size,hex⟩ := isDigest_chars digest
    obtain ⟨bytes,length,spelled⟩ := lowerHex_spelled 32 size hex
    exact ⟨bytes,length,String.toList_inj.mp spelled⟩
  · rintro ⟨bytes,length,rfl⟩
    exact lowerHex_isDigest bytes length

/-- The check of `SubmissionContext::new` lets the digest of a payload pass, whatever the rest is. -/
def PayloadAccepted (payloadSha256 : String) : Prop :=
  ∀ canonicalId subject key host, SubmissionContext.new canonicalId subject key payloadSha256 host ≠
    .error (.invalidContext "payload_sha256")

/-- The check of `verify_upload` lets the digest of an object pass, whatever the rest is. -/
def ObservedAccepted (observedSha256 : String) : Prop :=
  ∀ now id subject db, perform now (verifyUpload id subject observedSha256) db ≠
    .error (.invalidContext "observed_sha256")

theorem payloadAccepted_iff {s : String} : PayloadAccepted s ↔ isDigest s = true := by
  constructor
  · intro accepted
    by_contra digest
    apply accepted ⟨0,by decide⟩ none "0123456789abcdef" "hhaus.org"
    have valid : isIdempotencyKey "0123456789abcdef" = true := by decide
    simp only [SubmissionContext.new, valid, digest, dif_pos, dif_neg, not_false_iff]
  · intro digest canonicalId subject key host
    simp only [SubmissionContext.new, digest, dif_pos]
    split
    · split <;> simp
    · simp

theorem observedAccepted_iff {s : String} : ObservedAccepted s ↔ isDigest s = true := by
  constructor
  · intro accepted
    by_contra digest
    apply accepted 0 ⟨0,by decide⟩ none .empty
    rw [perform_verifyUpload, if_neg digest]
  · intro digest now id subject db
    rw [perform_verifyUpload, if_pos digest]
    split <;> simp

/-- Writing in hexadecimal is a bijection from the 32 byte digests to the texts that both checks
accept, and it is undone two digits at a time. -/
theorem lowerHex_bijective :
    (∀ bytes : List UInt8, (lowerHex bytes).toList.length = 2 * bytes.length ∧
      (∀ c ∈ (lowerHex bytes).toList, isLowerHex c = true) ∧
      decodeHex (lowerHex bytes).toList = some bytes) ∧
    Set.BijOn lowerHex {bytes | bytes.length = 32} {s | PayloadAccepted s ∧ ObservedAccepted s} ∧
    ∀ s, PayloadAccepted s ↔ ObservedAccepted s := by
  have both (s : String) : PayloadAccepted s ∧ ObservedAccepted s ↔ isDigest s = true := by
    rw [payloadAccepted_iff, observedAccepted_iff, and_self_iff]
  refine ⟨fun bytes => ⟨lowerHex_length bytes,lowerHex_isLowerHex bytes,decodeHex_lowerHex bytes⟩,
    ⟨?_,?_,?_⟩,?_⟩
  · intro bytes length
    exact (both _).mpr (lowerHex_isDigest bytes length)
  · intro a _ b _ same
    exact lowerHex_injective same
  · intro s accepted
    exact isDigest_iff.mp ((both s).mp accepted)
  · intro s
    rw [payloadAccepted_iff, observedAccepted_iff]

end IntakeApi
