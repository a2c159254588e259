import IntakeApi.Sample
import IntakeApi.Library.Json

/-! The digest that fences replays, over the JSON value that a body serialises to: it tells apart
whatever differs outside the single-use proof. -/
namespace IntakeApi

open Json

/-- Two digits are read back as their byte. -/
theorem hexDigits_value : ∀ n < 256,
    16 * lowerHexDigits.idxOf (hexDigit (UInt8.ofNat n >>> 4)) +
      lowerHexDigits.idxOf (hexDigit (UInt8.ofNat n &&& 0x0f)) = n := by
  decide +kernel

theorem hexDigits_injective {b c : UInt8} (high : hexDigit (b >>> 4) = hexDigit (c >>> 4))
    (low : hexDigit (b &&& 0x0f) = hexDigit (c &&& 0x0f)) : b = c := by
  have left := hexDigits_value b.toNat b.toNat_lt
  have right := hexDigits_value c.toNat c.toNat_lt
  rw [UInt8.ofNat_toNat] at left right
  exact UInt8.toNat_inj.mp (by rw [← left, ← right, high, low])

theorem lowerHex_injective {a b : List UInt8} (same : lowerHex a = lowerHex b) : a = b := by
  have chars := String.ofList_inj.mp same
  clear same
  induction a generalizing b with
  | nil => cases b with
    | nil => rfl
    | cons d b => cases chars
  | cons c a ih => cases b with
    | nil => cases chars
    | cons d b =>
      simp only [List.flatMap_cons, List.cons_append, List.nil_append, List.cons.injEq] at chars
      obtain ⟨high,low,rest⟩ := chars
      rw [hexDigits_injective high low, ih rest]

section Digest

variable {T : Type} {floats : Floats}

/-- `serde_json::to_vec` of a value. -/
def toVec (value : Value (Number floats)) : List UInt8 :=
  asBytes (String.ofList (write floats.numerals value))

def canonicalDigest (contract : Contract) (value : Value (Number floats)) : Except ApiFailure String :=
  .ok (lowerHex (contract.sha256 (toVec value)))

/-- `toValue` is `serde_json::to_value` of the input. -/
def canonicalDigestWithoutTurnstile (contract : Contract) (toValue : T → Option (Json.Tree (Number floats)))
    (input : T) : Except ApiFailure String :=
  match toValue input with
  | none => .error .invalid
  | some value =>
    match value.asObject with
    | none => .error .invalid
    | some object => canonicalDigest contract (object.remove "turnstileToken").toTree.val

def digested (object : Object (Number floats)) : List UInt8 :=
  toVec (object.remove "turnstileToken").toTree.val

theorem toVec_injective : Function.Injective (@toVec floats) := by
  intro v w same
  have texts := asBytes_injective same
  exact write_injective (by rw [← String.toList_ofList (l := write _ v), texts, String.toList_ofList])

theorem digested_eq_iff {a b : Object (Number floats)} : digested a = digested b ↔
    ∀ key, key ≠ "turnstileToken" → a.get key = b.get key := by
  rw [← Object.remove_eq_iff]
  constructor
  · intro same
    exact Object.toTree_injective (Subtype.ext (toVec_injective same))
  · intro same
    rw [digested, digested, same]

/-- What an input that serialises to an object gets. -/
theorem canonicalDigestWithoutTurnstile_eq {contract : Contract}
    {toValue : T → Option (Json.Tree (Number floats))} {input : T} {object : Object (Number floats)}
    (serialised : toValue input = some object.toTree) :
    canonicalDigestWithoutTurnstile contract toValue input =
      .ok (lowerHex (contract.sha256 (digested object))) := by
  rw [canonicalDigestWithoutTurnstile, serialised]
  rfl

/-- The digest is that of the body without its proof, where the contract writes bodies this way. -/
theorem canonicalDigestWithoutTurnstile_contract {contract : Contract} {kind : StoredSubmissionKind}
    {toValue : Create kind → Option (Json.Tree (Number floats))} {body : Create kind}
    {object : Object (Number floats)} (serialised : toValue body = some object.toTree)
    (written : contract.toVec body.input = digested object) :
    canonicalDigestWithoutTurnstile contract toValue body = .ok (contract.canonicalDigest body.input) := by
  rw [canonicalDigestWithoutTurnstile_eq serialised, ← written]
  rfl

end Digest

/-- Two inputs have one digest just where their fields agree, the top-level proof apart, unless
SHA-256 collides on them; a digest is always one that a context accepts. -/
theorem digest_identifies_payload {T : Type} {floats : Floats} {contract : Contract}
    {toValue : T → Option (Json.Tree (Number floats))} {a b : T} {left right : Object (Number floats)}
    (first : toValue a = some left.toTree) (second : toValue b = some right.toTree)
    (collisionFree : contract.sha256 (digested left) = contract.sha256 (digested right) →
      digested left = digested right) :
    ∃ digest other, canonicalDigestWithoutTurnstile contract toValue a = .ok digest ∧
      canonicalDigestWithoutTurnstile contract toValue b = .ok other ∧
      (digest = other ↔ ∀ key, key ≠ "turnstileToken" → left.get key = right.get key) ∧
      (digest.toList.length = 64 ∧ ∀ c ∈ digest.toList, isLowerHex c = true) ∧
      ∀ canonicalId subject key host, isIdempotencyKey key = true →
        isSourceHost (toAsciiLowercase host) = true →
        ∃ context, SubmissionContext.new canonicalId subject key digest host = .ok context ∧
          context.payloadSha256 = digest := by
  refine ⟨_,_,canonicalDigestWithoutTurnstile_eq first,canonicalDigestWithoutTurnstile_eq second,?_,?_,?_⟩
  · rw [← digested_eq_iff]
    constructor
    · intro same
      exact collisionFree (lowerHex_injective same)
    · intro same
      rw [same]
  · exact isDigest_chars (lowerHex_isDigest _ (contract.sha256_length _))
  · intro canonicalId subject key host valid known
    have digest := lowerHex_isDigest _ (contract.sha256_length (digested left))
    refine ⟨⟨canonicalId,subject,key,_,toAsciiLowercase host,valid,digest,known⟩,?_,rfl⟩
    simp only [SubmissionContext.new, valid, digest, known, dif_pos]

namespace Sample

def floats : Floats where
  Float := Fin (10 ^ 15)
  text x := Nat.toDigits 10 x.val ++ ['.', '0']
  text_injective x y same := Fin.ext (digits_injective (List.append_cancel_right same))
  text_chars x c member := by
    rcases List.mem_append.mp member with digit | rest
    · simp [isNumberChar, digits_isDigit _ c digit]
    · have marks : ∀ d ∈ ['.', '0'], isNumberChar d = true := List.forall_iff_forall_mem.mp (by decide)
      exact marks c rest
  text_marked x := .inl (List.mem_append_right _ List.mem_cons_self)

def preInterestObject (proof : String) : Object (Number floats) where
  fields :=
    [("email",.string preInterest.email), ("entrepreneurshipIdea",.string preInterest.entrepreneurshipIdea),
      ("linkedinUrl",.string preInterest.linkedinUrl),
      ("privacyNoticeVersion",.string preInterest.privacyNoticeVersion),
      ("stayPreference",.string "three_months"), ("turnstileToken",.string proof)]
  canonical := by
    have sorted : ["email", "entrepreneurshipIdea", "linkedinUrl", "privacyNoticeVersion",
      "stayPreference", "turnstileToken"].Pairwise (· < ·) := by decide
    refine .object (List.pairwise_map.mp sorted) fun field member => ?_
    simp only [List.mem_cons, List.not_mem_nil, or_false] at member
    rcases member with rfl | rfl | rfl | rfl | rfl | rfl <;> exact .string _

end Sample

/-- A fresh proof does not make another payload. -/
theorem digest_identifies_payload_proof : ∃ digest,
    canonicalDigestWithoutTurnstile .sample (fun proof => some (Sample.preInterestObject proof).toTree)
      "proof-one" = .ok digest ∧
    canonicalDigestWithoutTurnstile .sample (fun proof => some (Sample.preInterestObject proof).toTree)
      "proof-two" = .ok digest ∧
    digest.toList.length = 64 := by
  have same : digested (Sample.preInterestObject "proof-one") =
      digested (Sample.preInterestObject "proof-two") := rfl
  obtain ⟨digest,other,first,second,equal,size,-⟩ := @digest_identifies_payload _ _ .sample
    (fun proof => some (Sample.preInterestObject proof).toTree) "proof-one" "proof-two" _ _ rfl rfl
    fun _ => same
  have fields := digested_eq_iff.mp same
  exact ⟨digest,first,(equal.mpr fields).symm ▸ second,size.1⟩

end IntakeApi
