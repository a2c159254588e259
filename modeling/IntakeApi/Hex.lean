import IntakeApi.Text
import Mathlib.Data.List.GetD

/-! Lower-case hexadecimal: the one spelling of every persisted digest. -/
namespace IntakeApi

def lowerHexDigits : List Char := "0123456789abcdef".toList

def hexDigit (nibble : UInt8) : Char := lowerHexDigits.getD nibble.toNat '0'

def lowerHex (bytes : List UInt8) : String :=
  String.ofList (bytes.flatMap fun byte : UInt8 => [hexDigit (byte >>> 4), hexDigit (byte &&& 0x0f)])

/-- The digest check of `SubmissionContext::new` and `verify_upload`. -/
def isDigest (s : String) : Bool := byteLength s == 64 && s.toList.all isLowerHex

theorem hexDigit_isLowerHex (nibble : UInt8) : isLowerHex (hexDigit nibble) = true := by
  have table : ∀ c ∈ lowerHexDigits, isLowerHex c = true := List.all_eq_true.mp (by decide)
  have zero : isLowerHex '0' = true := by decide
  unfold hexDigit
  by_cases inside : nibble.toNat < lowerHexDigits.length
  · rw [List.getD_eq_getElem _ _ inside]
    exact table _ (List.getElem_mem inside)
  · rwa [List.getD_eq_default _ _ (Nat.le_of_not_lt inside)]

theorem lowerHex_isLowerHex (bytes : List UInt8) : ∀ c ∈ (lowerHex bytes).toList, isLowerHex c = true := by
  intro c member
  simp only [lowerHex, String.toList_ofList, List.mem_flatMap, List.mem_cons, List.not_mem_nil,
    or_false] at member
  obtain ⟨byte,_,rfl | rfl⟩ := member <;> exact hexDigit_isLowerHex _

theorem lowerHex_length (bytes : List UInt8) : (lowerHex bytes).toList.length = 2 * bytes.length := by
  rw [lowerHex, String.toList_ofList]
  induction bytes with
  | nil => rfl
  | cons byte bytes ih =>
    rw [List.flatMap_cons, List.length_append, ih, List.length_cons]
    simp only [List.length_cons, List.length_nil]; omega

theorem lowerHex_isDigest (bytes : List UInt8) (length : bytes.length = 32) :
    isDigest (lowerHex bytes) = true := by
  have hex := lowerHex_isLowerHex bytes
  have size := byteLength_ascii (lowerHex bytes)
    fun c member => utf8Size_ascii (isLowerHex_ascii (hex c member))
  rw [lowerHex_length, length] at size
  simpa [isDigest, size] using hex

theorem isDigest_chars {s : String} (digest : isDigest s = true) :
    s.toList.length = 64 ∧ ∀ c ∈ s.toList, isLowerHex c = true := by
  simp only [isDigest, Bool.and_eq_true, beq_iff_eq, List.all_eq_true] at digest
  obtain ⟨size,hex⟩ := digest
  refine ⟨?_,hex⟩
  rw [← size, byteLength_ascii s fun c member => utf8Size_ascii (isLowerHex_ascii (hex c member))]

end IntakeApi
