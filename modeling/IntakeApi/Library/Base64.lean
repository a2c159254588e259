import Mathlib.Data.List.GetD
import Mathlib.Data.List.Basic

/-! Base64 with padding. -/
namespace Base64

def alphabet : List Char :=
  "ABCDEFGHIJKLMNOPQRSTUVWXYZabcdefghijklmnopqrstuvwxyz0123456789+/".toList

def digit (n : Nat) : Char := alphabet.getD n 'A'

def value (c : Char) : Option Nat := if c ∈ alphabet then some (alphabet.idxOf c) else none

def encode : List UInt8 → List Char
  | [] => []
  | [a] => [digit (a.toNat / 4), digit (a.toNat % 4 * 16), '=', '=']
  | [a, b] =>
    [digit (a.toNat / 4), digit (a.toNat % 4 * 16 + b.toNat / 16), digit (b.toNat % 16 * 4), '=']
  | a :: b :: c :: rest =>
    digit (a.toNat / 4) :: digit (a.toNat % 4 * 16 + b.toNat / 16) ::
      digit (b.toNat % 16 * 4 + c.toNat / 64) :: digit (c.toNat % 64) :: encode rest

/-- The padding is only at the end. -/
def decode : List Char → Option (List UInt8)
  | [] => some []
  | w :: x :: y :: z :: rest => do
    let i ← value w
    let j ← value x
    let first := UInt8.ofNat (i * 4 + j / 16)
    if rest = [] ∧ z = '=' ∧ y = '=' then some [first]
    else
      let k ← value y
      let second := UInt8.ofNat (j % 16 * 16 + k / 4)
      if rest = [] ∧ z = '=' then some [first,second]
      else
        let l ← value z
        let bytes ← decode rest
        some (first :: second :: UInt8.ofNat (k % 4 * 64 + l) :: bytes)
  | _ => none

theorem value_digit {n : Nat} (small : n < 64) : value (digit n) = some n := by
  have table : ∀ m < 64, value (digit m) = some m := by decide +kernel
  exact table n small

theorem digit_unpadded {n : Nat} (small : n < 64) : digit n ≠ '=' := by
  have table : ∀ m < 64, digit m ≠ '=' := by decide +kernel
  exact table n small

theorem ofNat_of_eq {n : Nat} {byte : UInt8} (same : n = byte.toNat) : UInt8.ofNat n = byte := by
  rw [same, UInt8.ofNat_toNat]

/-- What is encoded is decoded. -/
theorem decode_encode (bytes : List UInt8) : decode (encode bytes) = some bytes := by
  fun_induction encode bytes with
  | case1 => rfl
  | case2 a =>
    have bound := a.toNat_lt
    simp only [decode, value_digit (show a.toNat / 4 < 64 by omega),
      value_digit (show a.toNat % 4 * 16 < 64 by omega), Option.bind_eq_bind, Option.bind_some, and_self, if_true]
    rw [@ofNat_of_eq _ a (by omega)]
  | case3 a b =>
    have := a.toNat_lt
    have := b.toNat_lt
    have third : b.toNat % 16 * 4 < 64 := by omega
    simp only [decode, value_digit (show a.toNat / 4 < 64 by omega),
      value_digit (show a.toNat % 4 * 16 + b.toNat / 16 < 64 by omega), value_digit third,
      digit_unpadded third, Option.bind_eq_bind, Option.bind_some, and_false, and_self, if_true, if_false]
    rw [@ofNat_of_eq _ a (by omega), @ofNat_of_eq _ b (by omega)]
  | case4 a b c rest ih =>
    have := a.toNat_lt
    have := b.toNat_lt
    have := c.toNat_lt
    have third : b.toNat % 16 * 4 + c.toNat / 64 < 64 := by omega
    have fourth : c.toNat % 64 < 64 := by omega
    simp only [decode, value_digit (show a.toNat / 4 < 64 by omega),
      value_digit (show a.toNat % 4 * 16 + b.toNat / 16 < 64 by omega), value_digit third,
      value_digit fourth, digit_unpadded fourth, ih, Option.bind_eq_bind, Option.bind_some, false_and,
      and_false, if_false]
    rw [@ofNat_of_eq _ a (by omega), @ofNat_of_eq _ b (by omega),
      @ofNat_of_eq _ c (by omega)]

/-- Every character is of the alphabet or padding. -/
theorem encode_chars (bytes : List UInt8) : ∀ c ∈ encode bytes, c ∈ '=' :: alphabet := by
  have digits (n : Nat) : digit n ∈ '=' :: alphabet := by
    apply List.mem_cons_of_mem
    by_cases inside : n < alphabet.length
    · rw [digit, List.getD_eq_getElem _ _ inside]
      exact List.getElem_mem inside
    · rw [digit, List.getD_eq_default _ _ (Nat.le_of_not_lt inside)]
      decide
  fun_induction encode bytes with
  | case1 => simp
  | case2 a => simp only [List.forall_mem_cons, digits, List.mem_cons_self, List.not_mem_nil, false_implies,
      implies_true, and_self]
  | case3 a b => simp only [List.forall_mem_cons, digits, List.mem_cons_self, List.not_mem_nil, false_implies,
      implies_true, and_self]
  | case4 a b c rest ih =>
    simp only [List.forall_mem_cons]
    exact ⟨digits _,digits _,digits _,digits _,ih⟩

end Base64
