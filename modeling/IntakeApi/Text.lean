import Mathlib.Algebra.Group.Nat.Defs
import Mathlib.Data.List.Basic

/-! The string operations of Rust's standard library that the API uses. Lengths
are UTF-8 bytes; whitespace and control characters are Unicode's. -/
namespace IntakeApi

/-- `char::is_whitespace`: the property `White_Space`. -/
def isWhitespace (c : Char) : Bool :=
  let n := c.toNat
  (9 ≤ n && n ≤ 13) || n == 32 || n == 0x85 || n == 0xA0 || n == 0x1680 ||
  (0x2000 ≤ n && n ≤ 0x200A) || n == 0x2028 || n == 0x2029 || n == 0x202F || n == 0x205F ||
  n == 0x3000

/-- `char::is_control`: the general category `Cc`. -/
def isControl (c : Char) : Bool := c.toNat < 32 || (127 ≤ c.toNat && c.toNat < 160)

def trim (s : String) : String :=
  String.ofList ((s.toList.dropWhile isWhitespace).reverse.dropWhile isWhitespace).reverse

/-- `str::len`. -/
def byteLength (s : String) : Nat := s.utf8ByteSize

/-- `is_ascii_alphanumeric`. -/
def isAlphanumeric (c : Char) : Bool :=
  ('0' ≤ c && c ≤ '9') || ('A' ≤ c && c ≤ 'Z') || ('a' ≤ c && c ≤ 'z')

/-- `is_ascii_hexdigit` and not `is_ascii_uppercase`. -/
def isLowerHex (c : Char) : Bool := ('0' ≤ c && c ≤ '9') || ('a' ≤ c && c ≤ 'f')

/-- `to_ascii_lowercase`; `Char.toLower` changes nothing else. -/
def toAsciiLowercase (s : String) : String := String.ofList (s.toList.map Char.toLower)

/-- `split` of a string at every occurrence of a character. -/
def split (separator : Char) (s : String) : List (List Char) := s.toList.splitOn separator

def startsWith (head s : String) : Bool := head.toList.isPrefixOf s.toList

/-- `strip_prefix`. -/
def stripPrefix (head s : String) : Option String :=
  if startsWith head s then some (String.ofList (s.toList.drop head.toList.length)) else none

/-- `split_once`. -/
def splitOnce (separator : Char) (s : String) : Option (String × String) :=
  match s.toList.dropWhile (· ≠ separator) with
  | [] => none
  | _ :: rest => some (String.ofList (s.toList.takeWhile (· ≠ separator)),String.ofList rest)

/-- `char::is_ascii_whitespace`. -/
def isAsciiWhitespace (c : Char) : Bool :=
  let n := c.toNat
  n == 32 || n == 9 || n == 10 || n == 12 || n == 13

/-- `split_ascii_whitespace`: no item is empty. -/
def splitAsciiWhitespace (s : String) : List String :=
  ((s.toList.splitOnP isAsciiWhitespace).filter fun item => !item.isEmpty).map String.ofList

/-- `HeaderValue::to_str`: visible ASCII, spaces and tabs. -/
def toStr (value : List UInt8) : Option String :=
  if value.all fun byte => (32 ≤ byte && byte < 127) || byte == 9 then
    some (String.ofList (value.map fun byte => Char.ofNat byte.toNat))
  else none

/-- `str::as_bytes`. -/
def asBytes (s : String) : List UInt8 := s.toList.flatMap String.utf8EncodeChar

/-- The parts lie around the first separator. -/
theorem splitOnce_some {separator : Char} {s first rest : String} (found : splitOnce separator s = some (first,rest)) :
    s.toList = first.toList ++ separator :: rest.toList ∧ ∀ c ∈ first.toList, c ≠ separator := by
  unfold splitOnce at found
  split at found
  · cases found
  · next c tail dropped =>
    cases found
    have head : c = separator := by
      have stops := List.head?_dropWhile_not (fun d : Char => decide (d ≠ separator)) s.toList
      rw [dropped] at stops
      simpa using stops
    subst head
    refine ⟨?_,?_⟩
    · rw [String.toList_ofList, String.toList_ofList, ← dropped, List.takeWhile_append_dropWhile]
    · intro d member
      rw [String.toList_ofList] at member
      exact of_decide_eq_true (List.all_eq_true.mp List.all_takeWhile d member)

theorem byteLength_ofList (chars : List Char) (ascii : ∀ c ∈ chars, c.utf8Size = 1) :
    byteLength (String.ofList chars) = chars.length := by
  induction chars with
  | nil => rfl
  | cons c chars ih =>
    have split : String.ofList (c :: chars) = String.singleton c ++ String.ofList chars := by
      apply String.toList_inj.mp; simp
    rw [byteLength, split, String.utf8ByteSize_append, String.utf8ByteSize_singleton,
      ascii c List.mem_cons_self]
    have rest := ih fun d member => ascii d (List.mem_cons_of_mem c member)
    rw [byteLength] at rest
    rw [rest, List.length_cons]; omega

theorem byteLength_ascii (s : String) (ascii : ∀ c ∈ s.toList, c.utf8Size = 1) :
    byteLength s = s.toList.length := by
  have equal := byteLength_ofList s.toList ascii
  rwa [String.ofList_toList] at equal

/-- Everything below U+0080 is one byte long. -/
theorem utf8Size_ascii {c : Char} (small : c.toNat < 128) : c.utf8Size = 1 := by
  have bound : c.val ≤ 0x7F := by
    rw [UInt32.le_iff_toNat_le]
    have : c.val.toNat < 128 := small
    simp; omega
  simp [Char.utf8Size, bound]

theorem utf8EncodeChar_ascii {c : Char} (small : c.toNat < 128) :
    String.utf8EncodeChar c = [UInt8.ofNat c.toNat] :=
  String.utf8EncodeChar_eq_singleton (utf8Size_ascii small)

theorem asBytes_ascii (chars : List Char) (ascii : ∀ c ∈ chars, c.toNat < 128) :
    asBytes (String.ofList chars) = chars.map fun c => UInt8.ofNat c.toNat := by
  rw [asBytes, String.toList_ofList]
  induction chars with
  | nil => rfl
  | cons c chars ih =>
    rw [List.flatMap_cons, List.map_cons, utf8EncodeChar_ascii (ascii c List.mem_cons_self),
      ih fun d member => ascii d (List.mem_cons_of_mem c member), List.singleton_append]

theorem asBytes_injective {s t : String} (same : asBytes s = asBytes t) : s = t := by
  have bytes (u : String) : u.toByteArray = (asBytes u).toByteArray := by
    rw [← String.utf8Encode_toList, List.utf8Encode, asBytes]
  exact String.toByteArray_inj.mp (by rw [bytes s, bytes t, same])

/-- A byte that a header value may hold as text. -/
def isVisible (byte : UInt8) : Bool := (32 ≤ byte && byte < 127) || byte == 9

theorem toNat_charOfByte {byte : UInt8} (small : byte.toNat < 128) : (Char.ofNat byte.toNat).toNat = byte.toNat := by
  have scalar : byte.toNat.isValidChar := .inl (by omega)
  rw [Char.ofNat, dif_pos scalar]
  rfl

theorem isVisible_ascii {byte : UInt8} (visible : isVisible byte = true) : byte.toNat < 128 := by
  simp only [isVisible, Bool.or_eq_true, Bool.and_eq_true, decide_eq_true_eq, beq_iff_eq,
    UInt8.le_iff_toNat_le, UInt8.lt_iff_toNat_lt] at visible
  rcases visible with ⟨-,below⟩ | rfl
  · exact Nat.lt_succ_of_lt below
  · decide

/-- The text of a header value is the value. -/
theorem toStr_some {raw : List UInt8} {text : String} (readable : toStr raw = some text) :
    asBytes text = raw ∧ (∀ byte ∈ raw, isVisible byte = true) ∧
      text.toList = raw.map fun byte => Char.ofNat byte.toNat := by
  unfold toStr at readable
  split at readable
  · next visible =>
    cases readable
    have ascii : ∀ byte ∈ raw, byte.toNat < 128 :=
      fun byte member => isVisible_ascii (List.all_eq_true.mp visible byte member)
    refine ⟨?_,List.all_eq_true.mp visible,String.toList_ofList⟩
    rw [asBytes_ascii, List.map_map]
    · refine (List.map_congr_left fun byte member => ?_).trans (List.map_id raw)
      rw [Function.comp_apply, toNat_charOfByte (ascii byte member), UInt8.ofNat_toNat, id_eq]
    · intro c member
      obtain ⟨byte,there,rfl⟩ := List.mem_map.mp member
      rw [toNat_charOfByte (ascii byte there)]
      exact ascii byte there
  · cases readable

/-- Text that a header may hold is read back from its bytes. -/
theorem toStr_asBytes {s : String}
    (visible : ∀ c ∈ s.toList, c.toNat < 128 ∧ isVisible (UInt8.ofNat c.toNat) = true) :
    toStr (asBytes s) = some s := by
  have bytes := asBytes_ascii s.toList fun c member => (visible c member).1
  rw [String.ofList_toList] at bytes
  rw [bytes, toStr, if_pos]
  · rw [Option.some_inj, ← String.toList_inj, String.toList_ofList, List.map_map]
    refine (List.map_congr_left fun c member => ?_).trans (List.map_id _)
    have small := (visible c member).1
    rw [Function.comp_apply, UInt8.toNat_ofNat_of_lt' (Nat.lt_trans small (by decide)), Char.ofNat_toNat, id_eq]
  · refine List.all_eq_true.mpr fun byte member => ?_
    obtain ⟨c,there,rfl⟩ := List.mem_map.mp member
    exact (visible c there).2

theorem toStr_visible {raw : List UInt8} (visible : ∀ byte ∈ raw, isVisible byte = true) :
    toStr raw = some (String.ofList (raw.map fun byte => Char.ofNat byte.toNat)) :=
  if_pos (List.all_eq_true.mpr visible)

theorem isLowerHex_ascii {c : Char} (hex : isLowerHex c = true) : c.toNat < 128 := by
  simp only [isLowerHex, Bool.or_eq_true, Bool.and_eq_true, decide_eq_true_eq, Char.le_def,
    UInt32.le_iff_toNat_le] at hex
  have digit : '9'.val.toNat = 57 := rfl
  have letter : 'f'.val.toNat = 102 := rfl
  have same : c.toNat = c.val.toNat := rfl
  omega

theorem isAlphanumeric_eq (c : Char) : isAlphanumeric c = c.isAlphanum := by
  have ranges : c.isAlphanum = ((decide (c.val ≥ 'A'.val ∧ c.val ≤ 'Z'.val) ||
      (c.val ≥ 'a'.val && c.val ≤ 'z'.val)) || (c.val ≥ '0'.val && c.val ≤ '9'.val)) := rfl
  rw [ranges, Bool.eq_iff_iff]
  simp only [isAlphanumeric, Char.le_def, Bool.or_eq_true, Bool.and_eq_true, decide_eq_true_eq,
    UInt32.le_iff_toNat_le, ge_iff_le]
  simp only [Char.reduceVal, UInt32.reduceToNat]
  omega

theorem isAlphanumeric_ascii {c : Char} (alphanumeric : isAlphanumeric c = true) : c.toNat < 128 := by
  simp only [isAlphanumeric, Bool.or_eq_true, Bool.and_eq_true, decide_eq_true_eq, Char.le_def,
    UInt32.le_iff_toNat_le] at alphanumeric
  have digit : '9'.val.toNat = 57 := rfl
  have upper : 'Z'.val.toNat = 90 := rfl
  have lower : 'z'.val.toNat = 122 := rfl
  have same : c.toNat = c.val.toNat := rfl
  omega

theorem isLowerHex_alphanumeric {c : Char} (hex : isLowerHex c = true) :
    isAlphanumeric c = true := by
  simp only [isLowerHex, isAlphanumeric, Bool.or_eq_true, Bool.and_eq_true, decide_eq_true_eq,
    Char.le_def, UInt32.le_iff_toNat_le] at hex ⊢
  have letter : 'f'.val.toNat = 102 := rfl
  have last : 'z'.val.toNat = 122 := rfl
  omega

end IntakeApi
