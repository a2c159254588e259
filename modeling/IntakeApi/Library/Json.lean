import Mathlib.Data.List.Sort
import Mathlib.Data.String.Basic

/-! JSON values, their compact text, and that the text determines the value. How a number is
spelled is a parameter. -/
namespace Json

/-- The fields of an object stand in the order of their text. -/
inductive Value (N : Type) where
  | null
  | bool (b : Bool)
  | number (n : N)
  | string (s : String)
  | array (items : List (Value N))
  | object (fields : List (String × Value N))

def isNumberChar (c : Char) : Bool := c.isDigit || c == '-' || c == '+' || c == '.' || c == 'e' || c == 'E'

structure Numerals (N : Type) where
  text : N → List Char
  text_injective : Function.Injective text
  text_ne_nil : ∀ n, text n ≠ []
  text_chars : ∀ n, ∀ c ∈ text n, isNumberChar c = true

/-- The spelling of finite floating-point numbers, each by a text of its own with a point or an
exponent. -/
structure Floats where
  Float : Type
  text : Float → List Char
  text_injective : Function.Injective text
  text_chars : ∀ x, ∀ c ∈ text x, isNumberChar c = true
  text_marked : ∀ x, '.' ∈ text x ∨ 'e' ∈ text x

inductive Number (floats : Floats) where
  | integer (n : Int)
  | float (x : floats.Float)

def integerText (n : Int) : List Char :=
  if n < 0 then '-' :: Nat.toDigits 10 n.natAbs else Nat.toDigits 10 n.natAbs

theorem digits_isDigit (n : Nat) : ∀ c ∈ Nat.toDigits 10 n, c.isDigit = true :=
  fun _ member => Nat.isDigit_of_mem_toDigits (by decide) (by decide) member

theorem digits_injective {m n : Nat} (same : Nat.toDigits 10 m = Nat.toDigits 10 n) : m = n := by
  rw [← @Nat.ofDigitChars_ten_toDigits m, same, Nat.ofDigitChars_ten_toDigits]

theorem minus_digits {m n : Nat} : '-' :: Nat.toDigits 10 m ≠ Nat.toDigits 10 n :=
  fun same => absurd (digits_isDigit n '-' (same ▸ List.mem_cons_self)) (by decide)

theorem integerText_injective : Function.Injective integerText := by
  intro m n same
  unfold integerText at same
  split at same <;> split at same
  · have equal := digits_injective (List.cons.inj same).2
    omega
  · exact absurd same minus_digits
  · exact absurd same.symm minus_digits
  · have equal := digits_injective same
    omega

theorem integerText_chars (n : Int) : ∀ c ∈ integerText n, c.isDigit = true ∨ c = '-' := by
  intro c member
  unfold integerText at member
  split at member
  · rcases List.mem_cons.mp member with minus | digit
    · exact .inr minus
    · exact .inl (digits_isDigit _ c digit)
  · exact .inl (digits_isDigit _ c member)

theorem integerText_ne_nil (n : Int) : integerText n ≠ [] := by
  unfold integerText
  split
  · exact List.cons_ne_nil _ _
  · exact Nat.toDigits_ne_nil

/-- No integer is spelled like a floating-point number. -/
theorem Floats.apart (floats : Floats) (n : Int) (x : floats.Float) : integerText n ≠ floats.text x := by
  intro same
  rcases floats.text_marked x with point | exponent
  · rcases integerText_chars n _ (same ▸ point) with digit | minus
    · exact absurd digit (by decide)
    · exact absurd minus (by decide)
  · rcases integerText_chars n _ (same ▸ exponent) with digit | minus
    · exact absurd digit (by decide)
    · exact absurd minus (by decide)

def Floats.numberText (floats : Floats) : Number floats → List Char
  | .integer n => integerText n
  | .float x => floats.text x

def Floats.numerals (floats : Floats) : Numerals (Number floats) where
  text := floats.numberText
  text_injective := by
    intro m n same
    cases m <;> cases n
    · exact congrArg Number.integer (integerText_injective same)
    · exact absurd same (floats.apart _ _)
    · exact absurd same.symm (floats.apart _ _)
    · exact congrArg Number.float (floats.text_injective same)
  text_ne_nil n empty := by
    cases n with
    | integer n => exact integerText_ne_nil n empty
    | float x =>
      rcases floats.text_marked x with member | member <;>
        exact List.ne_nil_of_mem member empty
  text_chars n c member := by
    cases n with
    | integer n =>
      rcases integerText_chars n c member with digit | minus
      · simp [isNumberChar, digit]
      · simp [isNumberChar, minus]
    | float x => exact floats.text_chars x c member

/-- The characters that a string does not hold as they are. -/
def escapedChars : List Char := '"' :: '\\' :: (List.range 0x20).map Char.ofNat

def hexDigit (n : Nat) : Char := "0123456789abcdef".toList.getD n '0'

def escape (c : Char) : List Char :=
  if c = '"' then ['\\', '"']
  else if c = '\\' then ['\\', '\\']
  else if c = Char.ofNat 0x08 then ['\\', 'b']
  else if c = Char.ofNat 0x0c then ['\\', 'f']
  else if c = '\n' then ['\\', 'n']
  else if c = '\r' then ['\\', 'r']
  else if c = '\t' then ['\\', 't']
  else if c.toNat < 0x20 then ['\\', 'u', '0', '0', hexDigit (c.toNat / 16), hexDigit (c.toNat % 16)]
  else [c]

def writeString (s : String) : List Char := '"' :: (s.toList.flatMap escape ++ ['"'])

def comma (first : Bool) : List Char := if first then [] else [',']

section Write

variable {N : Type} (numerals : Numerals N)

mutual
def write : Value N → List Char
  | .null => ['n', 'u', 'l', 'l']
  | .bool true => ['t', 'r', 'u', 'e']
  | .bool false => ['f', 'a', 'l', 's', 'e']
  | .number n => numerals.text n
  | .string s => writeString s
  | .array items => '[' :: writeItems true items
  | .object fields => '{' :: writeFields true fields
def writeItems (first : Bool) : List (Value N) → List Char
  | [] => [']']
  | item :: items => comma first ++ write item ++ writeItems false items
def writeFields (first : Bool) : List (String × Value N) → List Char
  | [] => [Char.ofNat 0x7d]
  | (key,value) :: fields => comma first ++ writeString key ++ ':' :: write value ++ writeFields false fields
end

end Write

theorem escape_plain {c : Char} (plain : c ∉ escapedChars) : escape c = [c] := by
  have apart : ∀ d ∈ escapedChars, c ≠ d := fun d member same => plain (same ▸ member)
  have large : ¬c.toNat < 0x20 := by
    intro small
    refine plain (List.mem_cons_of_mem _ (List.mem_cons_of_mem _ ?_))
    exact List.mem_map.mpr ⟨c.toNat,List.mem_range.mpr small,Char.ofNat_toNat c⟩
  simp only [escape, apart '"' (by decide), apart '\\' (by decide), apart (Char.ofNat 0x08) (by decide),
    apart (Char.ofNat 0x0c) (by decide), apart '\n' (by decide), apart '\r' (by decide),
    apart '\t' (by decide), large, if_false]

theorem escape_escaped : ∀ c ∈ escapedChars, (escape c).head? = some '\\' :=
  List.forall_iff_forall_mem.mp (by decide)

theorem escape_code : ∀ c ∈ escapedChars, ∀ d ∈ escapedChars, escape c <+: escape d → c = d := by
  simp only [← List.forall_iff_forall_mem]
  decide +kernel

theorem escape_head (c : Char) : ∃ first rest, escape c = first :: rest ∧ first ≠ '"' := by
  by_cases escaped : c ∈ escapedChars
  · obtain ⟨rest,spelled⟩ := List.head?_eq_some_iff.mp (escape_escaped c escaped)
    exact ⟨_,rest,spelled,by decide⟩
  · refine ⟨c,[],escape_plain escaped,?_⟩
    rintro rfl
    exact escaped (by decide)

/-- An escape begins no plain character, and no plain character an escape. -/
theorem escape_apart {c d : Char} (escaped : c ∈ escapedChars) (plain : d ∉ escapedChars) {r s : List Char} :
    escape c ++ r ≠ escape d ++ s := by
  intro same
  obtain ⟨rest,spelled⟩ := List.head?_eq_some_iff.mp (escape_escaped c escaped)
  rw [spelled, escape_plain plain] at same
  obtain ⟨rfl,-⟩ := List.cons.inj same
  exact plain (by decide)

theorem escape_append {c d : Char} {r s : List Char} (same : escape c ++ r = escape d ++ s) :
    c = d ∧ r = s := by
  have equal : c = d := by
    by_cases left : c ∈ escapedChars <;> by_cases right : d ∈ escapedChars
    · rcases List.prefix_or_prefix_of_prefix (List.prefix_append (escape c) r)
        (same ▸ List.prefix_append (escape d) s) with begins | begins
      · exact escape_code c left d right begins
      · exact (escape_code d right c left begins).symm
    · exact absurd same (escape_apart left right)
    · exact absurd same.symm (escape_apart right left)
    · rw [escape_plain left, escape_plain right] at same
      exact (List.cons.inj same).1
  subst equal
  exact ⟨rfl,List.append_cancel_left same⟩

theorem escapes_append {s t : List Char} {r q : List Char}
    (same : s.flatMap escape ++ '"' :: r = t.flatMap escape ++ '"' :: q) : s = t ∧ r = q := by
  induction s generalizing t with
  | nil =>
    cases t with
    | nil => exact ⟨rfl,(List.cons.inj same).2⟩
    | cons d t =>
      obtain ⟨first,rest,spelled,apart⟩ := escape_head d
      rw [List.flatMap_cons, spelled] at same
      exact absurd (List.cons.inj same).1.symm apart
  | cons c s ih =>
    cases t with
    | nil =>
      obtain ⟨first,rest,spelled,apart⟩ := escape_head c
      rw [List.flatMap_cons, spelled] at same
      exact absurd (List.cons.inj same).1 apart
    | cons d t =>
      simp only [List.flatMap_cons, List.append_assoc] at same
      obtain ⟨rfl,rest⟩ := escape_append same
      obtain ⟨rfl,rfl⟩ := ih rest
      exact ⟨rfl,rfl⟩

theorem writeString_append {s t : String} {r q : List Char}
    (same : writeString s ++ r = writeString t ++ q) : s = t ∧ r = q := by
  simp only [writeString, List.cons_append, List.append_assoc, List.nil_append, List.cons.injEq,
    true_and] at same
  obtain ⟨chars,rest⟩ := escapes_append same
  exact ⟨String.toList_inj.mp chars,rest⟩

def Stops (rest : List Char) : Prop := ∀ c ∈ rest.head?, isNumberChar c = false

theorem Stops.takeWhile {text rest : List Char} (stops : Stops rest)
    (chars : ∀ c ∈ text, isNumberChar c = true) : (text ++ rest).takeWhile isNumberChar = text := by
  rw [List.takeWhile_append_of_pos chars]
  cases rest with
  | nil => rw [List.takeWhile_nil, List.append_nil]
  | cons c rest => rw [List.takeWhile_cons_of_neg (by simp [stops c rfl]), List.append_nil]

section Injective

variable {N : Type} {numerals : Numerals N}

theorem Numerals.append {m n : N} {r s : List Char} (left : Stops r) (right : Stops s)
    (same : numerals.text m ++ r = numerals.text n ++ s) : m = n ∧ r = s := by
  have texts := congrArg (List.takeWhile isNumberChar) same
  rw [left.takeWhile (numerals.text_chars m), right.takeWhile (numerals.text_chars n)] at texts
  exact ⟨numerals.text_injective texts,List.append_cancel_left (texts ▸ same)⟩

def leads (c : Char) : Nat :=
  if isNumberChar c then 0
  else if c = 'n' then 1
  else if c = 't' || c = 'f' then 2
  else if c = '"' then 3
  else if c = '[' then 4
  else if c = Char.ofNat 0x7b then 5
  else 6

def Value.rank : Value N → Nat
  | .number _ => 0
  | .null => 1
  | .bool _ => 2
  | .string _ => 3
  | .array _ => 4
  | .object _ => 5

theorem Value.rank_lt (v : Value N) : v.rank < 6 := by
  unfold rank
  split <;> decide

theorem write_head (v : Value N) : ∃ first rest, write numerals v = first :: rest ∧ leads first = v.rank := by
  cases v with
  | null => exact ⟨_,_,rfl,(by decide : leads 'n' = 1)⟩
  | bool b =>
    cases b with
    | false => exact ⟨_,_,rfl,(by decide : leads 'f' = 2)⟩
    | true => exact ⟨_,_,rfl,(by decide : leads 't' = 2)⟩
  | number n =>
    obtain ⟨first,rest,spelled⟩ := List.exists_cons_of_ne_nil (numerals.text_ne_nil n)
    exact ⟨first,rest,spelled,if_pos (numerals.text_chars n first (spelled ▸ List.mem_cons_self))⟩
  | string s => exact ⟨_,_,rfl,(by decide : leads '"' = 3)⟩
  | array items => exact ⟨_,_,rfl,(by decide : leads '[' = 4)⟩
  | object fields => exact ⟨_,_,rfl,(by decide : leads (Char.ofNat 0x7b) = 5)⟩

theorem write_rank {v w : Value N} {r s : List Char} (same : write numerals v ++ r = write numerals w ++ s) :
    v.rank = w.rank := by
  obtain ⟨c,_,left,leftRank⟩ := @write_head _ numerals v
  obtain ⟨d,_,right,rightRank⟩ := @write_head _ numerals w
  rw [left, right] at same
  rw [← leftRank, ← rightRank, (List.cons.inj same).1]

/-- What follows an element does not go on with a number. -/
theorem stops_items (items : List (Value N)) (r : List Char) : Stops (writeItems numerals false items ++ r) := by
  cases items <;> (rintro c ⟨⟩; decide)

theorem stops_fields (fields : List (String × Value N)) (r : List Char) :
    Stops (writeFields numerals false fields ++ r) := by
  cases fields <;> (rintro c ⟨⟩; decide)

/-- The end of an array is not the start of an element. -/
theorem end_of_items {first : Bool} {item : Value N} {r s : List Char} :
    ']' :: r ≠ comma first ++ (write numerals item ++ s) := by
  cases first with
  | false => intro same; cases same
  | true =>
    intro same
    obtain ⟨c,rest,spelled,rank⟩ := @write_head _ numerals item
    rw [spelled] at same
    rw [← (List.cons.inj same).1, (by decide : leads ']' = 6)] at rank
    exact absurd rank.symm (Nat.ne_of_lt item.rank_lt)

theorem end_of_fields {first : Bool} {key : String} {r s : List Char} :
    Char.ofNat 0x7d :: r ≠ comma first ++ (writeString key ++ s) := by
  cases first <;> (intro same; cases same)

mutual
/-- A text begins with at most one value. -/
theorem write_append : ∀ (v w : Value N) {r s : List Char}, Stops r → Stops s →
    write numerals v ++ r = write numerals w ++ s → v = w ∧ r = s
  | .null, w, r, s, left, right, same => by
    have rank := write_rank same
    cases w with
    | null => exact ⟨rfl,List.append_cancel_left same⟩
    | _ => cases rank
  | .bool b, w, r, s, left, right, same => by
    have rank := write_rank same
    cases w with
    | bool c =>
      have equal : b = c := by
        cases b <;> cases c
        · rfl
        · cases same
        · cases same
        · rfl
      subst equal
      exact ⟨rfl,List.append_cancel_left same⟩
    | _ => cases rank
  | .number n, w, r, s, left, right, same => by
    have rank := write_rank same
    cases w with
    | number m =>
      obtain ⟨rfl,rest⟩ := numerals.append left right same
      exact ⟨rfl,rest⟩
    | _ => cases rank
  | .string t, w, r, s, left, right, same => by
    have rank := write_rank same
    cases w with
    | string u =>
      obtain ⟨rfl,rest⟩ := writeString_append same
      exact ⟨rfl,rest⟩
    | _ => cases rank
  | .array items, w, r, s, left, right, same => by
    have rank := write_rank same
    cases w with
    | array others =>
      simp only [write, List.cons_append, List.cons.injEq, true_and] at same
      obtain ⟨rfl,rest⟩ := writeItems_append true items others same
      exact ⟨rfl,rest⟩
    | _ => cases rank
  | .object fields, w, r, s, left, right, same => by
    have rank := write_rank same
    cases w with
    | object others =>
      simp only [write, List.cons_append, List.cons.injEq, true_and] at same
      obtain ⟨rfl,rest⟩ := writeFields_append true fields others same
      exact ⟨rfl,rest⟩
    | _ => cases rank
theorem writeItems_append : ∀ (first : Bool) (v w : List (Value N)) {r s : List Char},
    writeItems numerals first v ++ r = writeItems numerals first w ++ s → v = w ∧ r = s
  | first, [], w, r, s, same => by
    cases w with
    | nil => exact ⟨rfl,(List.cons.inj same).2⟩
    | cons other others =>
      simp only [writeItems, List.append_assoc] at same
      exact absurd same end_of_items
  | first, item :: items, w, r, s, same => by
    cases w with
    | nil =>
      simp only [writeItems, List.append_assoc] at same
      exact absurd same.symm end_of_items
    | cons other others =>
      simp only [writeItems, List.append_assoc, List.append_cancel_left_eq] at same
      obtain ⟨rfl,rest⟩ := write_append item other (stops_items items r) (stops_items others s) same
      obtain ⟨rfl,follows⟩ := writeItems_append false items others rest
      exact ⟨rfl,follows⟩
theorem writeFields_append : ∀ (first : Bool) (v w : List (String × Value N)) {r s : List Char},
    writeFields numerals first v ++ r = writeFields numerals first w ++ s → v = w ∧ r = s
  | first, [], w, r, s, same => by
    cases w with
    | nil => exact ⟨rfl,(List.cons.inj same).2⟩
    | cons other others =>
      simp only [writeFields, List.append_assoc] at same
      exact absurd same end_of_fields
  | first, (key,value) :: fields, w, r, s, same => by
    cases w with
    | nil =>
      simp only [writeFields, List.append_assoc] at same
      exact absurd same.symm end_of_fields
    | cons other others =>
      simp only [writeFields, List.append_assoc, List.cons_append, List.append_cancel_left_eq] at same
      obtain ⟨rfl,values⟩ := writeString_append same
      obtain ⟨rfl,rest⟩ := write_append value other.2 (stops_fields fields r) (stops_fields others s)
        (List.cons.inj values).2
      obtain ⟨rfl,follows⟩ := writeFields_append false fields others rest
      exact ⟨rfl,follows⟩
end

theorem write_injective : Function.Injective (write numerals) := by
  intro v w same
  have ended : Stops [] := fun c member => by cases member
  exact (write_append v w ended ended (congrArg (· ++ []) same)).1

end Injective

/-- Every object has its keys in order, each once. -/
inductive Canonical {N : Type} : Value N → Prop where
  | null : Canonical .null
  | bool (b : Bool) : Canonical (.bool b)
  | number (n : N) : Canonical (.number n)
  | string (s : String) : Canonical (.string s)
  | array {items : List (Value N)} : (∀ item ∈ items, Canonical item) → Canonical (.array items)
  | object {fields : List (String × Value N)} : fields.Pairwise (fun a b => a.1 < b.1) →
      (∀ field ∈ fields, Canonical field.2) → Canonical (.object fields)

/-- A map from keys to values, as the list of its fields in order. -/
structure Object (N : Type) where
  fields : List (String × Value N)
  canonical : Canonical (.object fields)

/-- A value as it is held in memory. -/
abbrev Tree (N : Type) := {v : Value N // Canonical v}

def Tree.asObject {N : Type} : Tree N → Option (Object N)
  | ⟨.object fields,canonical⟩ => some ⟨fields,canonical⟩
  | _ => none

namespace Object

variable {N : Type} (a b : Object N) (key : String)

def toTree : Tree N := ⟨.object a.fields,a.canonical⟩

theorem toTree_injective : Function.Injective (@toTree N) := by
  rintro ⟨fields,_⟩ ⟨others,_⟩ same
  cases same
  rfl

theorem sorted : a.fields.Pairwise fun x y => x.1 < y.1 := by
  cases a.canonical with
  | object sorted _ => exact sorted

theorem canonical_field : ∀ field ∈ a.fields, Canonical field.2 := by
  cases a.canonical with
  | object _ values => exact values

def get : Option (Value N) := (a.fields.find? (·.1 = key)).map Prod.snd

def remove : Object N :=
  ⟨a.fields.filter (·.1 ≠ key),.object (a.sorted.filter _) fun field member =>
    a.canonical_field field (List.mem_of_mem_filter member)⟩

variable {a b key}

theorem keys_nodup : (a.fields.map Prod.fst).Nodup := List.pairwise_map.mpr (a.sorted.imp ne_of_lt)

theorem get_eq_some {value : Value N} : a.get key = some value ↔ (key,value) ∈ a.fields := by
  rw [get, Option.map_eq_some_iff]
  constructor
  · rintro ⟨⟨other,_⟩,found,rfl⟩
    have named : other = key := by simpa using List.find?_some found
    exact named ▸ List.mem_of_find?_eq_some found
  · intro member
    cases found : a.fields.find? (·.1 = key) with
    | none => exact absurd (decide_eq_true rfl) (List.find?_eq_none.mp found _ member)
    | some field =>
      have named : field.1 = key := by simpa using List.find?_some found
      have unique := List.inj_on_of_nodup_map keys_nodup (List.mem_of_find?_eq_some found) member named
      exact ⟨field,rfl,congrArg Prod.snd unique⟩

theorem get_remove (other : String) : (a.remove key).get other = if other = key then none else a.get other := by
  refine Option.ext fun value => ?_
  rw [get_eq_some, remove, List.mem_filter, ← get_eq_some]
  by_cases same : other = key
  · simp [same]
  · simp [same]

/-- An object is what its keys are mapped to. -/
theorem ext_get (same : ∀ key, a.get key = b.get key) : a = b := by
  have members : ∀ field, field ∈ a.fields ↔ field ∈ b.fields := fun field => by
    rw [← Prod.mk.eta (p := field), ← get_eq_some, ← get_eq_some, same]
  have equal : a.fields = b.fields := by
    have permuted := (List.perm_ext_iff_of_nodup keys_nodup.of_map keys_nodup.of_map).mpr members
    refine List.Perm.eq_of_pairwise (fun x y _ _ before after => ?_) a.sorted b.sorted permuted
    exact absurd after (lt_asymm before)
  cases a
  cases b
  cases equal
  rfl

theorem remove_eq_iff : a.remove key = b.remove key ↔ ∀ other, other ≠ key → a.get other = b.get other := by
  constructor
  · intro same other apart
    have reads := congrArg (fun object => object.get other) same
    simpa only [get_remove, if_neg apart] using reads
  · intro same
    refine ext_get fun other => ?_
    rw [get_remove, get_remove]
    by_cases equal : other = key
    · rw [if_pos equal, if_pos equal]
    · rw [if_neg equal, if_neg equal, same other equal]

end Object

end Json
