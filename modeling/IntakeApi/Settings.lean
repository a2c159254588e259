import IntakeApi.Text
import Mathlib.Data.List.DropRight

/-! Settings as a lookup gives them: trimmed, absent where blank, and lists split at commas. -/
namespace IntakeApi

abbrev Lookup := String → Option String

/-- `optional` of the configuration and of the request policy. -/
def optional (lookup : Lookup) (name : String) : Option String :=
  ((lookup name).map trim).filter fun value => !value.isEmpty

def splitCsv (value : String) : List String :=
  ((split ',' value).map fun item => trim (String.ofList item)).filter fun item => !item.isEmpty

/-- `from_str` of an unsigned integer of so many bits. -/
def parseUnsigned (width : Nat) (value : String) : Option Nat :=
  let digits := match value.toList with
    | '+' :: rest => rest
    | digits => digits
  if digits.isEmpty || !digits.all Char.isDigit then none
  else
    let n := digits.foldl (fun n c => 10 * n + (c.toNat - '0'.toNat)) 0
    if n < 2 ^ width then some n else none

def parseNumber {α : Type} (parse : String → Option α) (value : Option String) (default : α) : Option α :=
  match value with
  | some value => parse value
  | none => some default

def okOr {α ε : Type} (value : Option α) (error : ε) : Except ε α :=
  match value with
  | some value => .ok value
  | none => .error error

section Settings

variable {lookup : Lookup} {name value : String}

theorem optional_some : optional lookup name = some value ↔
    ∃ raw, lookup name = some raw ∧ trim raw = value ∧ value ≠ "" := by
  simp only [optional, Option.filter_eq_some_iff, Option.map_eq_some_iff, Bool.not_eq_true',
    String.isEmpty_eq_false_iff]
  constructor
  · rintro ⟨⟨raw,found,trimmed⟩,nonempty⟩
    exact ⟨raw,found,trimmed,nonempty⟩
  · rintro ⟨raw,found,trimmed,nonempty⟩
    exact ⟨⟨raw,found,trimmed⟩,nonempty⟩

end Settings

section Items

def trimChars (chars : List Char) : List Char := (chars.dropWhile isWhitespace).rdropWhile isWhitespace

theorem trim_ofList (chars : List Char) : trim (String.ofList chars) = String.ofList (trimChars chars) := by
  rw [trim, String.toList_ofList]
  rfl

theorem trim_eq (s : String) : trim s = String.ofList (trimChars s.toList) := rfl

variable {blank : Char} (white : isWhitespace blank = true)

include white

theorem trimChars_cons (chars : List Char) : trimChars (blank :: chars) = trimChars chars := by
  rw [trimChars, List.dropWhile_cons_of_pos white, trimChars]

theorem trimChars_concat (chars : List Char) : trimChars (chars ++ [blank]) = trimChars chars := by
  rw [trimChars, List.dropWhile_append, trimChars]
  split
  · next empty =>
    rw [List.isEmpty_iff.mp empty, List.dropWhile_cons_of_pos white]
    rfl
  · exact List.rdropWhile_concat_pos _ _ _ white

/-- White space before the first item belongs to it. -/
theorem pieces_cons (chars : List Char) : ((blank :: chars).splitOn ',').map trimChars =
    (chars.splitOn ',').map trimChars := by
  have other : (blank == ',') = false := by
    refine beq_eq_false_iff_ne.mpr ?_
    rintro rfl
    exact absurd white (by decide)
  rw [List.splitOn, List.splitOnP_cons_eq_if_modifyHead, other, if_neg (by decide), List.splitOn]
  obtain ⟨first,rest,pieces⟩ := List.exists_cons_of_ne_nil (List.splitOnP_ne_nil (· == ',') chars)
  rw [pieces, List.modifyHead_cons, List.map_cons, List.map_cons, trimChars_cons white]

omit white in
/-- A character at the end is at the end of one item, or an item of its own. -/
theorem pieces_append {last : Char} (other : last ≠ ',') (chars : List Char) :
    List.Forall₂ (fun piece longer => longer = piece ∨ longer = piece ++ [last]) (chars.splitOn ',')
      ((chars ++ [last]).splitOn ',') := by
  induction chars with
  | nil =>
    have apart : (last == ',') = false := beq_eq_false_iff_ne.mpr other
    simp only [List.nil_append, List.splitOn, List.splitOnP_cons_eq_if_modifyHead, List.splitOnP_nil, apart]
    exact .cons (.inr rfl) .nil
  | cons c chars ih =>
    rw [List.cons_append]
    simp only [List.splitOn, List.splitOnP_cons_eq_if_modifyHead] at ih ⊢
    by_cases comma : (c == ',') = true
    · rw [if_pos comma, if_pos comma]
      exact .cons (.inl rfl) ih
    · rw [if_neg comma, if_neg comma]
      generalize List.splitOnP (· == ',') chars = pieces at ih
      generalize List.splitOnP (· == ',') (chars ++ [last]) = longer at ih
      cases ih with
      | nil => exact .nil
      | cons head rest =>
        refine .cons ?_ rest
        rcases head with rfl | rfl
        · exact .inl rfl
        · exact .inr rfl

theorem pieces_concat (chars : List Char) : ((chars ++ [blank]).splitOn ',').map trimChars =
    (chars.splitOn ',').map trimChars := by
  have other : blank ≠ ',' := by
    rintro rfl
    exact absurd white (by decide)
  have pieces := pieces_append other chars
  generalize chars.splitOn ',' = short at pieces
  generalize (chars ++ [blank]).splitOn ',' = long at pieces
  induction pieces with
  | nil => rfl
  | cons head rest ih =>
    rw [List.map_cons, List.map_cons, ih]
    rcases head with rfl | rfl
    · rfl
    · rw [trimChars_concat white]

omit white in
theorem pieces_trimChars (chars : List Char) : ((trimChars chars).splitOn ',').map trimChars =
    (chars.splitOn ',').map trimChars := by
  have front (chars : List Char) : ((chars.dropWhile isWhitespace).splitOn ',').map trimChars =
      (chars.splitOn ',').map trimChars := by
    induction chars with
    | nil => rfl
    | cons c chars ih =>
      by_cases white : isWhitespace c = true
      · rw [List.dropWhile_cons_of_pos white, ih, pieces_cons white]
      · rw [List.dropWhile_cons_of_neg white]
  have back (chars : List Char) : ((chars.rdropWhile isWhitespace).splitOn ',').map trimChars =
      (chars.splitOn ',').map trimChars := by
    induction chars using List.reverseRecOn with
    | nil => rfl
    | append_singleton chars c ih =>
      by_cases white : isWhitespace c = true
      · rw [List.rdropWhile_concat_pos _ _ _ white, ih, pieces_concat white]
      · rw [List.rdropWhile_concat_neg _ _ _ white]
  rw [trimChars, back, front]

omit white in
/-- White space around a list is no part of its items. -/
theorem splitCsv_trim (value : String) : splitCsv (trim value) = splitCsv value := by
  have pieces := congrArg (List.map String.ofList) (pieces_trimChars value.toList)
  simp only [List.map_map] at pieces
  simp only [splitCsv, split, trim_eq value, String.toList_ofList, trim_ofList]
  rw [show (fun item => String.ofList (trimChars item)) = String.ofList ∘ trimChars from rfl, pieces]

end Items

end IntakeApi
