import Mathlib.Data.Char
import Mathlib.Data.List.DropRight
import Mathlib.Data.List.Lex

/-! Python strings and text files. A string is a list of code points, of which the surrogates cannot
be written. -/
namespace Python

inductive CodePoint where
  | char (c : Char)
  | surrogate (low : Fin 0x800)
  deriving DecidableEq

abbrev Str := List CodePoint

namespace CodePoint

def number : CodePoint → Nat
  | .char c => c.toNat
  | .surrogate low => 0xD800 + low.val

/-- `chr`. -/
def ofNumber (n : Nat) : Option CodePoint :=
  if n.isValidChar then some (.char (Char.ofNat n))
  else if low : 0xD800 ≤ n ∧ n < 0xE000 then some (.surrogate ⟨n - 0xD800,by omega⟩)
  else none

def toChar : CodePoint → Option Char
  | .char c => some c
  | .surrogate _ => none

theorem number_injective : Function.Injective number := by
  have apart (c : Char) (low : Fin 0x800) : c.toNat ≠ 0xD800 + low.val := by
    have small := low.isLt
    rcases c.valid with below | above <;> simp only [Char.toNat, UInt32.toNat] at * <;> omega
  intro a b same
  cases a with
  | char c => cases b with
    | char d => rw [Char.toNat_inj.mp same]
    | surrogate low => exact absurd same (apart c low)
  | surrogate low => cases b with
    | char d => exact absurd same.symm (apart d low)
    | surrogate other => rw [Fin.ext (Nat.add_left_cancel same)]

/-- Strings are compared code point by code point. -/
instance : LinearOrder CodePoint := LinearOrder.lift' number number_injective

end CodePoint

def str (text : List Char) : Str := text.map .char

/-- The characters of a string that holds no surrogate: what `encode` and `print` need. -/
def encodable (s : Str) : Option (List Char) := s.mapM CodePoint.toChar

theorem str_injective : Function.Injective str :=
  List.map_injective_iff.mpr fun _ _ same => CodePoint.char.inj same

@[simp] theorem str_append (a b : List Char) : str (a ++ b) = str a ++ str b := List.map_append

theorem encodable_eq_some {s : Str} {text : List Char} : encodable s = some text ↔ s = str text := by
  induction s generalizing text with
  | nil => cases text <;> simp [encodable, str]
  | cons point s ih => cases point with
    | surrogate low =>
      refine iff_of_false (by simp [encodable, CodePoint.toChar]) ?_
      cases text <;> simp [str]
    | char c =>
      simp only [encodable, List.mapM_cons, CodePoint.toChar, Option.bind_eq_bind, Option.bind_some,
        Option.pure_def, Option.bind_eq_some_iff, Option.some.injEq]
      constructor
      · rintro ⟨rest,found,rfl⟩
        rw [ih.mp found]
        rfl
      · intro same
        cases text with
        | nil => cases same
        | cons d text =>
          simp only [str, List.map_cons, List.cons.injEq, CodePoint.char.injEq] at same
          exact ⟨text,ih.mpr same.2,by rw [same.1]⟩

@[simp] theorem encodable_str (text : List Char) : encodable (str text) = some text :=
  encodable_eq_some.mpr rfl

/-- `str.isspace`. -/
def isSpace (c : Char) : Bool :=
  let n := c.toNat
  (9 ≤ n && n ≤ 13) || (28 ≤ n && n ≤ 32) || n == 0x85 || n == 0xA0 || n == 0x1680 ||
  (0x2000 ≤ n && n ≤ 0x200A) || n == 0x2028 || n == 0x2029 || n == 0x202F || n == 0x205F ||
  n == 0x3000

/-- The lines that a file is iterated by, each with its newline. A carriage return ends no line. -/
def readLines : List Char → List (List Char)
  | [] => []
  | c :: rest =>
    if c = '\n' then [c] :: readLines rest
    else match readLines rest with
    | [] => [[c]]
    | line :: lines => (c :: line) :: lines

/-- A line that ends is read whole. -/
theorem readLines_line {line : List Char} (one : '\n' ∉ line) (rest : List Char) :
    readLines (line ++ '\n' :: rest) = (line ++ ['\n']) :: readLines rest := by
  induction line with
  | nil => rfl
  | cons c line ih =>
    have apart : c ≠ '\n' := fun same => one (same ▸ List.mem_cons_self)
    have more := ih fun member => one (List.mem_cons_of_mem c member)
    simp only [List.cons_append, readLines, apart, more, if_false]

theorem readLines_last {line : List Char} (one : '\n' ∉ line) (some_line : line ≠ []) : readLines line = [line] := by
  induction line with
  | nil => exact absurd rfl some_line
  | cons c line ih =>
    have apart : c ≠ '\n' := fun same => one (same ▸ List.mem_cons_self)
    cases line with
    | nil => simp [readLines, apart]
    | cons d rest =>
      have more := ih (fun member => one (List.mem_cons_of_mem c member)) (List.cons_ne_nil d rest)
      rw [readLines, if_neg apart, more]

theorem readLines_lines {lines : List (List Char)} (one : ∀ line ∈ lines, '\n' ∉ line) :
    readLines (lines.flatMap fun line => line ++ ['\n']) = lines.map fun line => line ++ ['\n'] := by
  induction lines with
  | nil => rfl
  | cons line lines ih =>
    rw [List.flatMap_cons, List.append_assoc, List.singleton_append,
      readLines_line (one line List.mem_cons_self), ih fun other member => one other (List.mem_cons_of_mem line member),
      List.map_cons]

/-- Line by line. -/
theorem lines_induction {P : List Char → Prop} (last : ∀ line, '\n' ∉ line → P line)
    (next : ∀ line rest, '\n' ∉ line → P rest → P (line ++ '\n' :: rest)) (text : List Char) : P text := by
  generalize size : text.length = n
  induction n using Nat.strong_induction_on generalizing text with
  | _ n ih =>
    by_cases more : '\n' ∈ text
    · obtain ⟨line,rest,rfl,one⟩ := List.eq_append_cons_of_mem more
      refine next line rest one (ih rest.length ?_ rest rfl)
      rw [← size, List.length_append, List.length_cons]
      omega
    · exact last text more

theorem splitOn_line {text line : List Char} (member : line ∈ text.splitOn '\n') : '\n' ∉ line := by
  induction text using lines_induction with
  | last text one =>
    rw [List.splitOn_eq_singleton one, List.mem_singleton] at member
    rwa [member]
  | next first rest one ih =>
    rw [List.splitOn_append_cons_self_of_not_mem one, List.mem_cons] at member
    rcases member with rfl | later
    · exact one
    · exact ih later

section Read

variable {β : Type} {f : List Char → Option β}

/-- Where newlines at the end of a line do not matter and nothing is read of an empty one, the lines of a
file may as well be what is between its newlines. -/
theorem readLines_splitOn (blank : f [] = none) (ended : ∀ line, f (line ++ ['\n']) = f line) (text : List Char) :
    (readLines text).filterMap f = (text.splitOn '\n').filterMap f := by
  induction text using lines_induction with
  | last text one =>
    rw [List.splitOn_eq_singleton one]
    cases text with
    | nil => rw [readLines, List.filterMap_nil, List.filterMap_cons_none blank, List.filterMap_nil]
    | cons c rest => rw [readLines_last one (List.cons_ne_nil c rest)]
  | next line rest one ih =>
    rw [readLines_line one, List.splitOn_append_cons_self_of_not_mem one, List.filterMap_cons, ended,
      List.filterMap_cons, ih]

theorem splitOn_rdropWhile (blank : f [] = none) (text : List Char) :
    ((text.rdropWhile (· = '\n')).splitOn '\n').filterMap f = (text.splitOn '\n').filterMap f := by
  induction text using List.reverseRecOn with
  | nil => rfl
  | append_singleton text c ih =>
    by_cases newline : c = '\n'
    · subst newline
      rw [List.rdropWhile_concat_pos _ _ _ (by simp), ih, List.splitOn_append_cons_self, List.splitOn_nil,
        List.filterMap_append, List.filterMap_cons_none blank, List.filterMap_nil, List.append_nil]
    · rw [List.rdropWhile_concat_neg _ _ _ (by simpa using newline)]

end Read

/-- `line.rstrip("\n")`. -/
def rstripNewline (line : List Char) : List Char := line.rdropWhile (· = '\n')

theorem rstripNewline_single {line : List Char} (one : '\n' ∉ line) : rstripNewline line = line := by
  rw [rstripNewline, List.rdropWhile_eq_self_iff]
  intro some_line newline
  exact one (of_decide_eq_true newline ▸ List.getLast_mem some_line)

theorem rstripNewline_concat (line : List Char) : rstripNewline (line ++ ['\n']) = rstripNewline line :=
  List.rdropWhile_concat_pos _ _ _ (by simp)

theorem rstripNewline_line {line : List Char} (one : '\n' ∉ line) : rstripNewline (line ++ ['\n']) = line :=
  (rstripNewline_concat line).trans (rstripNewline_single one)

/-- `v[0] == v[-1] == mark` of two characters or more. -/
def inQuotes (mark : Char) (v : List Char) : Bool :=
  2 ≤ v.length && v.head? == some mark && v.getLast? == some mark

/-- `v[1:-1]`. -/
def inside (v : List Char) : List Char := v.tail.dropLast

theorem inQuotes_iff {mark : Char} {v : List Char} :
    inQuotes mark v = true ↔ ∃ body, v = mark :: (body ++ [mark]) := by
  simp only [inQuotes, Bool.and_eq_true, decide_eq_true_eq, beq_iff_eq]
  constructor
  · rintro ⟨⟨two,first⟩,last⟩
    obtain ⟨front,rfl⟩ := List.getLast?_eq_some_iff.mp last
    cases front with
    | nil => simp at two
    | cons c body =>
      cases first
      exact ⟨body,rfl⟩
  · rintro ⟨body,rfl⟩
    refine ⟨⟨by simp,rfl⟩,?_⟩
    rw [← List.cons_append, List.getLast?_concat]

@[simp] theorem inside_quotes (mark : Char) (body : List Char) : inside (mark :: (body ++ [mark])) = body := by
  rw [inside, List.tail_cons, List.dropLast_concat]

end Python
