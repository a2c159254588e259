import Mathlib.Data.List.Basic
import Mathlib.Data.List.TakeWhile
import Mathlib.Logic.Function.Basic

/-! Shell variables with their export attribute, names that a shell keeps for itself, and how `read`
splits a line at a separator that is no white space. -/
namespace Shell

structure Variable (V : Type) where
  value : V
  exported : Bool

abbrev Variables (N V : Type) := N → Option (Variable V)

namespace Variables

variable {N V : Type} [DecidableEq N] (s : Variables N V)

/-- An assignment leaves the export attribute as it is. -/
def assign (name : N) (value : V) : Variables N V :=
  Function.update s name (some ⟨value,(s name).any Variable.exported⟩)

/-- `export name=value`. -/
def exportAs (name : N) (value : V) : Variables N V := Function.update s name (some ⟨value,true⟩)

def unset (name : N) : Variables N V := Function.update s name none

/-- What a command finds in its environment. -/
def environment (name : N) : Option V :=
  (s name).bind fun v => if v.exported then some v.value else none

variable {s} {name other : N} {value : V}

@[simp] theorem assign_other (apart : other ≠ name) : s.assign name value other = s other :=
  Function.update_of_ne apart _ s

theorem assign_isSome (there : (s other).isSome = true) : (s.assign name value other).isSome = true := by
  by_cases same : other = name
  · subst same; simp [assign]
  · rw [assign_other same]; exact there

@[simp] theorem exportAs_same : s.exportAs name value name = some ⟨value,true⟩ := Function.update_self ..

@[simp] theorem exportAs_other (apart : other ≠ name) : s.exportAs name value other = s other :=
  Function.update_of_ne apart _ s

theorem exportAs_isSome (there : (s other).isSome = true) : (s.exportAs name value other).isSome = true := by
  by_cases same : other = name
  · subst same; simp
  · rw [exportAs_other same]; exact there

@[simp] theorem unset_same : s.unset name name = none := Function.update_self ..

@[simp] theorem unset_other (apart : other ≠ name) : s.unset name other = s other :=
  Function.update_of_ne apart _ s

omit [DecidableEq N] in
theorem environment_eq_some {v : V} : s.environment name = some v ↔ s name = some ⟨v,true⟩ := by
  rw [environment, Option.bind_eq_some_iff]
  constructor
  · rintro ⟨⟨w,exported⟩,found,given⟩
    cases exported with
    | false => cases given
    | true => cases given; exact found
  · intro found
    exact ⟨_,found,rfl⟩

omit [DecidableEq N] in
theorem environment_eq_none : s.environment name = none ↔ ∀ v, s name = some v → v.exported = false := by
  rw [environment, Option.bind_eq_none_iff]
  simp

/-- An assignment exports nothing. -/
theorem assign_unexported (unexported : s.environment other = none) :
    (s.assign name value).environment other = none := by
  by_cases same : other = name
  · subst same
    rw [environment_eq_none] at unexported ⊢
    intro v set
    simp only [assign, Function.update_self, Option.some.injEq] at set
    subst set
    cases held : s other with
    | none => rfl
    | some v => exact unexported v held
  · rw [environment, assign_other same]
    exact unexported

end Variables

/-- The variables, and the commands that were run besides. -/
structure Session (N V : Type) where
  vars : Variables N V
  ran : List V

/-- The names that a shell keeps for itself. What `export name=value` comes to under such a name is
up to the shell: it may fail, leave another value and run commands to find it. -/
structure Specials (N V : Type) where
  isSpecial : N → Bool
  treat : Variables N V → N → V → Option (Session N V)

namespace Specials

variable {N V : Type} [DecidableEq N]

/-- A shell that keeps no name for itself. -/
def none : Specials N V := ⟨fun _ => false,fun _ _ _ => Option.none⟩

/-- `export name=value`, which ends the script if it fails. -/
def exportAs (specials : Specials N V) (s : Session N V) (name : N) (value : V) : Option (Session N V) :=
  if specials.isSpecial name then
    (specials.treat s.vars name value).map fun left => ⟨left.vars,s.ran ++ left.ran⟩
  else some { s with vars := s.vars.exportAs name value }

def exportAll (specials : Specials N V) (s : Session N V) (pairs : List (N × V)) : Option (Session N V) :=
  pairs.foldlM (fun s pair => specials.exportAs s pair.1 pair.2) s

/-- A name under which nothing can be exported. -/
def Refuses (specials : Specials N V) (name : N) : Prop :=
  specials.isSpecial name = true ∧ ∀ vars value, specials.treat vars name value = Option.none

variable {specials : Specials N V} {s : Session N V} {pairs : List (N × V)}

theorem exportAs_ordinary {name : N} (ordinary : specials.isSpecial name = false) (value : V) :
    specials.exportAs s name value = some ⟨s.vars.exportAs name value,s.ran⟩ := by
  rw [exportAs, ordinary]
  rfl

theorem exportAs_refused {name : N} (refused : specials.Refuses name) (value : V) :
    specials.exportAs s name value = Option.none := by
  rw [exportAs, if_pos refused.1, refused.2]
  rfl

/-- Under other names every export is an assignment, and runs nothing. -/
theorem exportAll_ordinary (ordinary : ∀ pair ∈ pairs, specials.isSpecial pair.1 = false) :
    specials.exportAll s pairs =
      some ⟨pairs.foldl (fun vars pair => vars.exportAs pair.1 pair.2) s.vars,s.ran⟩ := by
  induction pairs generalizing s with
  | nil => rfl
  | cons pair pairs ih =>
    obtain ⟨first,rest⟩ := List.forall_mem_cons.mp ordinary
    rw [exportAll, List.foldlM_cons, exportAs_ordinary first]
    exact ih rest

/-- One refusal ends the script. -/
theorem exportAll_refused {pair : N × V} (member : pair ∈ pairs) (refused : specials.Refuses pair.1) :
    specials.exportAll s pairs = Option.none := by
  induction pairs generalizing s with
  | nil => cases member
  | cons other pairs ih =>
    rw [exportAll, List.foldlM_cons, Option.bind_eq_bind]
    rcases List.mem_cons.mp member with rfl | later
    · rw [exportAs_refused refused]
      rfl
    · cases specials.exportAs s other.1 other.2 with
      | none => rfl
      | some next => exact ih later

end Specials

section Read

variable {α : Type} [DecidableEq α] (separator : α)

/-- What the last variable of `read` gets: the rest of the line, but a single field without its
terminator. -/
def lastField (rest : List α) : List α :=
  match rest.dropWhile (· ≠ separator) with
  | [_] => rest.takeWhile (· ≠ separator)
  | _ => rest

/-- `read` into two variables. -/
def readTwo (line : List α) : List α × List α :=
  match line.dropWhile (· ≠ separator) with
  | [] => (line,[])
  | _ :: rest => (line.takeWhile (· ≠ separator),lastField separator rest)

variable {separator}

theorem dropWhile_field {field : List α} (apart : separator ∉ field) (rest : List α) :
    (field ++ separator :: rest).dropWhile (· ≠ separator) = separator :: rest ∧
      (field ++ separator :: rest).takeWhile (· ≠ separator) = field := by
  have passes : ∀ c ∈ field, decide (c ≠ separator) = true :=
    fun c member => decide_eq_true fun same => apart (same ▸ member)
  constructor
  · rw [List.dropWhile_append_of_pos passes, List.dropWhile_cons_of_neg (by simp)]
  · rw [List.takeWhile_append_of_pos passes, List.takeWhile_cons_of_neg (by simp), List.append_nil]

theorem readTwo_fst (line : List α) : (readTwo separator line).1 = line.takeWhile (· ≠ separator) := by
  unfold readTwo
  split
  · next none_left => exact (List.takeWhile_eq_self_iff.mpr (List.dropWhile_eq_nil_iff.mp none_left)).symm
  · rfl

theorem readTwo_field {field : List α} (apart : separator ∉ field) (rest : List α) :
    readTwo separator (field ++ separator :: rest) = (field,lastField separator rest) := by
  obtain ⟨dropped,taken⟩ := dropWhile_field apart rest
  rw [readTwo, dropped, taken]

/-- A line without a separator is all in the first variable. -/
theorem readTwo_single {line : List α} (apart : separator ∉ line) : readTwo separator line = (line,[]) := by
  have none_left : line.dropWhile (· ≠ separator) = [] :=
    List.dropWhile_eq_nil_iff.mpr fun c member => decide_eq_true fun same => apart (same ▸ member)
  rw [readTwo, none_left]

theorem lastField_terminated {field : List α} (apart : separator ∉ field) :
    lastField separator (field ++ [separator]) = field := by
  obtain ⟨dropped,taken⟩ := dropWhile_field apart []
  rw [lastField, dropped, taken]

/-- The rest of a line is kept whole unless it is a single field with its terminator. -/
theorem lastField_eq_iff {rest : List α} : lastField separator rest = rest ↔
    ¬∃ field, rest = field ++ [separator] ∧ separator ∉ field := by
  constructor
  · rintro whole ⟨field,rfl,apart⟩
    rw [lastField_terminated apart] at whole
    exact absurd (congrArg List.length whole) (by simp)
  · intro free
    unfold lastField
    split
    · next c dropped =>
      have first := List.head?_dropWhile_not (fun d => decide (d ≠ separator)) rest
      rw [dropped] at first
      have same : c = separator := by simpa using first
      subst same
      refine absurd ⟨rest.takeWhile (· ≠ c),?_,fun member => ?_⟩ free
      · rw [← dropped, List.takeWhile_append_dropWhile]
      · exact of_decide_eq_true (List.all_eq_true.mp List.all_takeWhile c member) rfl
    · rfl

end Read

end Shell
