import IntakeApi.Text
import IntakeApi.Library.Shell
import Mathlib.Data.List.DropRight

/-! The entrypoint of the container, which decrypts the secrets and exports them to the command
it runs. What is in the container is a parameter. -/
namespace IntakeApi

open Shell

/-- `decrypt` is what `sops` prints for a file, if it succeeds. -/
structure Container where
  fileExists : String → Bool
  hasSops : Bool
  decrypt : String → Option String

structure Script where
  vars : Variables String String
  stderr : List String

inductive Ending where
  | exec (script : Script)
  | exit (code : Nat) (stderr : List String)

/-- `${name:-}`. -/
def expand (vars : Variables String String) (name : String) : String :=
  ((vars name).map Variable.value).getD ""

def isNameChar (c : Char) : Bool := isAlphanumeric c || c == '_'

/-- `IFS='=' read -r key value`. -/
def readLine (vars : Variables String String) (line : List Char) : Variables String String :=
  (vars.assign "key" (String.ofList (readTwo '=' line).1)).assign "value" (String.ofList (readTwo '=' line).2)

/-- The body of the loop. -/
def exportLine (script : Script) (line : List Char) : Script :=
  let vars := readLine script.vars line
  let key := String.ofList (readTwo '=' line).1
  let value := String.ofList (readTwo '=' line).2
  if key.isEmpty || startsWith "#" key || startsWith "sops_" key then { script with vars }
  else if !key.toList.all isNameChar || key.toList.head?.any Char.isDigit then
    ⟨vars,script.stderr ++ ["sops-entrypoint: skipping invalid variable name"]⟩
  else if (vars key).isNone then { script with vars := vars.exportAs key value }
  else { script with vars }

/-- A command substitution drops the newlines at the end. -/
def substituted (output : String) : String := String.ofList (output.toList.rdropWhile (· = '\n'))

def secretLines (plaintext : String) : List (List Char) := (substituted plaintext).toList.splitOn '\n'

/-- The variables after `: "${SOPS_SECRETS_FILE:=/app/secrets/app.env}"`. -/
def withSecretsFile (vars : Variables String String) : Variables String String :=
  if (expand vars "SOPS_SECRETS_FILE").isEmpty then
    vars.assign "SOPS_SECRETS_FILE" "/app/secrets/app.env"
  else vars

/-- The state of the script when its loop begins. -/
def withSecrets (vars : Variables String String) (plaintext : String) : Script :=
  ⟨(withSecretsFile vars).assign "secrets" (substituted plaintext),[]⟩

/-- The loop over the lines, and the read that finds no further one and leaves its variables empty. -/
def exportLines (script : Script) (lines : List (List Char)) : Script :=
  let script := lines.foldl exportLine script
  { script with vars := readLine script.vars [] }

def entrypoint (container : Container) (vars : Variables String String) : Ending :=
  let file := expand (withSecretsFile vars) "SOPS_SECRETS_FILE"
  if !container.fileExists file then .exec ⟨withSecretsFile vars,[]⟩
  else if (expand vars "SOPS_AGE_KEY").isEmpty && (expand vars "SOPS_AGE_KEY_FILE").isEmpty then
    if expand vars "SOPS_REQUIRE_KEY" = "1" then
      .exit 1 ["sops-entrypoint: no SOPS_AGE_KEY or SOPS_AGE_KEY_FILE set (SOPS_REQUIRE_KEY=1).",
        "  docker run -e SOPS_AGE_KEY=\"$(cat ~/.config/sops/age/keys.txt)\" ..."]
    else
      .exec ⟨withSecretsFile vars,
        ["sops-entrypoint: no age key supplied; starting without decrypting " ++ file]⟩
  else if !container.hasSops then .exit 1 ["sops-entrypoint: sops binary not in image"]
  else match container.decrypt file with
  | none => .exit 1 ["sops-entrypoint: failed to decrypt " ++ file]
  | some plaintext =>
    let script := exportLines (withSecrets vars plaintext) (secretLines plaintext)
    .exec { script with vars := script.vars.unset "secrets" }

/-- The script gets as far as its loop, with this plaintext. -/
structure Decrypts (container : Container) (vars : Variables String String) (plaintext : String) :
    Prop where
  present : container.fileExists (expand (withSecretsFile vars) "SOPS_SECRETS_FILE") = true
  keyed : ¬(expand vars "SOPS_AGE_KEY" = "" ∧ expand vars "SOPS_AGE_KEY_FILE" = "")
  equipped : container.hasSops = true
  plain : container.decrypt (expand (withSecretsFile vars) "SOPS_SECRETS_FILE") = some plaintext

def isVariableName (key : String) : Bool :=
  !key.isEmpty && key.toList.all isNameChar && !key.toList.head?.any Char.isDigit &&
    !startsWith "sops_" key

section Lines

variable {script : Script} {key value name : String}

theorem isVariableName_apart (valid : isVariableName key = true) : '=' ∉ key.toList := by
  intro member
  simp only [isVariableName, Bool.and_eq_true, List.all_eq_true] at valid
  exact absurd (valid.1.1.2 _ member) (by decide)

theorem exportLine_named {line rest : List Char} (valid : isVariableName key = true)
    (parts : readTwo '=' line = (key.toList,rest)) :
    (exportLine script line).vars =
      if (readLine script.vars line key).isNone then
        (readLine script.vars line).exportAs key (String.ofList rest)
      else readLine script.vars line := by
  simp only [isVariableName, Bool.and_eq_true, Bool.not_eq_true'] at valid
  obtain ⟨⟨⟨nonempty,chars⟩,letter⟩,plain⟩ := valid
  have uncommented : startsWith "#" key = false := by
    refine Bool.eq_false_iff.mpr fun comment => ?_
    have first := List.isPrefixOf_iff_prefix.mp comment
    have member : '#' ∈ key.toList := first.subset List.mem_cons_self
    exact absurd (List.all_eq_true.mp chars _ member) (by decide)
  simp only [exportLine, parts, String.ofList_toList, nonempty, chars, letter, plain, uncommented,
    Bool.not_true, Bool.or_false, Bool.false_eq_true, if_false]
  split <;> rfl

theorem exportLine_unnamed {line : List Char}
    (invalid : isVariableName (String.ofList (readTwo '=' line).1) = false) :
    (exportLine script line).vars = readLine script.vars line := by
  unfold exportLine
  dsimp only
  split
  · rfl
  next kept =>
  split
  · rfl
  next named =>
  simp only [Bool.or_eq_true, not_or, Bool.not_eq_true', Bool.not_eq_true, Bool.not_eq_false] at kept named
  rw [isVariableName, kept.1.1, kept.2, named.1, named.2] at invalid
  cases invalid

theorem exportLine_valid (valid : isVariableName key = true) :
    (exportLine script (key.toList ++ '=' :: value.toList)).vars =
      if (readLine script.vars (key.toList ++ '=' :: value.toList) key).isNone then
        (readLine script.vars (key.toList ++ '=' :: value.toList)).exportAs key
          (String.ofList (lastField '=' value.toList))
      else readLine script.vars (key.toList ++ '=' :: value.toList) :=
  exportLine_named valid (readTwo_field (isVariableName_apart valid) value.toList)

theorem readLine_other {line : List Char} (own : name ≠ "key" ∧ name ≠ "value") :
    readLine script.vars line name = script.vars name := by
  rw [readLine, Variables.assign_other own.2, Variables.assign_other own.1]

/-- A line under a name that is not set exports it. -/
theorem exportLine_free (valid : isVariableName key = true) (free : script.vars key = none)
    (own : key ≠ "key" ∧ key ≠ "value") :
    (exportLine script (key.toList ++ '=' :: value.toList)).vars key =
      some ⟨String.ofList (lastField '=' value.toList),true⟩ := by
  rw [exportLine_valid valid, readLine_other own, free, Option.isNone_none, if_pos rfl, Variables.exportAs_same]

/-- Whatever a line is, at most one variable is exported, which was not set. -/
theorem exportLine_cases (script : Script) (line : List Char) :
    (exportLine script line).vars = readLine script.vars line ∨
    ∃ key value, readLine script.vars line key = none ∧
      (exportLine script line).vars = (readLine script.vars line).exportAs key value := by
  unfold exportLine
  dsimp only
  split
  · exact .inl rfl
  split
  · exact .inl rfl
  split
  · next missing => exact .inr ⟨_,_,Option.isNone_iff_eq_none.mp missing,rfl⟩
  · exact .inl rfl

theorem exportLine_isSome {line : List Char} (there : (script.vars name).isSome = true) :
    ((exportLine script line).vars name).isSome = true := by
  have set : (readLine script.vars line name).isSome = true :=
    Variables.assign_isSome (Variables.assign_isSome there)
  rcases exportLine_cases script line with same | ⟨key,value,-,same⟩
  · rw [same]; exact set
  · rw [same]; exact Variables.exportAs_isSome set

/-- A line that sets what is set already leaves it to the `read`. -/
theorem exportLine_set {line : List Char} (there : (script.vars name).isSome = true) :
    (exportLine script line).vars name = readLine script.vars line name := by
  rcases exportLine_cases script line with same | ⟨key,value,missing,same⟩
  · rw [same]
  · have set : (readLine script.vars line name).isSome = true :=
      Variables.assign_isSome (Variables.assign_isSome there)
    have apart : name ≠ key := by
      rintro rfl
      rw [missing] at set
      cases set
    rw [same, Variables.exportAs_other apart]

/-- What is set and not exported is not exported later. -/
theorem exportLine_unexported {line : List Char} (there : (script.vars name).isSome = true)
    (unexported : script.vars.environment name = none) :
    (exportLine script line).vars.environment name = none := by
  rw [Variables.environment, exportLine_set there]
  exact Variables.assign_unexported (Variables.assign_unexported unexported)

/-- What is set keeps its value, but for the two variables that are read into. -/
theorem exportLine_kept {line : List Char} (there : (script.vars name).isSome = true)
    (own : name ≠ "key" ∧ name ≠ "value") :
    (exportLine script line).vars name = script.vars name := by
  rw [exportLine_set there, readLine_other own]

/-- A line under a name that the shell holds, be it only since the `read`, exports nothing. -/
theorem exportLine_taken (valid : isVariableName key = true)
    (taken : ¬(script.vars key = none ∧ key ≠ "key" ∧ key ≠ "value"))
    (unexported : script.vars.environment key = none) :
    ((exportLine script (key.toList ++ '=' :: value.toList)).vars key).isSome = true ∧
      (exportLine script (key.toList ++ '=' :: value.toList)).vars.environment key = none := by
  have set : (readLine script.vars (key.toList ++ '=' :: value.toList) key).isSome = true := by
    by_cases own : key = "key" ∨ key = "value"
    · rcases own with rfl | rfl
      · exact Variables.assign_isSome (by simp [Variables.assign])
      · simp [readLine, Variables.assign]
    · have apart := not_or.mp own
      rw [readLine_other apart, Option.isSome_iff_ne_none]
      exact fun missing => taken ⟨missing,apart⟩
  have present : ¬(readLine script.vars (key.toList ++ '=' :: value.toList) key).isNone = true := by
    rw [Option.isNone_iff_eq_none, ← ne_eq, ← Option.isSome_iff_ne_none]
    exact set
  rw [exportLine_valid valid, if_neg present]
  exact ⟨set,Variables.assign_unexported (Variables.assign_unexported unexported)⟩

theorem foldl_isSome (lines : List (List Char)) (there : (script.vars name).isSome = true) :
    ((lines.foldl exportLine script).vars name).isSome = true := by
  induction lines generalizing script with
  | nil => exact there
  | cons line lines ih => exact ih (exportLine_isSome there)

theorem foldl_unexported (lines : List (List Char)) (there : (script.vars name).isSome = true)
    (unexported : script.vars.environment name = none) :
    (lines.foldl exportLine script).vars.environment name = none := by
  induction lines generalizing script with
  | nil => exact unexported
  | cons line lines ih => exact ih (exportLine_isSome there) (exportLine_unexported there unexported)

theorem foldl_kept (lines : List (List Char)) (there : (script.vars name).isSome = true)
    (own : name ≠ "key" ∧ name ≠ "value") :
    (lines.foldl exportLine script).vars name = script.vars name := by
  induction lines generalizing script with
  | nil => rfl
  | cons line lines ih => exact (ih (exportLine_isSome there)).trans (exportLine_kept there own)

/-- The last read is as one of an empty line. -/
theorem exportLines_eq (script : Script) (lines : List (List Char)) :
    exportLines script lines = (lines ++ [[]]).foldl exportLine script := by
  rw [List.foldl_append]
  rfl

end Lines

section Run

variable {container : Container} {vars : Variables String String} {plaintext : String}

theorem Decrypts.ends (decrypts : Decrypts container vars plaintext) :
    entrypoint container vars = .exec
      { exportLines (withSecrets vars plaintext) (secretLines plaintext) with
        vars := (exportLines (withSecrets vars plaintext) (secretLines plaintext)).vars.unset "secrets" } := by
  have keyed : ((expand vars "SOPS_AGE_KEY").isEmpty && (expand vars "SOPS_AGE_KEY_FILE").isEmpty) = false := by
    refine Bool.eq_false_iff.mpr fun missing => decrypts.keyed ?_
    simpa only [Bool.and_eq_true, String.isEmpty_iff] using missing
  simp only [entrypoint, decrypts.present, keyed, decrypts.equipped, decrypts.plain, Bool.not_true,
    Bool.false_eq_true, if_false]

/-- The script holds the plaintext in a variable of its own. -/
theorem secrets_held (lines : List (List Char)) :
    ((lines.foldl exportLine (withSecrets vars plaintext)).vars "secrets").isSome = true :=
  foldl_isSome lines (by simp [withSecrets, Variables.assign])

end Run

/-- A line under a valid name that the environment does not hold yet is exported with the text
after its first `=` just where the shell has no variable of that name either, and the text is not
one field with a `=` at its end. -/
theorem entrypoint_exports {container : Container} {vars : Variables String String} {plaintext : String}
    (decrypts : Decrypts container vars plaintext) {older newer : List (List Char)} {key value : String}
    (lines : secretLines plaintext = older ++ (key.toList ++ '=' :: value.toList) :: newer)
    (valid : isVariableName key = true)
    (fresh : (older.foldl exportLine (withSecrets vars plaintext)).vars.environment key = none) :
    ∃ script, entrypoint container vars = .exec script ∧
      (script.vars.environment key = some value ↔
        ((older.foldl exportLine (withSecrets vars plaintext)).vars key = none ∧ key ≠ "key" ∧
          key ≠ "value") ∧
        ¬∃ field, value.toList = field ++ ['='] ∧ '=' ∉ field) := by
  refine ⟨_,decrypts.ends,?_⟩
  have held := @secrets_held vars plaintext older
  rw [exportLines_eq, lines, List.append_assoc, List.cons_append, List.foldl_append, List.foldl_cons]
  generalize older.foldl exportLine (withSecrets vars plaintext) = script at fresh held ⊢
  dsimp only
  by_cases free : script.vars key = none ∧ key ≠ "key" ∧ key ≠ "value"
  · have set := @exportLine_free script key value valid free.1 free.2
    have apart : key ≠ "secrets" := by
      rintro rfl
      rw [free.1] at held
      cases held
    have final := (foldl_kept (newer ++ [[]]) (by rw [set]; rfl) free.2).trans set
    rw [Variables.environment_eq_some, Variables.unset_other apart, final, ← lastField_eq_iff,
      Option.some.injEq, Variable.mk.injEq, ← String.toList_inj, String.toList_ofList]
    exact ⟨fun whole => ⟨free,whole.1⟩,fun whole => ⟨whole.2,rfl⟩⟩
  · obtain ⟨set,unexported⟩ := @exportLine_taken script key value valid free fresh
    have final := foldl_unexported (newer ++ [[]]) set unexported
    refine iff_of_false ?_ fun holds => free holds.1
    rw [Variables.environment_eq_some]
    intro exported
    by_cases same : key = "secrets"
    · rw [same, Variables.unset_same] at exported
      cases exported
    · rw [Variables.unset_other same] at exported
      cases (Variables.environment_eq_some.mpr exported).symm.trans final

section Sample

def sampleContainer (plaintext : String) : Container := ⟨fun _ => true,true,fun _ => some plaintext⟩

def sampleVariables : Variables String String := fun name =>
  if name = "SOPS_AGE_KEY" then some ⟨"AGE-SECRET-KEY-1",true⟩ else none

theorem sample_decrypts (plaintext : String) :
    Decrypts (sampleContainer plaintext) sampleVariables plaintext :=
  ⟨rfl,fun missing => absurd missing.1 (by decide),rfl,rfl⟩

end Sample

/-- Two `=` at the end are kept. -/
theorem entrypoint_exports_padded : ∃ script,
    entrypoint (sampleContainer "API_KEY=YQ==\n") sampleVariables = .exec script ∧
      script.vars.environment "API_KEY" = some "YQ==" := by
  have lines : secretLines "API_KEY=YQ==\n" = [] ++ ("API_KEY".toList ++ '=' :: "YQ==".toList) :: [] := by
    decide
  obtain ⟨script,ends,exported⟩ :=
    entrypoint_exports (sample_decrypts _) lines (by decide) (by decide)
  refine ⟨script,ends,exported.mpr ⟨⟨by decide,by decide,by decide⟩,?_⟩⟩
  rintro ⟨field,whole,apart⟩
  have shorter : "YQ=".toList = field := List.append_cancel_right whole
  rw [← shorter] at apart
  exact apart (by decide)

/-- A single `=` at the end is lost. -/
theorem entrypoint_drops_padding :
    Decrypts (sampleContainer "API_KEY=YWI=\n") sampleVariables "API_KEY=YWI=\n" ∧
    secretLines "API_KEY=YWI=\n" = ["API_KEY".toList ++ '=' :: "YWI=".toList] ∧
    isVariableName "API_KEY" = true ∧
    (withSecrets sampleVariables "API_KEY=YWI=\n").vars.environment "API_KEY" = none ∧
    ∃ script, entrypoint (sampleContainer "API_KEY=YWI=\n") sampleVariables = .exec script ∧
      script.vars.environment "API_KEY" = some "YWI" :=
  ⟨sample_decrypts _,by decide,by decide,by decide,_,(sample_decrypts _).ends,by decide⟩

end IntakeApi
