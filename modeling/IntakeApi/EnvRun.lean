import IntakeApi.DotenvRules
import IntakeApi.Entrypoint

/-! `env-run` evaluates what the shell mode prints: one `export` for each pair, and nothing else. What
an `export` does is the shell's: under a name that it keeps for itself, a value may be refused or
evaluated. -/
namespace IntakeApi.Dotenv

open Python Shell Bindings

section Evaluation

variable (specials : Specials String String)

/-- `export K=V`, the only command that is carried out. -/
def runExport (s : Session String String) : ShellWords.Command → Option (Session String String)
  | [word, argument] =>
    if word = "export".toList then
      (splitOnce '=' (String.ofList argument)).bind fun (name,value) => specials.exportAs s name value
    else none
  | _ => none

/-- `eval "$(…)"` of an output, under `set -e`. -/
def evaluate (vars : Variables String String) (stdout : List Char) : Option (Session String String) :=
  (ShellWords.read (substituted (String.ofList stdout)).toList).bind fun commands =>
    commands.foldlM (runExport specials) ⟨vars,[]⟩

end Evaluation

def exportCommand (pair : String × String) : ShellWords.Command :=
  ["export".toList, pair.1.toList ++ '=' :: pair.2.toList]

section Lines

variable {printed : List (String × String)}

def shellLines (printed : List (String × String)) : List Char :=
  printed.flatMap fun pair => shellText pair.1 pair.2.toList ++ ['\n']

theorem shellText_words (k : String) (v rest : List Char) : shellText k v ++ rest =
    "export".toList ++ ' ' :: ((k.toList ++ ['=']) ++ (ShellWords.quote v ++ rest)) := by
  simp only [shellText, List.append_assoc, List.cons_append, List.nil_append]

/-- The lines are read as their commands, whatever the values hold. -/
theorem read_shellLines (valid : ∀ pair ∈ printed, isKey pair.1.toList = true) :
    ShellWords.read (shellLines printed) = some (printed.map exportCommand) := by
  have ordinary : ∀ pair ∈ printed, ∀ c ∈ "export".toList ++ (pair.1.toList ++ ['=']),
      ShellWords.isOrdinary c = true := by
    intro pair member c there
    rcases List.mem_append.mp there with word | argument
    · exact List.all_eq_true.mp (by decide) c word
    · rcases List.mem_append.mp argument with key | sign
      · exact ((isKey_chars (valid pair member)).2 c key).ordinary
      · rw [List.mem_singleton.mp sign]
        decide
  have lines := @ShellWords.read_lines _ _ _ (fun pair => pair.2.toList) _ ordinary (by decide)
    fun pair _ => List.append_ne_nil_of_right_ne_nil _ (List.cons_ne_nil _ _)
  simp only [shellLines, shellText_words]
  refine lines.trans (congrArg some (List.map_congr_left fun pair _ => ?_))
  rw [exportCommand, List.append_assoc, List.singleton_append]

/-- The command substitution takes the last newline, which changes nothing. -/
theorem read_substituted (valid : ∀ pair ∈ printed, isKey pair.1.toList = true) :
    ShellWords.read (substituted (String.ofList (shellLines printed))).toList =
      some (printed.map exportCommand) := by
  have whole := read_shellLines valid
  rw [substituted, String.toList_ofList, String.toList_ofList]
  rcases List.eq_nil_or_concat printed with rfl | ⟨front,pair,rfl⟩
  · exact whole
  · have last : ∃ text, shellLines (front.concat pair) = text ++ [ShellWords.apostrophe] ++ ['\n'] := by
      refine ⟨shellLines front ++ ("export".toList ++ ' ' :: ((pair.1.toList ++ ['=']) ++ ShellWords.apostrophe ::
        pair.2.toList.flatMap fun c => if c = ShellWords.apostrophe then
          [ShellWords.apostrophe, '\\', ShellWords.apostrophe, ShellWords.apostrophe] else [c])),?_⟩
      rw [List.concat_eq_append, shellLines, List.flatMap_append, List.flatMap_singleton, shellText_words,
        ShellWords.quote, shellLines]
      simp only [List.append_assoc, List.cons_append, List.nil_append]
    obtain ⟨text,ends⟩ := last
    rw [ends] at whole ⊢
    rw [List.rdropWhile_concat_pos _ _ _ (by decide), List.rdropWhile_concat_neg _ _ _ (by decide)]
    exact ShellWords.read_chomp List.getLast?_concat whole

variable {specials : Specials String String}

theorem runExport_command (s : Session String String) (pair : String × String)
    (valid : isKey pair.1.toList = true) :
    runExport specials s (exportCommand pair) = specials.exportAs s pair.1 pair.2 := by
  have apart : '=' ∉ pair.1.toList := isKey_apart valid fun strange => strange.apart.1 rfl
  simp only [runExport, exportCommand, if_true, splitOnce_field apart, Option.bind_some, String.ofList_toList]

theorem run_commands (s : Session String String) (valid : ∀ pair ∈ printed, isKey pair.1.toList = true) :
    (printed.map exportCommand).foldlM (runExport specials) s = specials.exportAll s printed := by
  induction printed generalizing s with
  | nil => rfl
  | cons pair printed ih =>
    obtain ⟨first,rest⟩ := List.forall_mem_cons.mp valid
    rw [List.map_cons, List.foldlM_cons, runExport_command s pair first, Specials.exportAll, List.foldlM_cons]
    exact congrArg _ (funext fun next => ih next rest)

theorem evaluate_shellLines (specials : Specials String String) (vars : Variables String String)
    (valid : ∀ pair ∈ printed, isKey pair.1.toList = true) :
    evaluate specials vars (shellLines printed) = specials.exportAll ⟨vars,[]⟩ printed := by
  rw [evaluate, read_substituted valid]
  exact run_commands _ valid

/-- The map in which the later pair wins, over what there was, and no command run. -/
def Assigns (vars : Variables String String) (printed : List (String × String))
    (run : Option (Session String String)) : Prop :=
  ∃ final, run = some ⟨final,[]⟩ ∧
    ∀ key, final key = ((lastOf printed key).map fun value => ⟨value,true⟩).or (vars key)

theorem assigns_ordinary (vars : Variables String String) (valid : ∀ pair ∈ printed, isKey pair.1.toList = true)
    (ordinary : ∀ pair ∈ printed, specials.isSpecial pair.1 = false) :
    Assigns vars printed (evaluate specials vars (shellLines printed)) := by
  rw [evaluate_shellLines specials vars valid, Specials.exportAll_ordinary ordinary]
  refine ⟨_,rfl,fun key => ?_⟩
  refine @foldl_lastOf _ _ _ _ (Variables String String) (fun vars => vars) (fun value => ⟨value,true⟩) _
    (fun s pair key => ?_) printed vars key
  exact Function.update_apply ..

/-- A shell that keeps no names exports the map to the command. -/
theorem environment_shellLines (valid : ∀ pair ∈ printed, isKey pair.1.toList = true) :
    (evaluate .none (fun _ => none) (shellLines printed)).map (fun s => s.vars.environment) =
      some (lastOf printed) := by
  obtain ⟨final,evaluated,values⟩ := @assigns_ordinary printed .none (fun _ => none) valid fun _ _ => rfl
  rw [evaluated, Option.map_some]
  have exported : final.environment = lastOf printed := by
    funext key
    rw [Variables.environment, values]
    cases lastOf printed key <;> rfl
  exact congrArg some exported

/-- Only ordinary names are sure to be assigned: the shell may refuse any other. -/
theorem assigns_iff {isSpecial : String → Bool} (vars : Variables String String)
    (valid : ∀ pair ∈ printed, isKey pair.1.toList = true) :
    (∀ treat, Assigns vars printed (evaluate ⟨isSpecial,treat⟩ vars (shellLines printed))) ↔
      ∀ pair ∈ printed, isSpecial pair.1 = false := by
  constructor
  · intro sure pair member
    refine Bool.eq_false_iff.mpr fun special => ?_
    obtain ⟨final,assigned,-⟩ := sure fun _ _ _ => none
    rw [evaluate_shellLines _ vars valid,
      Specials.exportAll_refused member ⟨special,fun _ _ => rfl⟩] at assigned
    cases assigned
  · exact fun ordinary treat => assigns_ordinary vars valid ordinary

end Lines

/-- The shell output is read as one `export` for each pair, in order and with exactly its value; only
from a value that cannot be encoded on is nothing printed. Evaluating it is sure to assign the map in
which the later pair wins, and to run nothing, just where no name is one that the shell keeps for
itself; and it fails at a name that the shell refuses. -/
theorem shell_output_exact {names : Names} {stream : List (List Char)} {pairs : List Pair}
    (parsed : parse names stream = .ok pairs) (name : String) :
    ∃ printed : List (String × String), printed.map textPair <+: pairs ∧
      ((∀ pair ∈ pairs, ∃ text, pair.2 = str text) → printed.map textPair = pairs) ∧
      ShellWords.read (print "shell" name pairs).stdout = some (printed.map exportCommand) ∧
      (∀ isSpecial vars,
        (∀ treat, Assigns vars printed (evaluate ⟨isSpecial,treat⟩ vars (print "shell" name pairs).stdout)) ↔
          ∀ pair ∈ printed, isSpecial pair.1 = false) ∧
      ∀ specials vars, (∃ pair ∈ printed, specials.Refuses pair.1) →
        evaluate specials vars (print "shell" name pairs).stdout = none := by
  obtain ⟨printed,before,stdout,failure⟩ := printAll_render shellText pairs
  have valid : ∀ pair ∈ printed, isKey pair.1.toList = true := fun pair member =>
    (parse_keys parsed _ (before.subset (List.mem_map_of_mem member))).1
  have output : (print "shell" name pairs).stdout = shellLines printed := by
    rw [print, if_pos rfl, stdout, shellLines]
  rw [output]
  refine ⟨printed,before,fun texts => failure.mp (printAll_texts texts),read_shellLines valid,
    fun isSpecial vars => assigns_iff vars valid,?_⟩
  rintro specials vars ⟨pair,member,refused⟩
  rw [evaluate_shellLines specials vars valid, Specials.exportAll_refused member refused]

def sampleNames : Names where
  lookup name := if name = "DIGIT ONE".toList then some (.char '1')
    else if name = "REVERSE SOLIDUS".toList then some (.char '\\')
    else none
  spelled name point found := by
    split at found
    · next same =>
      rw [same]
      exact List.forall_iff_forall_mem.mp (by decide)
    split at found
    · next same =>
      rw [same]
      exact List.forall_iff_forall_mem.mp (by decide)
    · cases found

def substitutions : List Char → List String
  | [] => []
  | c :: rest =>
    if c = '$' ∧ rest.head? = some '(' then
      String.ofList (rest.tail.takeWhile (· ≠ ')')) :: substitutions rest
    else substitutions rest

/-- Names that bash keeps read-only, and numbers of its own, for which it evaluates what is assigned. -/
def sampleBash : Specials String String where
  isSpecial name := ["BASHOPTS", "BASH_VERSINFO", "EUID", "PPID", "SHELLOPTS", "UID"].contains name ||
    ["HISTCMD", "OPTIND", "RANDOM", "SRANDOM"].contains name
  treat vars name value :=
    if ["HISTCMD", "OPTIND", "RANDOM", "SRANDOM"].contains name then
      some ⟨vars.exportAs name "18498",substitutions value.toList⟩
    else none

/-- Quotes, a newline and a command substitution stay inside the value of their key. -/
theorem shell_output_exact_quoted : ∃ pairs printed,
    parse sampleNames ["A=it's `id` $(id)\n".toList, "A=\"'\\n; id #'\"\n".toList] = .ok pairs ∧
    printed.map textPair = pairs ∧
    ShellWords.read (print "shell" "app-env" pairs).stdout = some (printed.map exportCommand) ∧
    printed = [("A","it's `id` $(id)"), ("A","'\n; id #'")] ∧
    ∀ vars, Assigns vars printed (evaluate sampleBash vars (print "shell" "app-env" pairs).stdout) := by
  have parsed : parse sampleNames ["A=it's `id` $(id)\n".toList, "A=\"'\\n; id #'\"\n".toList] =
      .ok [("A",str "it's `id` $(id)".toList), ("A",str "'\n; id #'".toList)] := by decide +kernel
  obtain ⟨printed,-,all,read,assigned,-⟩ := shell_output_exact parsed "app-env"
  have whole := all fun pair member => by
    rcases List.mem_pair.mp member with rfl | rfl <;> exact ⟨_,rfl⟩
  have given : [("A","it's `id` $(id)"), ("A","'\n; id #'")].map textPair =
      [("A",str "it's `id` $(id)".toList), ("A",str "'\n; id #'".toList)] := rfl
  have same := List.map_injective_iff.mpr textPair_injective (whole.trans given.symm)
  refine ⟨_,printed,parsed,whole,read,same,fun vars => ?_⟩
  refine (assigned sampleBash.isSpecial vars).mpr (fun pair member => ?_) sampleBash.treat
  rw [same] at member
  rcases List.mem_pair.mp member with rfl | rfl <;> decide

/-- Bash runs the command substitution that it meets in a number of its own, and refuses a user id. -/
theorem shell_output_runs :
    (∃ pairs, parse sampleNames ["RANDOM=BASH_VERSINFO[$(touch p)0]\n".toList] = .ok pairs ∧
      (evaluate sampleBash (fun _ => none) (print "shell" "app-env" pairs).stdout).map Session.ran =
        some ["touch p"]) ∧
    ∃ pairs, parse sampleNames ["UID=1000\n".toList] = .ok pairs ∧
      (evaluate sampleBash (fun _ => none) (print "shell" "app-env" pairs).stdout).isNone = true :=
  ⟨⟨[("RANDOM",str "BASH_VERSINFO[$(touch p)0]".toList)],by decide +kernel,by decide +kernel⟩,
    [("UID",str "1000".toList)],by decide +kernel,by decide +kernel⟩

end IntakeApi.Dotenv
