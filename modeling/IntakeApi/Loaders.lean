import IntakeApi.EnvRun

/-! The two loaders of decrypted secrets, the entrypoint of the container and `env-run`: which
variables each exports, and when they are the same. -/
namespace IntakeApi.Dotenv

open Python Shell Bindings

/-- The variable and the value that a line of the entrypoint is for. -/
def shellEntry (line : List Char) : Option (String × String) :=
  if isVariableName (String.ofList (readTwo '=' line).1) then
    some (String.ofList (readTwo '=' line).1,String.ofList (readTwo '=' line).2)
  else none

def shellEntries (plaintext : String) : List (String × String) := (secretLines plaintext).filterMap shellEntry

section Entry

variable {script : Script} {line : List Char} {name value : String}

theorem shellEntry_none : shellEntry line = none ↔ isVariableName (String.ofList (readTwo '=' line).1) = false := by
  unfold shellEntry
  split
  · next valid => simp [valid]
  · next invalid => simpa using invalid

theorem shellEntry_some (entry : shellEntry line = some (name,value)) :
    isVariableName name = true ∧ readTwo '=' line = (name.toList,value.toList) := by
  unfold shellEntry at entry
  split at entry
  · next valid =>
    cases entry
    rw [String.toList_ofList, String.toList_ofList]
    exact ⟨valid,rfl⟩
  · cases entry

/-- What a line leaves of a variable that it does not read into. -/
theorem exportLine_other (own : name ≠ "key" ∧ name ≠ "value") (free : script.vars name = none) :
    (exportLine script line).vars name = (firstOf (shellEntry line).toList name).map fun v => ⟨v,true⟩ := by
  have read : readLine script.vars line name = none := (readLine_other own).trans free
  cases entry : shellEntry line with
  | none =>
    rw [exportLine_unnamed (shellEntry_none.mp entry), read]
    rfl
  | some given =>
    obtain ⟨key,value⟩ := given
    obtain ⟨valid,parts⟩ := shellEntry_some entry
    rw [exportLine_named valid parts]
    by_cases same : key = name
    · subst same
      rw [if_pos (Option.isNone_iff_eq_none.mpr read), Variables.exportAs_same, Option.toList_some, firstOf,
        valuesOf_cons_same, String.ofList_toList]
      rfl
    · have kept : firstOf [(key,value)] name = none := by rw [firstOf, valuesOf_cons_other same]; rfl
      rw [Option.toList_some, kept]
      split
      · rw [Variables.exportAs_other (Ne.symm same), read]
        rfl
      · exact read

/-- A variable that is read into is never exported. -/
theorem exportLine_own (own : name = "key" ∨ name = "value")
    (unexported : script.vars.environment name = none) : (exportLine script line).vars.environment name = none := by
  have set : (readLine script.vars line name).isSome = true := by
    rcases own with rfl | rfl
    · exact Variables.assign_isSome (by simp [Variables.assign])
    · simp [readLine, Variables.assign]
  have kept : (readLine script.vars line).environment name = none :=
    Variables.assign_unexported (Variables.assign_unexported unexported)
  rcases exportLine_cases script line with same | ⟨key,value,missing,same⟩
  · rw [same]
    exact kept
  · have apart : name ≠ key := by
      rintro rfl
      rw [missing] at set
      cases set
    rw [same, Variables.environment, Variables.exportAs_other apart]
    exact kept

/-- The first line of a variable that is not set decides. -/
theorem foldl_first (lines : List (List Char)) (own : name ≠ "key" ∧ name ≠ "value")
    (free : script.vars name = none) :
    (lines.foldl exportLine script).vars name =
      (firstOf (lines.filterMap shellEntry) name).map fun v => ⟨v,true⟩ := by
  induction lines generalizing script with
  | nil => exact free
  | cons line lines ih =>
    have step := @exportLine_other script line name own free
    have entries : (line :: lines).filterMap shellEntry =
        (shellEntry line).toList ++ lines.filterMap shellEntry := by
      cases entry : shellEntry line with
      | none => rw [List.filterMap_cons_none entry]; rfl
      | some given => rw [List.filterMap_cons_some entry]; rfl
    rw [List.foldl_cons, entries, firstOf_append]
    cases first : firstOf (shellEntry line).toList name with
    | none =>
      rw [first] at step
      rw [ih step, Option.none_or]
    | some v =>
      rw [first] at step
      rw [foldl_kept lines (by rw [step]; rfl) own, step]
      rfl

theorem foldl_own (lines : List (List Char)) (own : name = "key" ∨ name = "value")
    (unexported : script.vars.environment name = none) :
    (lines.foldl exportLine script).vars.environment name = none := by
  induction lines generalizing script with
  | nil => exact unexported
  | cons line lines ih => exact ih (exportLine_own own unexported)

end Entry

section Loaded

variable (vars : Variables String String) (plaintext : String)

/-- What the entrypoint has exported when it hands over. -/
def loaded : String → Option String :=
  ((exportLines (withSecrets vars plaintext) (secretLines plaintext)).vars.unset "secrets").environment

/-- A name that the shell holds itself, so that no line sets it. -/
def Held (name : String) : Prop :=
  name = "key" ∨ name = "value" ∨ ((withSecrets vars plaintext).vars name).isSome = true

variable {vars plaintext} {name : String}

theorem loaded_entrypoint {container : Container} (decrypts : Decrypts container vars plaintext) :
    ∃ script, entrypoint container vars = .exec script ∧ script.vars.environment = loaded vars plaintext :=
  ⟨_,decrypts.ends,rfl⟩

theorem withSecrets_unexported (empty : vars.environment name = none) :
    (withSecrets vars plaintext).vars.environment name = none := by
  refine Variables.assign_unexported ?_
  unfold withSecretsFile
  split
  · exact Variables.assign_unexported empty
  · exact empty

theorem loaded_held (empty : vars.environment name = none) (held : Held vars plaintext name) :
    loaded vars plaintext name = none := by
  have unexported := @withSecrets_unexported vars plaintext name empty
  have final : (exportLines (withSecrets vars plaintext) (secretLines plaintext)).vars.environment name = none := by
    rw [exportLines_eq]
    rcases held with own | own | set
    · exact foldl_own _ (.inl own) unexported
    · exact foldl_own _ (.inr own) unexported
    · exact foldl_unexported _ set unexported
  by_cases same : name = "secrets"
  · rw [loaded, same, Variables.environment, Variables.unset_same]
    rfl
  · rw [loaded, Variables.environment, Variables.unset_other same]
    exact final

theorem loaded_free (free : ¬Held vars plaintext name) :
    loaded vars plaintext name = firstOf (shellEntries plaintext) name := by
  obtain ⟨notKey,others⟩ := not_or.mp free
  obtain ⟨notValue,missing⟩ := not_or.mp others
  have unset : (withSecrets vars plaintext).vars name = none := by simpa using missing
  have apart : name ≠ "secrets" := by
    rintro rfl
    exact missing (by simp [withSecrets, Variables.assign])
  have ends : [([] : List Char)].filterMap shellEntry = [] := by decide
  rw [loaded, exportLines_eq, Variables.environment, Variables.unset_other apart, foldl_first _ ⟨notKey,notValue⟩ unset,
    List.filterMap_append, ends, List.append_nil, shellEntries]
  cases firstOf ((secretLines plaintext).filterMap shellEntry) name <;> rfl

end Loaded

/-- What a value text in or out of quotes stands for. -/
inductive Means (names : Names) : List Char → List Char → Prop where
  | bare {text : List Char} : isQuoted text = false → Means names text text
  | single (text : List Char) : Means names (ShellWords.apostrophe :: (text ++ [ShellWords.apostrophe])) text
  | double {body text : List Char} : decodeUnicodeEscape names (asBytes (String.ofList body)) = some (str text) →
      Means names ('"' :: (body ++ ['"'])) text

theorem means_iff {names : Names} {raw text : List Char} :
    Means names raw text ↔ unquote names raw = .ok (str text) := by
  constructor
  · intro means
    cases means with
    | bare plain => exact unquote_bare plain
    | single => exact unquote_single text
    | double decoded =>
      rw [decodeUnicodeEscape_eq, asBytes_latin1] at decoded
      exact unquote_double.mpr decoded
  · intro stands
    cases quoted : isQuoted raw with
    | false =>
      rw [unquote_bare quoted] at stands
      rw [← str_injective (Except.ok.inj stands)]
      exact .bare quoted
    | true =>
      rcases Bool.or_eq_true_iff.mp quoted with double | single
      · obtain ⟨body,rfl⟩ := inQuotes_iff.mp double
        refine .double ?_
        rw [decodeUnicodeEscape_eq, asBytes_latin1]
        exact unquote_double.mp stands
      · obtain ⟨body,rfl⟩ := inQuotes_iff.mp single
        rw [unquote_single] at stands
        rw [← str_injective (Except.ok.inj stands)]
        exact .single body

/-- A value text means what the shell has of it just where it is in no quotes and is not one field
with a `=` at its end. -/
theorem means_lastField {names : Names} {raw : List Char} : Means names raw (lastField '=' raw) ↔
    isQuoted raw = false ∧ ¬∃ field, raw = field ++ ['='] ∧ '=' ∉ field := by
  constructor
  · intro means
    have whole : isQuoted raw = true → lastField '=' raw = raw := by
      intro quoted
      refine lastField_eq_iff.mpr ?_
      rintro ⟨field,rfl,-⟩
      simp [isQuoted, inQuotes, ShellWords.apostrophe] at quoted
    have bare : isQuoted raw = false := by
      refine Bool.eq_false_iff.mpr fun quoted => ?_
      rw [whole quoted, means_iff, unquote_str_iff, quoted] at means
      cases means
    rw [means_iff, unquote_bare bare] at means
    exact ⟨bare,lastField_eq_iff.mp (str_injective (Except.ok.inj means)).symm⟩
  · rintro ⟨bare,whole⟩
    rw [lastField_eq_iff.mpr whole]
    exact .bare bare

section EnvRun

variable (names : Names) (plaintext : String)

/-- The environment that `env-run` leaves, where nothing fails and the shell keeps no names for itself. -/
def envRunMap : Option (String → Option String) :=
  if (main names ["shell"] plaintext.toList).failure = none then
    (evaluate .none (fun _ => none) (main names ["shell"] plaintext.toList).stdout).map
      fun s => s.vars.environment
  else none

/-- The value texts that dotenv assigns. -/
def dotenvEntries : List (String × List Char) := (stdinLines plaintext.toList).filterMap assignment

variable {names plaintext}

theorem envRunMap_eq_some {found : String → Option String} : envRunMap names plaintext = some found ↔
    ∃ printed : List (String × String), parse names (stdinLines plaintext.toList) = .ok (printed.map textPair) ∧
      lastOf printed = found := by
  cases parsed : parse names (stdinLines plaintext.toList) with
  | error failure =>
    have raised : (main names ["shell"] plaintext.toList).failure = some failure := by
      simp only [main, List.head?_cons, Option.getD_some, parsed]
      rfl
    simp [envRunMap, raised]
  | ok pairs =>
    have output : main names ["shell"] plaintext.toList = printAll (render shellText pairs) := by
      rw [main_ok (by decide) parsed, print, if_pos rfl]
    obtain ⟨printed,before,stdout,failure⟩ := printAll_render shellText pairs
    have keys : ∀ pair ∈ printed, isKey pair.1.toList = true := fun pair member =>
      (parse_keys parsed _ (before.subset (List.mem_map_of_mem member))).1
    rw [envRunMap, output]
    by_cases complete : (printAll (render shellText pairs)).failure = none
    · have whole := failure.mp complete
      rw [if_pos complete, stdout]
      change (evaluate _ _ (shellLines printed)).map _ = _ ↔ _
      rw [environment_shellLines keys, Option.some.injEq]
      constructor
      · rintro rfl
        exact ⟨printed,by rw [whole],rfl⟩
      · rintro ⟨other,same,rfl⟩
        have equal := Except.ok.inj same
        rw [List.map_injective_iff.mpr textPair_injective (whole.trans equal)]
    · rw [if_neg complete]
      refine iff_of_false (Option.some_ne_none found).symm ?_
      rintro ⟨other,same,-⟩
      rw [Except.ok.inj same, printAll_textPairs] at complete
      exact complete rfl

/-- Every value is text just where every value text means one. -/
theorem parse_texts {stream : List (List Char)} :
    (∃ printed : List (String × String), parse names stream = .ok (printed.map textPair)) ↔
      ∀ entry ∈ stream.filterMap assignment, ∃ text, Means names entry.2 text := by
  simp only [parse_ok]
  constructor
  · rintro ⟨printed,all⟩
    rw [List.forall₂_map_right_iff] at all
    exact (forall_mem_iff (Q := fun _ => True) all fun entry pair stands => by
      simp only [iff_true]
      exact ⟨pair.2.toList,means_iff.mpr stands.2⟩).mpr fun _ _ => trivial
  · intro texts
    generalize stream.filterMap assignment = entries at texts ⊢
    induction entries with
    | nil => exact ⟨[],.nil⟩
    | cons entry entries ih =>
      obtain ⟨text,means⟩ := texts entry List.mem_cons_self
      obtain ⟨printed,all⟩ := ih fun other member => texts other (List.mem_cons_of_mem entry member)
      refine ⟨(entry.1,String.ofList text) :: printed,.cons ⟨rfl,?_⟩ all⟩
      rw [textPair, String.toList_ofList]
      exact means_iff.mp means

/-- The last value of a name is what its last value text means. -/
theorem lastOf_means {printed : List (String × String)}
    (parsed : parse names (stdinLines plaintext.toList) = .ok (printed.map textPair)) (name : String) :
    (lastOf (dotenvEntries plaintext) name = none ∧ lastOf printed name = none) ∨
      ∃ raw text, lastOf (dotenvEntries plaintext) name = some raw ∧ lastOf printed name = some text ∧
        unquote names raw = .ok (str text.toList) := by
  have all := parse_ok.mp parsed
  rw [List.forall₂_map_right_iff] at all
  exact lastOf_related (R := fun raw (text : String) => unquote names raw = .ok (str text.toList)) all name

end EnvRun

section Names

variable {key : String} {line value : List Char}

theorem isKey_first (c : Char) : (isLetter c || c == '_') = (isNameChar c && !c.isDigit) := by
  have table : ∀ n < 128, (isLetter (Char.ofNat n) || Char.ofNat n == '_') =
      (isNameChar (Char.ofNat n) && !(Char.ofNat n).isDigit) := by decide +kernel
  by_cases word : isNameChar c = true
  · have found := table c.toNat (word_ascii word)
    rwa [Char.ofNat_toNat] at found
  · rw [Bool.eq_false_iff.mpr fun letter => word (word_of_letter letter), Bool.eq_false_iff.mpr word]
    rfl

/-- Both loaders know the same names. -/
theorem isVariableName_iff : isVariableName key = true ↔ isKey key.toList = true ∧ startsWith "sops_" key = false := by
  rw [isVariableName, Bool.and_eq_true, Bool.not_eq_true']
  refine and_congr_left fun _ => ?_
  cases parts : key.toList with
  | nil => simp [String.toList_eq_nil_iff.mp parts, isKey]
  | cons c rest =>
    have nonempty : key.isEmpty = false := by
      rw [Bool.eq_false_iff, ne_eq, String.isEmpty_iff]
      rintro rfl
      cases parts
    have others : (rest.all fun d => isAlphanumeric d || d == '_') = rest.all isNameChar := rfl
    rw [nonempty, isKey, isKey_first, List.all_cons, List.head?_cons, Option.any_some, others]
    cases isNameChar c <;> cases c.isDigit <;> simp

def exported (key : String) (value : List Char) : List Char := "export ".toList ++ (key.toList ++ '=' :: value)

theorem dropExport_exported : dropExport (exported key value) = key.toList ++ '=' :: value := by
  unfold exported
  generalize key.toList ++ '=' :: value = rest
  have prefixed : "export ".toList.isPrefixOf ("export ".toList ++ rest) = true := by
    rw [List.isPrefixOf_iff_prefix]
    exact List.prefix_append _ _
  rw [dropExport, if_pos prefixed, List.drop_left]

theorem exported_shown : ((exported key value).all isSpace ||
    ((exported key value).dropWhile isSpace).head? == some '#') = false := by
  have first : exported key value = 'e' :: ("xport ".toList ++ (key.toList ++ '=' :: value)) := rfl
  rw [first, List.all_cons, List.dropWhile_cons_of_neg (by decide)]
  rfl

theorem assignment_line (stripped : rstripNewline line = line) (found : assignment line = some (key,value)) :
    line = key.toList ++ '=' :: value ∨ line = exported key value := by
  unfold assignment at found
  rw [stripped] at found
  dsimp only at found
  split at found
  · cases found
  split at found
  · cases found
  next k v matched =>
  split at found
  · cases found
  cases found
  obtain ⟨parts,-,-⟩ := matchLine_some matched
  unfold dropExport at parts
  split at parts
  · next starts =>
    obtain ⟨rest,rfl⟩ := List.isPrefixOf_iff_prefix.mp starts
    rw [List.drop_left] at parts
    exact .inr (parts ▸ rfl)
  · exact .inl parts

/-- What dotenv assigns on a line, with or without `export`. -/
theorem assignment_iff (one : '\n' ∉ line) : assignment line = some (key,value) ↔
    isVariableName key = true ∧ (line = key.toList ++ '=' :: value ∨ line = exported key value) := by
  have stripped : rstripNewline line = line := rstripNewline_single one
  rw [isVariableName_iff]
  constructor
  · intro found
    obtain ⟨valid,kept,-⟩ := assignment_some found
    exact ⟨⟨valid,kept⟩,assignment_line stripped found⟩
  · rintro ⟨⟨valid,kept⟩,rfl | rfl⟩
    · exact assignment_key valid kept (fun there => one (List.mem_append_right _ (List.mem_cons_of_mem _ there))) stripped
    · have single : '\n' ∉ value := fun there =>
        one (List.mem_append_right _ (List.mem_append_right _ (List.mem_cons_of_mem _ there)))
      simp only [assignment, stripped, exported_shown, dropExport_exported, matchLine_key valid single,
        String.ofList_toList, kept, Bool.false_eq_true, if_false]

/-- What the shell has of a line: the rest behind the name, or nothing if there is only a name. -/
theorem shellEntry_iff {text : String} : shellEntry line = some (key,text) ↔ isVariableName key = true ∧
    ((line = key.toList ∧ text = "") ∨
      ∃ value, line = key.toList ++ '=' :: value ∧ text = String.ofList (lastField '=' value)) := by
  constructor
  · intro entry
    obtain ⟨valid,parts⟩ := shellEntry_some entry
    refine ⟨valid,?_⟩
    by_cases separated : '=' ∈ line
    · obtain ⟨field,rest,rfl,apart⟩ := List.eq_append_cons_of_mem separated
      rw [readTwo_field apart, Prod.mk.injEq] at parts
      obtain ⟨rfl,given⟩ := parts
      exact .inr ⟨rest,rfl,by rw [given, String.ofList_toList]⟩
    · rw [readTwo_single separated, Prod.mk.injEq] at parts
      exact .inl ⟨parts.1,String.toList_eq_nil_iff.mp parts.2.symm⟩
  · rintro ⟨valid,⟨rfl,rfl⟩ | ⟨value,rfl,rfl⟩⟩
    · have alone := readTwo_single (isVariableName_apart valid)
      rw [shellEntry, alone, String.ofList_toList, if_pos valid]
    · have parts := readTwo_field (isVariableName_apart valid) value
      rw [shellEntry, parts, String.ofList_toList, if_pos valid]

end Names

/-- Both loaders read the line alike: it has no `export` before a name, it is no name alone, and a value
behind a name is in no quotes and is not one field with a `=` at its end. -/
structure ReadAlike (line : List Char) : Prop where
  plain : ∀ key value, isVariableName key = true → line ≠ exported key value
  valued : isVariableName (String.ofList line) = false
  whole : ∀ key value, isVariableName key = true → line = key.toList ++ '=' :: value →
    isQuoted value = false ∧ ¬∃ field, value = field ++ ['='] ∧ '=' ∉ field

/-- Every value text means a text, and a name is assigned nowhere, or is not held by the shell and
means in the last line of dotenv what the first line of the shell has. -/
structure LoadersAgree (names : Names) (vars : Variables String String) (plaintext : String) : Prop where
  readable : ∀ entry ∈ dotenvEntries plaintext, ∃ text, Means names entry.2 text
  same : ∀ name,
    (lastOf (dotenvEntries plaintext) name = none ∧
      (Held vars plaintext name ∨ firstOf (shellEntries plaintext) name = none)) ∨
    (¬Held vars plaintext name ∧ ∃ raw text, lastOf (dotenvEntries plaintext) name = some raw ∧
      firstOf (shellEntries plaintext) name = some text ∧ Means names raw text.toList)

theorem loadersAgree_iff {names : Names} {vars : Variables String String} {plaintext : String}
    (empty : ∀ name, vars.environment name = none) :
    envRunMap names plaintext = some (loaded vars plaintext) ↔ LoadersAgree names vars plaintext := by
  have agree {printed : List (String × String)}
      (parsed : parse names (stdinLines plaintext.toList) = .ok (printed.map textPair)) (name : String) :
      lastOf printed name = loaded vars plaintext name ↔
        (lastOf (dotenvEntries plaintext) name = none ∧
          (Held vars plaintext name ∨ firstOf (shellEntries plaintext) name = none)) ∨
        (¬Held vars plaintext name ∧ ∃ raw text, lastOf (dotenvEntries plaintext) name = some raw ∧
          firstOf (shellEntries plaintext) name = some text ∧ Means names raw text.toList) := by
    rcases lastOf_means parsed name with ⟨unassigned,nothing⟩ | ⟨raw,text,assigned,value,means⟩
    · rw [unassigned, nothing]
      by_cases held : Held vars plaintext name
      · simp [loaded_held (empty name) held, held]
      · simp [loaded_free held, held, eq_comm]
    · rw [assigned, value]
      by_cases held : Held vars plaintext name
      · simp [loaded_held (empty name) held, held]
      · rw [loaded_free held]
        cases first : firstOf (shellEntries plaintext) name with
        | none => simp
        | some other =>
          simp only [Option.some.injEq, reduceCtorEq, false_and, false_or, held, not_false_eq_true, true_and,
            means_iff]
          constructor
          · rintro rfl
            exact ⟨raw,text,rfl,rfl,means⟩
          · rintro ⟨_,_,rfl,rfl,also⟩
            exact String.toList_inj.mp (str_injective (Except.ok.inj (means.symm.trans also)))
  rw [envRunMap_eq_some]
  constructor
  · rintro ⟨printed,parsed,same⟩
    exact ⟨parse_texts.mp ⟨printed,parsed⟩,fun name => (agree parsed name).mp (congrFun same name)⟩
  · rintro ⟨readable,same⟩
    obtain ⟨printed,parsed⟩ := parse_texts.mpr readable
    exact ⟨printed,parsed,funext fun name => (agree parsed name).mpr (same name)⟩

section Lines

variable {names : Names} {vars : Variables String String} {plaintext name : String} {line : List Char}

/-- Both loaders go through the same lines. -/
theorem dotenvEntries_lines (plaintext : String) :
    dotenvEntries plaintext = (secretLines plaintext).filterMap assignment := by
  have ended (line : List Char) : assignment (line ++ ['\n']) = assignment line := by
    simp only [assignment, rstripNewline_concat]
  rw [dotenvEntries, stdinLines, readLines_splitOn rfl ended, secretLines, substituted, String.toList_ofList,
    splitOn_rdropWhile rfl]

theorem shellEntry_exported (key : String) (value : List Char) : shellEntry (exported key value) = none := by
  rw [shellEntry_none]
  refine Bool.eq_false_iff.mpr fun valid => ?_
  have unsigned : '=' ∉ "export ".toList := by decide
  have starts : ' ' ∈ "export ".toList := by decide
  have passes : ∀ c ∈ "export ".toList, decide (c ≠ '=') = true := fun c there =>
    decide_eq_true fun same => unsigned (same ▸ there)
  have taken (rest : List Char) : ("export ".toList ++ rest).takeWhile (fun c => decide (c ≠ '=')) =
      "export ".toList ++ rest.takeWhile (fun c => decide (c ≠ '=')) := List.takeWhile_append_of_pos passes
  have blank : ' ' ∈ (exported key value).takeWhile (fun c => decide (c ≠ '=')) :=
    taken (key.toList ++ '=' :: value) ▸ List.mem_append_left _ starts
  have key_char : ¬KeyChar ' ' := fun strange => absurd strange.solid (by decide)
  have apart := isKey_apart (isVariableName_iff.mp valid).1 key_char
  rw [String.toList_ofList, readTwo_fst] at apart
  exact apart blank

theorem ReadAlike.read (alike : ReadAlike line) (one : '\n' ∉ line) :
    (assignment line = none ∧ shellEntry line = none) ∨
      ∃ key raw text, assignment line = some (key,raw) ∧ shellEntry line = some (key,text) ∧
        Means names raw text.toList := by
  cases assigned : assignment line with
  | none =>
    refine .inl ⟨rfl,Option.eq_none_iff_forall_ne_some.mpr fun entry found => ?_⟩
    obtain ⟨valid,⟨same,-⟩ | ⟨value,same,-⟩⟩ := shellEntry_iff.mp found
    · have alone := alike.valued
      rw [same, String.ofList_toList, valid] at alone
      cases alone
    · rw [(assignment_iff one).mpr ⟨valid,.inl same⟩] at assigned
      cases assigned
  | some entry =>
    obtain ⟨valid,same | prefixed⟩ := (assignment_iff one).mp assigned
    · refine .inr ⟨_,_,_,rfl,shellEntry_iff.mpr ⟨valid,.inr ⟨_,same,rfl⟩⟩,?_⟩
      rw [String.toList_ofList]
      exact means_lastField.mpr (alike.whole _ _ valid same)
    · exact absurd prefixed (alike.plain _ _ valid)

theorem readAlike_of_skipped (one : '\n' ∉ line) (skipped : assignment line = none)
    (ignored : shellEntry line = none) : ReadAlike line where
  plain key value valid same := by
    rw [(assignment_iff one).mpr ⟨valid,.inr same⟩] at skipped
    cases skipped
  valued := Bool.eq_false_iff.mpr fun valid => by
    rw [shellEntry_iff.mpr ⟨valid,.inl ⟨String.toList_ofList.symm,rfl⟩⟩] at ignored
    cases ignored
  whole key value valid same := by
    rw [(assignment_iff one).mpr ⟨valid,.inl same⟩] at skipped
    cases skipped

theorem readAlike_of_means (one : '\n' ∉ line) {key text : String} {raw : List Char}
    (assigned : assignment line = some (key,raw)) (found : shellEntry line = some (key,text))
    (means : Means names raw text.toList) : ReadAlike line where
  plain key value valid same := by
    rw [same, shellEntry_exported] at found
    cases found
  valued := Bool.eq_false_iff.mpr fun valid => by
    have separated : '=' ∈ line := by
      obtain ⟨-,same | same⟩ := (assignment_iff one).mp assigned
      · exact same ▸ List.mem_append_right _ List.mem_cons_self
      · exact same ▸ List.mem_append_right _ (List.mem_append_right _ List.mem_cons_self)
    have apart := isVariableName_apart valid
    rw [String.toList_ofList] at apart
    exact apart separated
  whole key value valid same := by
    rw [(assignment_iff one).mpr ⟨valid,.inl same⟩] at assigned
    rw [shellEntry_iff.mpr ⟨valid,.inr ⟨value,same,rfl⟩⟩] at found
    cases assigned
    cases found
    rw [String.toList_ofList] at means
    exact means_lastField.mp means

/-- A line is read alike just where both loaders skip it, or both have the same name and the value text
means what the shell has. -/
theorem readAlike_iff (one : '\n' ∉ line) : ReadAlike line ↔
    (assignment line = none ∧ shellEntry line = none) ∨
      ∃ key raw text, assignment line = some (key,raw) ∧ shellEntry line = some (key,text) ∧
        Means names raw text.toList := by
  constructor
  · exact fun alike => alike.read one
  · rintro (⟨skipped,ignored⟩ | ⟨key,raw,text,assigned,found,means⟩)
    · exact readAlike_of_skipped one skipped ignored
    · exact readAlike_of_means one assigned found means

/-- The name that a line is for, to one of the loaders at least. -/
def lineName (line : List Char) : Option String :=
  ((assignment line).map Prod.fst).or ((shellEntry line).map Prod.fst)

/-- Every name is on one line only, and the shell holds none of them. -/
structure Apart (vars : Variables String String) (plaintext : String) : Prop where
  once : ((secretLines plaintext).filterMap lineName).Nodup
  free : ∀ name ∈ (secretLines plaintext).filterMap lineName, ¬Held vars plaintext name

theorem assignment_named {entry : String × List Char} (found : assignment line = some entry) :
    lineName line = some entry.1 := by
  rw [lineName, found]
  rfl

theorem shellEntry_named (one : '\n' ∉ line) {entry : String × String} (found : shellEntry line = some entry) :
    lineName line = some entry.1 := by
  cases assigned : assignment line with
  | none =>
    rw [lineName, assigned, found]
    rfl
  | some other =>
    rw [assignment_named assigned]
    obtain ⟨valid,same | prefixed⟩ := (assignment_iff one).mp assigned
    · rw [shellEntry_iff.mpr ⟨valid,.inr ⟨_,same,rfl⟩⟩] at found
      cases found
      rfl
    · rw [prefixed, shellEntry_exported] at found
      cases found

theorem secretLines_single (member : line ∈ secretLines plaintext) : '\n' ∉ line := splitOn_line member

/-- What the loaders have under the name of a line, where it is the name of no other. -/
theorem entries_once (apart : Apart vars plaintext) (member : line ∈ secretLines plaintext)
    (named : lineName line = some name) :
    lastOf (dotenvEntries plaintext) name = (assignment line).map Prod.snd ∧
      firstOf (shellEntries plaintext) name = (shellEntry line).map Prod.snd := by
  have dotenv := valuesOf_once (fun line _ entry => assignment_named) apart.once member named
  have shell := valuesOf_once (fun line there entry => shellEntry_named (secretLines_single there)) apart.once member named
  rw [lastOf, firstOf, dotenvEntries_lines, dotenv, shellEntries, shell]
  cases assignment line <;> cases shellEntry line <;> exact ⟨rfl,rfl⟩

theorem entries_none (absent : name ∉ (secretLines plaintext).filterMap lineName) :
    lastOf (dotenvEntries plaintext) name = none ∧ firstOf (shellEntries plaintext) name = none := by
  rw [dotenvEntries_lines, lastOf, firstOf, shellEntries,
    valuesOf_absent (fun line _ entry => assignment_named) absent,
    valuesOf_absent (fun line there entry => shellEntry_named (secretLines_single there)) absent]
  exact ⟨rfl,rfl⟩

/-- Loaders that agree on a map read each of its lines alike. -/
theorem LoadersAgree.alike (agree : LoadersAgree names vars plaintext) (apart : Apart vars plaintext)
    (member : line ∈ secretLines plaintext) : ReadAlike line := by
  have one := secretLines_single member
  cases named : lineName line with
  | none =>
    rw [lineName, Option.or_eq_none_iff, Option.map_eq_none_iff, Option.map_eq_none_iff] at named
    exact readAlike_of_skipped one named.1 named.2
  | some name =>
    obtain ⟨dotenv,shell⟩ := entries_once apart member named
    have same := agree.same name
    rw [dotenv, shell] at same
    rcases same with ⟨unassigned,held | unset⟩ | ⟨-,raw,text,assigned,found,means⟩
    · exact absurd held (apart.free name (List.mem_filterMap.mpr ⟨line,member,named⟩))
    · exact readAlike_of_skipped one (Option.map_eq_none_iff.mp unassigned) (Option.map_eq_none_iff.mp unset)
    · obtain ⟨⟨key,_⟩,first,rfl⟩ := Option.map_eq_some_iff.mp assigned
      obtain ⟨⟨other,_⟩,second,rfl⟩ := Option.map_eq_some_iff.mp found
      have both := (assignment_named first).symm.trans (shellEntry_named one second)
      obtain rfl : key = other := Option.some.inj both
      exact readAlike_of_means one first second means

theorem loadersAgree_of_alike (apart : Apart vars plaintext)
    (alike : ∀ line ∈ secretLines plaintext, ReadAlike line) : LoadersAgree names vars plaintext where
  readable := by
    rw [dotenvEntries_lines]
    intro entry member
    obtain ⟨line,there,assigned⟩ := List.mem_filterMap.mp member
    rcases (alike line there).read (secretLines_single there) with ⟨skipped,-⟩ | ⟨key,raw,text,found,-,means⟩
    · rw [skipped] at assigned
      cases assigned
    · obtain rfl := Option.some.inj (found.symm.trans assigned)
      exact ⟨_,means⟩
  same name := by
    by_cases there : name ∈ (secretLines plaintext).filterMap lineName
    · obtain ⟨line,member,named⟩ := List.mem_filterMap.mp there
      obtain ⟨dotenv,shell⟩ := entries_once apart member named
      rw [dotenv, shell]
      rcases (alike line member).read (secretLines_single member) with
        ⟨skipped,ignored⟩ | ⟨key,raw,text,assigned,found,means⟩
      · rw [skipped, ignored]
        exact .inl ⟨rfl,.inr rfl⟩
      · rw [assigned, found]
        exact .inr ⟨apart.free name there,raw,text,rfl,rfl,means⟩
    · obtain ⟨unassigned,unset⟩ := entries_none there
      exact .inl ⟨unassigned,.inr unset⟩

theorem loadersAgree_apart (apart : Apart vars plaintext) :
    LoadersAgree names vars plaintext ↔ ∀ line ∈ secretLines plaintext, ReadAlike line :=
  ⟨fun agree _ => agree.alike apart,loadersAgree_of_alike apart⟩

end Lines

/-- From an environment without variables, and where every name is on one line only, the entrypoint exports
what `env-run` does just where each line is read alike. In general it does just where the first line
of the shell for a name and the last of dotenv agree. -/
theorem loaders_agree_iff {names : Names} {vars : Variables String String} {plaintext : String}
    (empty : ∀ name, vars.environment name = none) :
    (Apart vars plaintext → (envRunMap names plaintext = some (loaded vars plaintext) ↔
      ∀ line ∈ secretLines plaintext, ReadAlike line)) ∧
    (envRunMap names plaintext = some (loaded vars plaintext) ↔ LoadersAgree names vars plaintext) :=
  ⟨fun apart => (loadersAgree_iff empty).trans (loadersAgree_apart apart),loadersAgree_iff empty⟩

/-- A comment, and a value with a blank and two signs at its end. -/
theorem loaders_agree_iff_comment :
    envRunMap sampleNames "# a\nA=x y==\n" = some (loaded (fun _ => none) "# a\nA=x y==\n") := by
  have lines : secretLines "# a\nA=x y==\n" = ["# a".toList, "A=x y==".toList] := by decide +kernel
  have apart : Apart (fun _ => none) "# a\nA=x y==\n" := by
    have names : ["# a".toList, "A=x y==".toList].filterMap lineName = ["A"] := by decide +kernel
    refine ⟨by rw [lines, names]; exact List.nodup_singleton _,?_⟩
    rw [lines, names]
    refine List.forall_mem_singleton.mpr ?_
    rintro (key | value | set)
    · exact absurd key (by decide)
    · exact absurd value (by decide)
    · exact absurd set (by decide +kernel)
  refine ((loaders_agree_iff fun _ => rfl).1 apart).mpr ?_
  rw [lines]
  refine List.forall_mem_cons.mpr ⟨?_,List.forall_mem_singleton.mpr ?_⟩
  · exact (@readAlike_iff sampleNames _ (by decide)).mpr (.inl ⟨by decide +kernel,by decide +kernel⟩)
  · exact (@readAlike_iff sampleNames _ (by decide)).mpr
      (.inr ⟨"A","x y==".toList,"x y==",by decide +kernel,by decide +kernel,.bare (by decide)⟩)

/-- The entrypoint keeps quotes, takes the first line of a key and knows no `export`. -/
theorem loaders_differ :
    loaded (fun _ => none) "A=\"x\"\nB=1\nB=2\nexport C=1\n" "A" = some "\"x\"" ∧
    (envRunMap sampleNames "A=\"x\"\nB=1\nB=2\nexport C=1\n").bind (· "A") = some "x" ∧
    loaded (fun _ => none) "A=\"x\"\nB=1\nB=2\nexport C=1\n" "B" = some "1" ∧
    (envRunMap sampleNames "A=\"x\"\nB=1\nB=2\nexport C=1\n").bind (· "B") = some "2" ∧
    loaded (fun _ => none) "A=\"x\"\nB=1\nB=2\nexport C=1\n" "C" = none ∧
    (envRunMap sampleNames "A=\"x\"\nB=1\nB=2\nexport C=1\n").bind (· "C") = some "1" := by
  decide +kernel

end IntakeApi.Dotenv
