import IntakeApi.EnvRun
import Mathlib.Data.List.Perm.Basic

/-! The maps that the three output modes denote. One of the modes prints the pairs sorted, and there
the greatest value of a key wins, not the last. -/
namespace IntakeApi.Dotenv

open Python Shell Bindings

/-- The `K=V` lines of an env file. -/
def envfileEntries (text : List Char) : List (String × String) :=
  (readLines text).filterMap fun line => splitOnce '=' (String.ofList (rstripNewline line))

/-- `  K: V` with a base64 value. -/
def k8sEntry (line : List Char) : Option (String × List UInt8) := do
  let entry ← stripPrefix "  " (String.ofList (rstripNewline line))
  let (k,rest) ← splitOnce ':' entry
  let encoded ← stripPrefix " " rest
  (Base64.decode encoded.toList).map fun v => (k,v)

/-- The data of a secret of this name. -/
def k8sEntries (name : String) (text : List Char) : List (String × List UInt8) :=
  (readLines (text.drop ((k8sHead name).length + 1))).filterMap k8sEntry

section Maps

variable (names : Names) (stdin : List Char)

/-- What a command finds in its environment after `eval`, in bytes, where the shell keeps no names for
itself. -/
def shellMap (key : String) : Option (List UInt8) :=
  ((evaluate .none (fun _ => none) (main names ["shell"] stdin).stdout).bind fun s =>
    s.vars.environment key).map asBytes

def envfileMap (key : String) : Option (List UInt8) :=
  (lastOf (envfileEntries (main names ["envfile"] stdin).stdout) key).map asBytes

def k8sMap (name key : String) : Option (List UInt8) :=
  lastOf (k8sEntries name (main names ["k8s", name] stdin).stdout) key

end Maps

/-- The last value of every key is the greatest of its values. -/
def LastIsGreatest (pairs : List Pair) : Prop :=
  ∀ key last, lastOf pairs key = some last → ∀ v ∈ valuesOf pairs key, v ≤ last

section Lines

variable {printed : List (String × String)}

theorem envfileEntries_lines (fits : ∀ pair ∈ printed, Fits pair) :
    envfileEntries (envfileLines printed) = printed := by
  have one : ∀ line ∈ printed.map fun pair => envfileText pair.1 pair.2.toList, '\n' ∉ line := by
    intro line member
    obtain ⟨pair,there,rfl⟩ := List.mem_map.mp member
    exact envfileText_line (fits pair there)
  have lines := readLines_lines one
  rw [List.flatMap_map, List.map_map] at lines
  rw [envfileEntries, envfileLines, lines, List.filterMap_map]
  refine (List.filterMap_congr fun pair member => ?_).trans List.filterMap_some
  have apart : '=' ∉ pair.1.toList := isKey_apart (fits pair member).key fun strange => strange.apart.1 rfl
  have stripped := rstripNewline_line (one _ (List.mem_map_of_mem member))
  rw [Function.comp_apply, Function.comp_apply, stripped, envfileText, splitOnce_field apart]
  simp only [String.ofList_toList]

def k8sLines (printed : List (String × String)) : List Char :=
  printed.flatMap fun pair => k8sText pair.1 pair.2.toList ++ ['\n']

theorem k8sText_line {k : String} (v : List Char) (key : isKey k.toList = true) : '\n' ∉ k8sText k v := by
  have apart : '\n' ∉ k.toList := isKey_apart key fun strange => absurd strange.solid (by decide)
  have encoded : '\n' ∉ Base64.encode (asBytes (String.ofList v)) :=
    fun there => absurd (Base64.encode_chars _ _ there) (by decide)
  simp only [k8sText, List.mem_append, List.mem_cons, not_or]
  exact ⟨by decide,apart,by decide,by decide,encoded⟩

theorem k8sEntry_line {k : String} (v : List Char) (key : isKey k.toList = true) :
    k8sEntry (k8sText k v ++ ['\n']) = some (k,asBytes (String.ofList v)) := by
  have apart : ':' ∉ k.toList := isKey_apart key fun strange => strange.apart.2.1 rfl
  rw [k8sEntry, rstripNewline_line (k8sText_line v key), k8sText, stripPrefix_append, Option.bind_eq_bind,
    Option.bind_some, splitOnce_field apart, Option.bind_eq_bind, Option.bind_some]
  dsimp only
  rw [stripPrefix_append, Option.bind_some, String.toList_ofList, Base64.decode_encode, String.ofList_toList]
  rfl

example : k8sEntry "  A: eA==\n".toList = some ("A",asBytes "x") := by decide +kernel

theorem k8sEntries_lines (name : String) (keys : ∀ pair ∈ printed, isKey pair.1.toList = true) :
    k8sEntries name (k8sHead name ++ '\n' :: k8sLines printed) =
      printed.map fun pair => (pair.1,asBytes pair.2) := by
  have head : (k8sHead name ++ '\n' :: k8sLines printed).drop ((k8sHead name).length + 1) = k8sLines printed := by
    rw [← List.drop_drop, List.drop_left]
    rfl
  have one : ∀ line ∈ printed.map fun pair => k8sText pair.1 pair.2.toList, '\n' ∉ line := by
    intro line member
    obtain ⟨pair,there,rfl⟩ := List.mem_map.mp member
    exact k8sText_line _ (keys pair there)
  have lines := readLines_lines one
  rw [List.flatMap_map, List.map_map] at lines
  rw [k8sEntries, head, k8sLines, lines, List.filterMap_map]
  refine (List.filterMap_congr fun pair member => ?_).trans (congrFun (List.filterMap_eq_map ..) _)
  rw [Function.comp_apply, Function.comp_apply, k8sEntry_line _ (keys pair member), String.ofList_toList]
  rfl

end Lines

section Sorted

instance : Std.Total PairLe where
  total p q := by
    rcases lt_trichotomy p.1 q.1 with less | same | greater
    · exact .inl (.inl less)
    · rcases le_total p.2 q.2 with below | above
      · exact .inl (.inr ⟨same,below⟩)
      · exact .inr (.inr ⟨same.symm,above⟩)
    · exact .inr (.inl greater)

instance : IsTrans Pair PairLe where
  trans p q r first second := by
    rcases first with less | ⟨same,below⟩
    · rcases second with lower | ⟨equal,-⟩
      · exact .inl (lt_trans less lower)
      · exact .inl (equal ▸ less)
    · rcases second with lower | ⟨equal,under⟩
      · exact .inl (same ▸ lower)
      · exact .inr ⟨same.trans equal,le_trans below under⟩

theorem sorted_perm (pairs : List Pair) : (sorted pairs).Perm pairs := List.perm_insertionSort ..

theorem valuesOf_sorted (pairs : List Pair) (key : String) :
    (valuesOf (sorted pairs) key).Pairwise (· ≤ ·) ∧ (valuesOf (sorted pairs) key).Perm (valuesOf pairs key) := by
  constructor
  · refine List.pairwise_map.mpr (((List.pairwise_insertionSort PairLe pairs).filter _).imp_of_mem ?_)
    intro p q inP inQ ordered
    have first := of_decide_eq_true (List.mem_filter.mp inP).2
    have second := of_decide_eq_true (List.mem_filter.mp inQ).2
    rcases ordered with less | ⟨-,below⟩
    · rw [first, second] at less
      exact absurd less (lt_irrefl _)
    · exact below
  · exact ((sorted_perm pairs).filter _).map _

theorem lastOf_sorted (pairs : List Pair) :
    (∀ key, lastOf (sorted pairs) key = lastOf pairs key) ↔ LastIsGreatest pairs := by
  constructor
  · intro same key
    obtain ⟨ascending,values⟩ := valuesOf_sorted pairs key
    exact (getLast?_sorted values ascending).mp (same key)
  · intro greatest key
    obtain ⟨ascending,values⟩ := valuesOf_sorted pairs key
    exact (getLast?_sorted values ascending).mpr (greatest key)

theorem sorted_textPairs (printed : List (String × String)) :
    ∃ ordered : List (String × String), sorted (printed.map textPair) = ordered.map textPair ∧
      ordered.Perm printed := by
  obtain ⟨ordered,-,-,failure⟩ := printAll_render k8sText (sorted (printed.map textPair))
  have whole := failure.mp (printAll_texts fun pair member => by
    obtain ⟨given,-,rfl⟩ := List.mem_map.mp ((sorted_perm _).mem_iff.mp member)
    exact ⟨_,rfl⟩)
  have perm := sorted_perm (printed.map textPair)
  rw [← whole] at perm
  exact ⟨ordered,whole.symm,(List.map_perm_map_iff textPair_injective).mp perm⟩

end Sorted

/-- Where the envfile mode succeeds, it denotes the map of the shell mode; the k8s mode denotes it
just where the last value of every key is the greatest. -/
theorem modes_agree_iff {names : Names} {stdin : List Char}
    (succeeds : (main names ["envfile"] stdin).failure = none) (name : String) :
    ∃ pairs, parse names (stdinLines stdin) = .ok pairs ∧ shellMap names stdin = envfileMap names stdin ∧
      ((shellMap names stdin = envfileMap names stdin ∧ k8sMap names stdin name = envfileMap names stdin) ↔
        LastIsGreatest pairs) := by
  obtain ⟨printed,parsed,stdout,fits⟩ := envfile_ok succeeds
  have keys : ∀ pair ∈ printed, isKey pair.1.toList = true := fun pair member => (fits pair member).key
  have envfile (key : String) : envfileMap names stdin key = (lastOf printed key).map asBytes := by
    rw [envfileMap, stdout, envfileEntries_lines fits]
  have shell : shellMap names stdin = envfileMap names stdin := by
    funext key
    have output : (main names ["shell"] stdin).stdout = shellLines printed := by
      rw [main_ok (by decide) parsed, print, if_pos rfl, printAll_textPairs, shellLines]
    obtain ⟨final,evaluated,environment⟩ := Option.map_eq_some_iff.mp (environment_shellLines keys)
    rw [envfile, shellMap, output, evaluated, Option.bind_some, environment]
  obtain ⟨ordered,sorted_pairs,perm⟩ := sorted_textPairs printed
  have secret (key : String) : k8sMap names stdin name key = (lastOf ordered key).map asBytes := by
    have output : (main names ["k8s", name] stdin).stdout = k8sHead name ++ '\n' :: k8sLines ordered := by
      rw [main_ok (by decide) parsed, print, if_neg (by decide), if_neg (by decide), sorted_pairs, printAll,
        printAll_textPairs, k8sLines]
      rfl
    rw [k8sMap, output, k8sEntries_lines name fun pair member => keys pair (perm.mem_iff.mp member), lastOf_map]
  refine ⟨_,parsed,shell,?_⟩
  rw [and_iff_right shell, ← lastOf_sorted, sorted_pairs, funext_iff]
  refine forall_congr' fun key => ?_
  have text : Function.Injective fun value : String => str value.toList :=
    str_injective.comp fun a b same => String.toList_inj.mp same
  have bytes : Function.Injective asBytes := fun a b same => asBytes_injective same
  have pairsOf (given : List (String × String)) :
      lastOf (given.map textPair) key = (lastOf given key).map fun value => str value.toList :=
    lastOf_map fun value : String => str value.toList
  rw [secret, envfile, pairsOf, pairsOf, (Option.map_injective bytes).eq_iff, (Option.map_injective text).eq_iff]

/-- A repeated key whose last value is the greatest means the same everywhere. -/
theorem modes_agree_iff_ascending :
    shellMap sampleNames "A=1\nA=2\n".toList = envfileMap sampleNames "A=1\nA=2\n".toList ∧
      k8sMap sampleNames "A=1\nA=2\n".toList "app-env" = envfileMap sampleNames "A=1\nA=2\n".toList := by
  obtain ⟨pairs,parsed,-,agree⟩ := @modes_agree_iff sampleNames "A=1\nA=2\n".toList (by decide +kernel) "app-env"
  have given : parse sampleNames (stdinLines "A=1\nA=2\n".toList) = .ok [("A",str ['1']), ("A",str ['2'])] := by
    decide +kernel
  cases Except.ok.inj (given.symm.trans parsed)
  refine agree.mpr fun key last ends v member => ?_
  by_cases same : "A" = key
  · subst same
    simp only [lastOf, valuesOf_cons_same, valuesOf_nil, List.getLast?_cons_cons, List.getLast?_singleton,
      Option.some.injEq] at ends member
    subst ends
    rcases List.mem_pair.mp member with rfl | rfl <;> decide
  · rw [valuesOf_cons_other same, valuesOf_cons_other same] at member
    cases member

/-- A repeated key whose last value is smaller has its greatest value in the secret. -/
theorem modes_differ_descending :
    (main sampleNames ["envfile"] "A=2\nA=1\n".toList).failure = none ∧
    envfileMap sampleNames "A=2\nA=1\n".toList "A" = some (asBytes "1") ∧
    shellMap sampleNames "A=2\nA=1\n".toList "A" = some (asBytes "1") ∧
    k8sMap sampleNames "A=2\nA=1\n".toList "app-env" "A" = some (asBytes "2") := by
  decide +kernel

end IntakeApi.Dotenv
