import IntakeApi.EnvRun

/-! Parsing an env file that was printed from parsed secrets. -/
namespace IntakeApi.Dotenv

open Python

/-- The content of a quoted value text, its escapes expanded, is in quotes again. -/
def Requoted (names : Names) (raw : List Char) : Prop :=
  (inQuotes '"' raw = true ∧ ∃ text, isQuoted text = true ∧
    decodeUnicodeEscape names (asBytes (String.ofList (inside raw))) = some (str text)) ∨
  (inQuotes ShellWords.apostrophe raw = true ∧ isQuoted (inside raw) = true)

theorem requoted_iff {names : Names} {raw text : List Char} (stands : unquote names raw = .ok (str text)) :
    Requoted names raw ↔ isQuoted text = true := by
  cases double : inQuotes '"' raw with
  | true =>
    obtain ⟨body,rfl⟩ := inQuotes_iff.mp double
    have decoded := unquote_double.mp stands
    have single : ¬inQuotes ShellWords.apostrophe ('"' :: (body ++ ['"'])) = true := by
      rw [inQuotes_iff]
      rintro ⟨other,same⟩
      exact absurd (List.cons.inj same).1 (by decide)
    rw [Requoted, double, and_iff_right rfl, or_iff_left fun also => single also.1, inside_quotes,
      decodeUnicodeEscape_eq, asBytes_latin1, decoded]
    constructor
    · rintro ⟨other,quoted,same⟩
      rwa [str_injective (Option.some.inj same)]
    · intro quoted
      exact ⟨text,quoted,rfl⟩
  | false => cases single : inQuotes ShellWords.apostrophe raw with
    | true =>
      obtain ⟨body,rfl⟩ := inQuotes_iff.mp single
      rw [unquote_single] at stands
      rw [Requoted, double, single, inside_quotes, str_injective (Except.ok.inj stands)]
      simp
    | false =>
      have bare : isQuoted raw = false := by rw [isQuoted, double, single]; rfl
      rw [unquote_bare bare] at stands
      rw [Requoted, double, single, ← str_injective (Except.ok.inj stands), bare]
      simp

section Output

variable {printed : List (String × String)}

theorem parse_envfile {names : Names} (fits : ∀ pair ∈ printed, Fits pair) :
    parse names (stdinLines (envfileLines printed)) = .ok (printed.map textPair) ↔
      ∀ pair ∈ printed, isQuoted pair.2.toList = false := by
  rw [parse_ok, assignments_envfile fits, List.forall₂_map_left_iff, List.forall₂_map_right_iff, List.forall₂_same]
  refine forall₂_congr fun pair member => ?_
  rw [Stands, textPair, and_iff_right rfl, unquote_str_iff]

example : parse sampleNames (stdinLines (envfileLines [("A","x")])) = .ok [("A",str ['x'])] := by
  decide +kernel

end Output

/-- Where the envfile mode succeeds, its output is parsed to the same pairs just where no line has a
quoted value text whose content is in quotes again. -/
theorem envfile_reread_iff {names : Names} {stdin : List Char}
    (succeeds : (main names ["envfile"] stdin).failure = none) :
    ∃ pairs, parse names (stdinLines stdin) = .ok pairs ∧
      (parse names (stdinLines (main names ["envfile"] stdin).stdout) = .ok pairs ↔
        ∀ line ∈ stdinLines stdin, ∀ k raw, assignment line = some (k,raw) → ¬Requoted names raw) := by
  obtain ⟨printed,parsed,stdout,fits⟩ := envfile_ok succeeds
  refine ⟨_,parsed,?_⟩
  have stands := parse_ok.mp parsed
  rw [List.forall₂_map_right_iff] at stands
  have values := Bindings.forall_mem_iff (P := fun assigned => ¬Requoted names assigned.2) stands
    (Q := fun pair => isQuoted pair.2.toList = false) fun assigned pair each => by
      rw [requoted_iff each.2, Bool.not_eq_true]
  rw [stdout, parse_envfile fits, ← values]
  constructor
  · intro all line member k raw found
    exact all (k,raw) (List.mem_filterMap.mpr ⟨line,member,found⟩)
  · intro all assigned member
    obtain ⟨line,there,found⟩ := List.mem_filterMap.mp member
    exact all line there assigned.1 assigned.2 found

/-- Single quotes around text that is not quoted are not needed. -/
theorem envfile_reread_iff_single :
    parse sampleNames (stdinLines (main sampleNames ["envfile"] "A='x \"y\"'\n".toList).stdout) =
      .ok [("A",str "x \"y\"".toList)] := by
  obtain ⟨pairs,parsed,reread⟩ :=
    @envfile_reread_iff sampleNames "A='x \"y\"'\n".toList (by decide +kernel)
  have given : parse sampleNames (stdinLines "A='x \"y\"'\n".toList) = .ok [("A",str "x \"y\"".toList)] := by
    decide +kernel
  cases Except.ok.inj (given.symm.trans parsed)
  refine reread.mpr fun line member k raw found requoted => ?_
  have lines : stdinLines "A='x \"y\"'\n".toList = ["A='x \"y\"'\n".toList] := by decide +kernel
  rw [lines, List.mem_singleton] at member
  subst member
  have assigned : assignment "A='x \"y\"'\n".toList = some ("A","'x \"y\"'".toList) := by decide +kernel
  cases Option.some.inj (assigned.symm.trans found)
  rcases requoted with double | single
  · exact absurd double.1 (by decide)
  · exact absurd single.2 (by decide)

/-- Quotes inside quotes are lost when the env file is read again. -/
theorem envfile_loses_quotes :
    (main sampleNames ["envfile"] "A='\"x\"'\n".toList).failure = none ∧
    parse sampleNames (stdinLines "A='\"x\"'\n".toList) = .ok [("A",str "\"x\"".toList)] ∧
    parse sampleNames (stdinLines (main sampleNames ["envfile"] "A='\"x\"'\n".toList).stdout) =
      .ok [("A",str "x".toList)] := by
  decide +kernel

end IntakeApi.Dotenv
