import IntakeApi.EnvRun

/-! What a value text in double quotes stands for, beside the four escapes that are documented. -/
namespace IntakeApi.Dotenv

open Python

def documentedEscapes : List (Char × Char) := [('n','\n'), ('t','\t'), ('r','\r'), ('\\','\\')]

def documentedEscape (c : Char) : Option Char := documentedEscapes.lookup c

/-- One pass that expands the documented escapes and keeps every other character. -/
def documented : List Char → List Char
  | [] => []
  | c :: rest =>
    if c = '\\' then
      match rest with
      | [] => ['\\']
      | d :: rest =>
        match documentedEscape d with
        | some expanded => expanded :: documented rest
        | none => '\\' :: d :: documented rest
    else c :: documented rest

/-- ASCII in which every backslash begins a documented escape or none that the codec has. -/
def isLiteral : List Char → Bool
  | [] => true
  | c :: rest =>
    if c = '\\' then
      match rest with
      | [] => false
      | d :: rest => d.toNat < 128 && ((documentedEscape d).isSome || isUnknown d) && isLiteral rest
    else c.toNat < 128 && isLiteral rest

section Documented

variable {c d expanded : Char} {rest : List Char}

theorem documented_plain (apart : c ≠ '\\') : documented (c :: rest) = c :: documented rest := by
  rw [documented.eq_def]
  exact if_neg apart

theorem documented_escape (known : documentedEscape d = some expanded) :
    documented ('\\' :: d :: rest) = expanded :: documented rest := by
  rw [documented.eq_def]
  simp only [if_true, known]

theorem documented_kept (unknown : documentedEscape d = none) :
    documented ('\\' :: d :: rest) = '\\' :: d :: documented rest := by
  rw [documented.eq_def]
  simp only [if_true, unknown]

theorem isLiteral_plain (apart : c ≠ '\\') :
    isLiteral (c :: rest) = (decide (c.toNat < 128) && isLiteral rest) := by
  rw [isLiteral.eq_def]
  exact if_neg apart

theorem isLiteral_escape : isLiteral ('\\' :: d :: rest) =
    (decide (d.toNat < 128) && ((documentedEscape d).isSome || isUnknown d) && isLiteral rest) := by
  rw [isLiteral.eq_def]
  exact if_pos rfl

/-- The codec expands the documented escapes as they are documented. -/
theorem simpleEscape_documented (known : documentedEscape d = some expanded) :
    simpleEscape d = some expanded ∧ expanded.toNat < 128 := by
  have table : ∀ entry ∈ documentedEscapes, simpleEscape entry.1 = some entry.2 ∧ entry.2.toNat < 128 :=
    List.forall_iff_forall_mem.mp (by decide)
  exact table _ (mem_of_lookup known)

theorem documentedEscape_none (longer : simpleEscape d = none) : documentedEscape d = none := by
  cases known : documentedEscape d with
  | none => rfl
  | some expanded => cases longer.symm.trans (simpleEscape_documented known).1

theorem documented_bare {digits : List Char} (bare : ∀ d ∈ digits, Bare d) :
    documented (digits ++ rest) = digits ++ documented rest := by
  induction digits with
  | nil => rfl
  | cons d digits ih =>
    rw [List.cons_append, documented_plain (bare d List.mem_cons_self).2,
      ih fun e member => bare e (List.mem_cons_of_mem d member), List.cons_append]

end Documented

/-- Text that is literal is expanded as it is documented. -/
theorem expandAll_literal {names : Names} {text : List Char} (literal : isLiteral text = true) :
    expandAll names (misreadAll text) = some (str (documented text)) := by
  induction size : text.length using Nat.strong_induction_on generalizing text with
  | _ n ih => match text with
    | [] => rfl
    | c :: rest =>
      subst size
      by_cases mark : c = '\\'
      · subst mark
        match rest with
        | [] => cases literal
        | d :: rest =>
          rw [isLiteral_escape, Bool.and_eq_true, Bool.and_eq_true, decide_eq_true_eq] at literal
          obtain ⟨⟨small,known⟩,literal⟩ := literal
          have less : rest.length < ('\\' :: d :: rest).length := by
            simp only [List.length_cons]
            omega
          have later := ih _ less literal rfl
          rw [misreadAll_cons, misread_ascii (by decide), misreadAll_cons, misread_ascii small]
          change expandAll names ('\\' :: d :: misreadAll rest) = _
          rw [expandAll_escape]
          cases escaped : documentedEscape d with
          | some expanded =>
            rw [escape_simple (simpleEscape_documented escaped).1, documented_escape escaped, Option.bind_some, later]
            rfl
          | none =>
            have unknown : isUnknown d = true := by rw [escaped] at known; simpa using known
            rw [escape_unknown unknown, documented_kept escaped, Option.bind_some, later]
            rfl
      · rw [isLiteral_plain mark, Bool.and_eq_true, decide_eq_true_eq] at literal
        have later := ih rest.length (by simp) literal.2 rfl
        rw [misreadAll_cons, misread_ascii literal.1, List.singleton_append, expandAll_plain mark, later,
          documented_plain mark]
        rfl

example : expandAll sampleNames (misreadAll "a\\tb".toList) = some (str "a\tb".toList) := by decide +kernel

/-- What is documented for a token. -/
def shown : Token → List Char
  | .plain c => [c]
  | .backslash => ['\\']
  | .continued => ['\\', '\n']
  | .simple c _ => match documentedEscape c with
    | some expanded => [expanded]
    | none => ['\\', c]
  | .coded piece _ => '\\' :: piece

section Tokens

variable {text : List Char} {tokens : List Token}

theorem documented_lexed (lexed : Lexed text tokens) : documented text = tokens.flatMap shown := by
  induction lexed with
  | nil => rfl
  | plain apart lexed ih => rw [documented_plain apart, ih]; rfl
  | @backslash c rest tokens unknown lexed ih =>
    have longer : documentedEscape c = none := by
      simp only [isUnknown, Bool.and_eq_true, Option.isNone_iff_eq_none] at unknown
      exact documentedEscape_none unknown.1.2
    rw [documented_kept longer, ih]
    rfl
  | continued lexed ih => rw [documented_kept (by decide), ih]; rfl
  | @simple c expanded rest tokens known lexed ih =>
    cases escaped : documentedEscape c with
    | none => rw [documented_kept escaped, ih, List.flatMap_cons, shown, escaped]; rfl
    | some d => rw [documented_escape escaped, ih, List.flatMap_cons, shown, escaped]; rfl
  | @coded c digits point rest tokens marker longer ended bare lexed ih =>
    rw [documented_kept (documentedEscape_none longer),
      documented_bare fun d member => bare d (List.mem_cons_of_mem c member), ih, List.flatMap_cons, shown]
    rfl

theorem shown_ascii (lexed : Lexed text tokens) : ∀ token ∈ tokens, token.isWide = false →
    shown token ≠ [] ∧ ∀ c ∈ shown token, c.toNat < 128 := by
  intro token member narrow
  have given := lexed.text_ascii token member narrow
  cases token with
  | plain c => exact given
  | backslash => exact given
  | continued => exact given
  | simple c expanded =>
    rw [shown]
    split
    · next d escaped =>
      exact ⟨List.cons_ne_nil d [],List.forall_mem_singleton.mpr (simpleEscape_documented escaped).2⟩
    · exact given
  | coded piece point => exact given

/-- What is documented never catches up with an expansion that is ahead of it by characters that are
not ASCII. -/
theorem documented_behind (ascii : ∀ token ∈ tokens, token.isWide = false →
      shown token ≠ [] ∧ ∀ c ∈ shown token, c.toNat < 128) {ahead : List Char} (some_ahead : ahead ≠ [])
    (wide : ∀ c ∈ ahead, 128 ≤ c.toNat) : str ahead ++ tokens.flatMap Token.expanded ≠ str (tokens.flatMap shown) := by
  induction tokens generalizing ahead with
  | nil => cases ahead with
    | nil => exact absurd rfl some_ahead
    | cons c ahead => simp [str]
  | cons token tokens ih =>
    obtain ⟨c,ahead,rfl⟩ := List.exists_cons_of_ne_nil some_ahead
    intro same
    have large := wide c List.mem_cons_self
    cases narrow : token.isWide with
    | false =>
      obtain ⟨some_shown,small⟩ := ascii token List.mem_cons_self narrow
      obtain ⟨d,more,parts⟩ := List.exists_cons_of_ne_nil some_shown
      have below := small d (parts ▸ List.mem_cons_self)
      rw [List.flatMap_cons, List.flatMap_cons, parts] at same
      simp only [str, List.map_cons, List.cons_append, List.cons.injEq, CodePoint.char.injEq] at same
      rw [same.1] at large
      omega
    | true =>
      obtain ⟨d,point,rest,rfl,wider,-,-⟩ := Token.expanded_wide narrow
      have more := (misread_wide wider).2
      obtain ⟨⟨first,second,others,parts⟩,-⟩ := misread_wide wider
      have later := fun other member => ascii other (List.mem_cons_of_mem _ member)
      have some_later : ahead ++ misread d ≠ [] := by simp [parts]
      refine ih later some_later ?_ ?_
      · intro e member
        rcases List.mem_append.mp member with before | there
        · exact wide e (List.mem_cons_of_mem c before)
        · exact more e there
      · rw [List.flatMap_cons, List.flatMap_cons, Token.expanded] at same
        simp only [str, shown, List.map_cons, List.cons_append, List.nil_append, List.cons.injEq] at same
        rw [str_append, List.append_assoc]
        exact same.2

/-- Where the expansion is what is documented, every token is. The first that is not leaves one of
the two ahead of the other. -/
theorem isLiteral_of_expanded (lexed : Lexed text tokens)
    (same : tokens.flatMap Token.expanded = str (tokens.flatMap shown)) : isLiteral text = true := by
  induction lexed with
  | nil => rfl
  | @plain c rest tokens apart lexed ih =>
    rw [List.flatMap_cons, List.flatMap_cons, Token.expanded, shown] at same
    rcases Nat.lt_or_ge c.toNat 128 with small | wide
    · rw [misread_ascii small, str_append, List.append_right_inj] at same
      rw [isLiteral_plain apart, ih same, decide_eq_true small]
      rfl
    · obtain ⟨⟨first,second,others,parts⟩,all⟩ := misread_wide wide
      rw [parts] at same all
      simp only [str, List.map_cons, List.cons_append, List.nil_append, List.cons.injEq] at same
      refine absurd same.2 (documented_behind (shown_ascii lexed) (List.cons_ne_nil second others) ?_)
      exact fun d member => all d (List.mem_cons_of_mem first member)
  | @backslash c rest tokens unknown lexed ih =>
    simp only [List.flatMap_cons, Token.expanded, shown, List.singleton_append, str, List.map_cons, List.cons.injEq,
      true_and] at same
    rcases Nat.lt_or_ge c.toNat 128 with small | wide
    · rw [misread_ascii small] at same
      simp only [List.map_cons, List.map_nil, List.singleton_append, List.cons.injEq, true_and] at same
      rw [isLiteral_escape, ih same, unknown, decide_eq_true small, Bool.or_true]
      rfl
    · obtain ⟨⟨first,second,others,parts⟩,all⟩ := misread_wide wide
      rw [parts] at same all
      simp only [List.map_cons, List.cons_append, List.cons.injEq] at same
      refine absurd same.2 (documented_behind (shown_ascii lexed) (List.cons_ne_nil second others) ?_)
      exact fun d member => all d (List.mem_cons_of_mem first member)
  | @continued rest tokens lexed ih =>
    rw [List.flatMap_cons, List.flatMap_cons, Token.expanded, shown, List.nil_append] at same
    refine absurd (same.trans (List.append_nil _).symm)
      (expanded_behind (shown_ascii lexed) (List.cons_ne_nil '\\' ['\n']) ?_ [])
    exact List.forall_mem_cons.mpr ⟨by decide,List.forall_mem_singleton.mpr (by decide)⟩
  | @simple c expanded rest tokens known lexed ih =>
    rw [List.flatMap_cons, List.flatMap_cons, Token.expanded, shown] at same
    cases escaped : documentedEscape c with
    | some d =>
      rw [escaped] at same
      simp only [str, List.singleton_append, List.map_cons, List.cons.injEq] at same
      rw [isLiteral_escape, ih same.2, escaped, decide_eq_true (simpleEscape_ascii known).1]
      rfl
    | none =>
      rw [escaped] at same
      simp only [str, List.map_cons, List.cons_append, List.cons.injEq, CodePoint.char.injEq] at same
      rw [same.1] at known
      exact absurd escaped (by rw [simpleEscape_backslash known]; decide)
  | @coded c digits point rest tokens marker longer ended bare lexed ih =>
    rw [List.flatMap_cons, List.flatMap_cons, Token.expanded, shown] at same
    simp only [str, List.cons_append, List.map_cons, List.cons.injEq] at same
    refine absurd (same.2.trans (List.append_nil _).symm)
      (expanded_behind (shown_ascii lexed) (List.cons_ne_nil c digits) (fun d member => (bare d member).1) [])

end Tokens

/-- A value text in double quotes stands for what is documented just where it is literal. -/
theorem quoted_value_iff {names : Names} {k : String} {body line : List Char} (valid : isKey k.toList = true)
    (kept : startsWith "sops_" k = false) (one : '\n' ∉ body)
    (written : rstripNewline line = k.toList ++ '=' :: '"' :: (body ++ ['"'])) :
    parse names [line] = .ok [(k,str (documented body))] ↔ isLiteral body = true := by
  have single : '\n' ∉ '"' :: (body ++ ['"']) := by simp [one]
  have found := assignment_key valid kept single written
  have value : parse names [line] = .ok [(k,str (documented body))] ↔
      expandAll names (misreadAll body) = some (str (documented body)) := by
    rw [parse_ok, List.filterMap_cons_some found, List.filterMap_nil, List.forall₂_cons, ← unquote_double]
    simp [Stands]
  rw [value]
  constructor
  · intro expanded
    obtain ⟨tokens,lexed,same⟩ := expandAll_lexed expanded
    rw [documented_lexed lexed] at same
    exact isLiteral_of_expanded lexed same.symm
  · exact expandAll_literal

/-- The documented escapes, and a backslash that begins none. -/
theorem quoted_value_iff_escapes :
    parse sampleNames ["PEM=\"a\\nb\\\\n\\q\"\n".toList] = .ok [("PEM",str "a\nb\\n\\q".toList)] := by
  have written : rstripNewline "PEM=\"a\\nb\\\\n\\q\"\n".toList =
      "PEM".toList ++ '=' :: '"' :: ("a\\nb\\\\n\\q".toList ++ ['"']) := by decide +kernel
  have literal : isLiteral "a\\nb\\\\n\\q".toList = true := by decide +kernel
  have value : documented "a\\nb\\\\n\\q".toList = "a\nb\\n\\q".toList := by decide +kernel
  rw [← value]
  exact (quoted_value_iff (by decide) (by decide) (by decide) written).mpr literal

/-- A character that is not ASCII is read byte by byte, an escape that is not documented is expanded,
and a backslash at the end is an error. -/
theorem quoted_value_misread :
    documented "é".toList = "é".toList ∧
    parse sampleNames ["A=\"é\"\n".toList] = .ok [("A",str "Ã©".toList)] ∧
    documented "\\x41".toList = "\\x41".toList ∧
    parse sampleNames ["A=\"\\x41\"\n".toList] = .ok [("A",str "A".toList)] ∧
    documented "\\".toList = "\\".toList ∧
    parse sampleNames ["A=\"\\\"\n".toList] = .error .unicodeDecode := by
  decide +kernel

end IntakeApi.Dotenv
