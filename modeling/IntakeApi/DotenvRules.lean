import IntakeApi.Dotenv
import IntakeApi.Library.Bindings
import IntakeApi.Library.Shell

/-! What the lines of a file are parsed to and what is printed of it, stated once. -/
namespace IntakeApi.Dotenv

open Python

section Fields

theorem splitOnce_field {separator : Char} {field : List Char} (apart : separator ∉ field) (rest : List Char) :
    splitOnce separator (String.ofList (field ++ separator :: rest)) = some (String.ofList field,String.ofList rest) := by
  obtain ⟨dropped,taken⟩ := Shell.dropWhile_field apart rest
  rw [splitOnce, String.toList_ofList, dropped, taken]

theorem stripPrefix_append (head : String) (rest : List Char) :
    stripPrefix head (String.ofList (head.toList ++ rest)) = some (String.ofList rest) := by
  have starts : startsWith head (String.ofList (head.toList ++ rest)) = true := by
    rw [startsWith, String.toList_ofList, List.isPrefixOf_iff_prefix]
    exact List.prefix_append _ _
  rw [stripPrefix, if_pos starts, String.toList_ofList, List.drop_left]

end Fields

section Keys

variable {names : Names} {line : List Char} {k : String} {v : List Char}

/-- A character of a key stands for itself wherever a key is printed. -/
structure KeyChar (c : Char) : Prop where
  ordinary : ShellWords.isOrdinary c = true
  solid : isSpace c = false
  apart : c ≠ '=' ∧ c ≠ ':' ∧ c ≠ '#'

theorem word_of_letter {c : Char} (first : (isLetter c || c == '_') = true) :
    (isAlphanumeric c || c == '_') = true := by
  rw [isAlphanumeric, Bool.or_assoc (decide _ && decide _), Bool.or_assoc]
  exact Bool.or_eq_true_iff.mpr (.inr first)

theorem word_ascii {c : Char} (word : (isAlphanumeric c || c == '_') = true) : c.toNat < 128 := by
  rcases Bool.or_eq_true_iff.mp word with alphanumeric | low
  · exact isAlphanumeric_ascii alphanumeric
  · rw [eq_of_beq low]
    decide

theorem keyChar_of_word {c : Char} (word : (isAlphanumeric c || c == '_') = true) : KeyChar c := by
  have table : ∀ n < 128, (isAlphanumeric (Char.ofNat n) || Char.ofNat n == '_') = true →
      ShellWords.isOrdinary (Char.ofNat n) = true ∧ isSpace (Char.ofNat n) = false ∧
        Char.ofNat n ≠ '=' ∧ Char.ofNat n ≠ ':' ∧ Char.ofNat n ≠ '#' := by decide +kernel
  have found := table c.toNat (word_ascii word)
  rw [Char.ofNat_toNat] at found
  exact ⟨(found word).1,(found word).2.1,(found word).2.2⟩

theorem isKey_chars {key : List Char} (valid : isKey key = true) :
    key ≠ [] ∧ ∀ c ∈ key, KeyChar c := by
  cases key with
  | nil => cases valid
  | cons c rest =>
    simp only [isKey, Bool.and_eq_true, List.all_eq_true] at valid
    obtain ⟨first,others⟩ := valid
    exact ⟨List.cons_ne_nil c rest,List.forall_mem_cons.mpr ⟨keyChar_of_word (word_of_letter first),
      fun d member => keyChar_of_word (others d member)⟩⟩

/-- No key holds a character of this kind. -/
theorem isKey_apart {key : List Char} {c : Char} (valid : isKey key = true) (strange : ¬KeyChar c) : c ∉ key :=
  fun member => strange ((isKey_chars valid).2 c member)

theorem matchLine_key {key : List Char} (valid : isKey key = true) (one : '\n' ∉ v) :
    matchLine (key ++ '=' :: v) = some (String.ofList key,v) := by
  have apart : '=' ∉ key := isKey_apart valid fun strange => strange.apart.1 rfl
  obtain ⟨dropped,taken⟩ := Shell.dropWhile_field apart v
  rw [matchLine, dropped, taken]
  exact if_pos ⟨valid,one⟩

theorem matchLine_some (found : matchLine line = some (k,v)) :
    line = k.toList ++ '=' :: v ∧ isKey k.toList = true ∧ '\n' ∉ v := by
  unfold matchLine at found
  split at found
  · cases found
  · next c rest dropped =>
    have first := List.head?_dropWhile_not (fun d => decide (d ≠ '=')) line
    rw [dropped] at first
    have same : c = '=' := by simpa using first
    subst same
    split at found
    · next valid =>
      cases found
      rw [String.toList_ofList]
      refine ⟨?_,valid⟩
      rw [← dropped, List.takeWhile_append_dropWhile]
    · cases found

/-- What a line assigns is under a key that is kept. -/
theorem assignment_some (found : assignment line = some (k,v)) :
    isKey k.toList = true ∧ startsWith "sops_" k = false ∧ '\n' ∉ v := by
  unfold assignment at found
  dsimp only at found
  split at found
  · cases found
  split at found
  · cases found
  next key value matched =>
  split at found
  · cases found
  next kept =>
  cases found
  have parts := matchLine_some matched
  exact ⟨parts.2.1,Bool.eq_false_iff.mpr kept,parts.2.2⟩

theorem dropExport_key {key : List Char} (valid : isKey key = true) :
    dropExport (key ++ '=' :: v) = key ++ '=' :: v := by
  refine if_neg fun exported => ?_
  have blank : ' ' ∉ key := isKey_apart valid fun strange => absurd strange.solid (by decide)
  obtain ⟨rest,same⟩ := List.isPrefixOf_iff_prefix.mp exported
  rcases List.append_eq_append_iff.mp same with ⟨more,longer,-⟩ | ⟨more,shorter,later⟩
  · exact blank (longer ▸ List.mem_append_left _ (by decide))
  · -- The blank is before the separator.
    cases more with
    | nil =>
      rw [List.append_nil] at shorter
      exact blank (shorter ▸ by decide)
    | cons c more =>
      cases later
      have member : '=' ∈ "export ".toList := shorter ▸ List.mem_append_right _ List.mem_cons_self
      exact absurd member (by decide)

/-- A key and its value text on a line of their own. -/
theorem assignment_key (valid : isKey k.toList = true) (kept : startsWith "sops_" k = false) (one : '\n' ∉ v)
    (stripped : rstripNewline line = k.toList ++ '=' :: v) : assignment line = some (k,v) := by
  obtain ⟨some_key,chars⟩ := isKey_chars valid
  obtain ⟨c,rest,parts⟩ := List.exists_cons_of_ne_nil some_key
  have first := chars c (parts ▸ List.mem_cons_self)
  have shown : ((k.toList ++ '=' :: v).all isSpace ||
      ((k.toList ++ '=' :: v).dropWhile isSpace).head? == some '#') = false := by
    rw [parts, List.cons_append, List.all_cons, List.dropWhile_cons_of_neg (by simp [first.solid]), first.solid,
      List.head?_cons, Bool.false_and, Bool.false_or]
    simpa using first.apart.2.2
  simp only [assignment, stripped, shown, dropExport_key valid, matchLine_key valid one, String.ofList_toList, kept,
    Bool.false_eq_true, if_false]

end Keys

/-- It would lose quotes if it were read as a value text. -/
def isQuoted (text : List Char) : Bool := inQuotes '"' text || inQuotes ShellWords.apostrophe text

section Values

variable {names : Names} {v : List Char}

theorem asBytes_latin1 (text : List Char) : (asBytes (String.ofList text)).map latin1 = misreadAll text := by
  rw [asBytes, String.toList_ofList, List.map_flatMap]
  rfl

theorem unquote_double {body : List Char} {value : Str} :
    unquote names ('"' :: (body ++ ['"'])) = .ok value ↔ expandAll names (misreadAll body) = some value := by
  rw [unquote, if_pos (inQuotes_iff.mpr ⟨body,rfl⟩), inside_quotes, decodeUnicodeEscape_eq, asBytes_latin1]
  cases expandAll names (misreadAll body) <;> simp

theorem unquote_single (body : List Char) :
    unquote names (ShellWords.apostrophe :: (body ++ [ShellWords.apostrophe])) = .ok (str body) := by
  have other : ¬inQuotes '"' (ShellWords.apostrophe :: (body ++ [ShellWords.apostrophe])) = true := by
    rw [inQuotes_iff]
    rintro ⟨other,same⟩
    exact absurd (List.cons.inj same).1 (by decide)
  rw [unquote, if_neg other, if_pos (inQuotes_iff.mpr ⟨body,rfl⟩), inside_quotes]

theorem unquote_bare (bare : isQuoted v = false) : unquote names v = .ok (str v) := by
  simp only [isQuoted, Bool.or_eq_false_iff] at bare
  rw [unquote, if_neg (Bool.eq_false_iff.mp bare.1), if_neg (Bool.eq_false_iff.mp bare.2)]

/-- No text in quotes stands for itself: its expansion would be ahead of it by the first quote. -/
theorem unquote_str_iff : unquote names v = .ok (str v) ↔ isQuoted v = false := by
  refine ⟨fun same => ?_,unquote_bare⟩
  rw [isQuoted, Bool.or_eq_false_iff, Bool.eq_false_iff, Bool.eq_false_iff, ne_eq, ne_eq, inQuotes_iff, inQuotes_iff]
  constructor
  · rintro ⟨body,rfl⟩
    obtain ⟨tokens,lexed,expanded⟩ := expandAll_lexed (unquote_double.mp same)
    refine expanded_behind lexed.text_ascii (List.cons_ne_nil '"' [])
      (List.forall_mem_singleton.mpr (by decide)) (str ['"']) ?_
    rw [← lexed.rejoined, ← expanded, ← str_append]
    rfl
  · rintro ⟨body,rfl⟩
    have equal := str_injective (Except.ok.inj ((unquote_single body).symm.trans same))
    exact absurd (congrArg List.length equal) (by simp; omega)

end Values

section Parse

variable {names : Names} {stream others : List (List Char)} {pairs more : List Pair}

/-- What is assigned to a key, and what its value text stands for. -/
def Stands (names : Names) (assigned : String × List Char) (pair : Pair) : Prop :=
  pair.1 = assigned.1 ∧ unquote names assigned.2 = .ok pair.2

theorem parse_skipped {line : List Char} (skipped : assignment line = none) :
    parse names (line :: stream) = parse names stream := by
  rw [parse, skipped]

theorem parse_assigned {line : List Char} {k : String} {v : List Char} (found : assignment line = some (k,v)) :
    parse names (line :: stream) = .ok pairs ↔ ∃ value rest, unquote names v = .ok value ∧
      parse names stream = .ok rest ∧ pairs = (k,value) :: rest := by
  rw [parse, found]
  cases value : unquote names v with
  | error failure => simp [bind, Except.bind, value]
  | ok value' => cases rest : parse names stream with
    | error failure => simp [bind, Except.bind, value]
    | ok pairs' => simp [bind, Except.bind, value, eq_comm]

theorem parse_ok : parse names stream = .ok pairs ↔
    List.Forall₂ (Stands names) (stream.filterMap assignment) pairs := by
  induction stream generalizing pairs with
  | nil => simp [parse, eq_comm]
  | cons line stream ih =>
    cases found : assignment line with
    | none => rw [parse_skipped found, List.filterMap_cons_none found, ih]
    | some assigned =>
      rw [parse_assigned found, List.filterMap_cons_some found]
      constructor
      · rintro ⟨value,rest,stands,parsed,rfl⟩
        exact .cons ⟨rfl,stands⟩ (ih.mp parsed)
      · intro all
        cases all with
        | @cons _ pair _ rest stands all =>
          obtain ⟨k,value⟩ := pair
          obtain ⟨rfl,same⟩ := stands
          exact ⟨value,rest,same,ih.mpr all,rfl⟩

/-- Every pair is under a key that is kept. -/
theorem parse_keys (parsed : parse names stream = .ok pairs) :
    ∀ pair ∈ pairs, isKey pair.1.toList = true ∧ startsWith "sops_" pair.1 = false := by
  intro pair member
  obtain ⟨i,inside,rfl⟩ := List.mem_iff_getElem.mp member
  have all := List.forall₂_iff_get.mp (parse_ok.mp parsed)
  have bound : i < (stream.filterMap assignment).length := by rw [all.1]; exact inside
  have stands := all.2 i bound inside
  obtain ⟨line,-,found⟩ := List.mem_filterMap.mp (List.get_mem _ ⟨i,bound⟩)
  have kept := assignment_some found
  simp only [List.get_eq_getElem] at stands
  rw [stands.1]
  exact ⟨kept.1,kept.2.1⟩

end Parse

section Print

def textPair (pair : String × String) : Pair := (pair.1,str pair.2.toList)

theorem textPair_injective : Function.Injective textPair := by
  intro p q same
  obtain ⟨key,value⟩ := Prod.mk.inj same
  exact Prod.ext key (String.toList_inj.mp (str_injective value))

/-- The lines that are printed are those of the pairs before the first that cannot be encoded. -/
theorem printAll_render (text : String → List Char → List Char) (pairs : List Pair) :
    ∃ printed : List (String × String), printed.map textPair <+: pairs ∧
      (printAll (render text pairs)).stdout = printed.flatMap (fun pair => text pair.1 pair.2.toList ++ ['\n']) ∧
      ((printAll (render text pairs)).failure = none ↔ printed.map textPair = pairs) := by
  induction pairs with
  | nil => exact ⟨[],List.prefix_refl _,rfl,by simp [render, printAll]⟩
  | cons pair pairs ih =>
    obtain ⟨k,v⟩ := pair
    cases encoded : encodable v with
    | none =>
      refine ⟨[],List.nil_prefix,?_,?_⟩
      · simp [render, encoded, printAll, Output.raise]
      · simp [render, encoded, printAll, Output.raise]
    | some chars =>
      obtain ⟨printed,before,stdout,failure⟩ := ih
      have value := encodable_eq_some.mp encoded
      subst value
      have first : textPair (k,String.ofList chars) = (k,str chars) := by
        rw [textPair, String.toList_ofList]
      refine ⟨(k,String.ofList chars) :: printed,?_,?_,?_⟩
      · rw [List.map_cons, first]
        exact List.prefix_cons_inj _ |>.mpr before
      · simp only [render, List.map_cons, encodable_str, Option.map_some, printAll, List.flatMap_cons] at stdout ⊢
        rw [stdout, String.toList_ofList, List.append_assoc]
        rfl
      · simp only [render, List.map_cons, encodable_str, Option.map_some, printAll] at failure ⊢
        rw [failure, first]
        simp

theorem printAll_texts {text : String → List Char → List Char} {pairs : List Pair}
    (texts : ∀ pair ∈ pairs, ∃ v, pair.2 = str v) : (printAll (render text pairs)).failure = none := by
  induction pairs with
  | nil => rfl
  | cons pair pairs ih =>
    obtain ⟨v,value⟩ := texts pair List.mem_cons_self
    have rest := ih fun other member => texts other (List.mem_cons_of_mem pair member)
    simp only [render, List.map_cons, value, encodable_str, Option.map_some, printAll]
    exact rest

theorem printAll_textPairs (text : String → List Char → List Char) (printed : List (String × String)) :
    printAll (render text (printed.map textPair)) =
      ⟨printed.flatMap (fun pair => text pair.1 pair.2.toList ++ ['\n']),none⟩ := by
  have complete : (printAll (render text (printed.map textPair))).failure = none := by
    refine printAll_texts fun pair member => ?_
    obtain ⟨given,-,rfl⟩ := List.mem_map.mp member
    exact ⟨_,rfl⟩
  obtain ⟨found,-,stdout,failure⟩ := printAll_render text (printed.map textPair)
  have same := List.map_injective_iff.mpr textPair_injective (failure.mp complete)
  subst same
  rw [← stdout, ← complete]

end Print

section Main

variable {names : Names} {stdin : List Char} {pairs : List Pair}

theorem main_ok {mode : String} {rest : List String} (known : modes.contains mode = true)
    (parsed : parse names (stdinLines stdin) = .ok pairs) :
    main names (mode :: rest) stdin = print mode (rest.head?.getD "app-env") pairs := by
  simp only [main, List.head?_cons, Option.getD_some, known, Bool.not_true, Bool.false_eq_true, if_false, parsed,
    List.tail_cons]

def envfileLines (printed : List (String × String)) : List Char :=
  printed.flatMap fun pair => envfileText pair.1 pair.2.toList ++ ['\n']

/-- A pair that a line of the env file can hold. -/
structure Fits (pair : String × String) : Prop where
  key : isKey pair.1.toList = true
  kept : startsWith "sops_" pair.1 = false
  single : '\n' ∉ pair.2.toList

/-- Where the envfile mode succeeds, it prints every pair on a line of its own. -/
theorem envfile_ok (succeeds : (main names ["envfile"] stdin).failure = none) :
    ∃ printed : List (String × String), parse names (stdinLines stdin) = .ok (printed.map textPair) ∧
      (main names ["envfile"] stdin).stdout = envfileLines printed ∧ ∀ pair ∈ printed, Fits pair := by
  cases parsed : parse names (stdinLines stdin) with
  | error failure =>
    have raised : main names ["envfile"] stdin = .raise failure := by
      simp only [main, List.head?_cons, Option.getD_some, parsed]
      rfl
    rw [raised] at succeeds
    cases succeeds
  | ok pairs =>
    rw [main_ok (by decide) parsed, print, if_neg (by decide), if_pos rfl] at succeeds ⊢
    dsimp only at succeeds ⊢
    split at succeeds
    · cases succeeds
    next single =>
    obtain ⟨printed,-,stdout,failure⟩ := printAll_render envfileText pairs
    have whole := failure.mp succeeds
    subst whole
    rw [if_neg single, stdout]
    refine ⟨printed,rfl,rfl,fun pair member => ?_⟩
    have keys := parse_keys parsed _ (List.mem_map_of_mem member)
    have one : isMultiline (textPair pair).2 = false := by
      refine Bool.eq_false_iff.mpr fun many => single ?_
      have bad : textPair pair ∈ (printed.map textPair).filter fun pair => isMultiline pair.2 :=
        List.mem_filter.mpr ⟨List.mem_map_of_mem member,many⟩
      exact List.ne_nil_of_mem (List.mem_map_of_mem bad)
    simp only [isMultiline, textPair, Bool.or_eq_false_iff, List.contains_eq_mem, decide_eq_false_iff_not] at one
    exact ⟨keys.1,keys.2,fun there => one.1 (List.mem_map_of_mem there)⟩

end Main

section Output

variable {printed : List (String × String)}

theorem envfileText_line {pair : String × String} (fit : Fits pair) :
    '\n' ∉ envfileText pair.1 pair.2.toList := by
  have apart : '\n' ∉ pair.1.toList := isKey_apart fit.key fun strange => absurd strange.solid (by decide)
  simp [envfileText, apart, fit.single]

theorem stdinLines_envfile (fits : ∀ pair ∈ printed, Fits pair) :
    stdinLines (envfileLines printed) = printed.map fun pair => envfileText pair.1 pair.2.toList ++ ['\n'] := by
  have lines := @readLines_lines (printed.map fun pair => envfileText pair.1 pair.2.toList) fun line there => by
    obtain ⟨pair,member,rfl⟩ := List.mem_map.mp there
    exact envfileText_line (fits pair member)
  rw [List.flatMap_map, List.map_map] at lines
  exact lines

/-- Every line of the output assigns the value as its text. -/
theorem assignments_envfile (fits : ∀ pair ∈ printed, Fits pair) :
    (stdinLines (envfileLines printed)).filterMap assignment = printed.map fun pair => (pair.1,pair.2.toList) := by
  rw [stdinLines_envfile fits, List.filterMap_map]
  refine (List.filterMap_congr fun pair member => ?_).trans (congrFun (List.filterMap_eq_map ..) _)
  have fit := fits pair member
  exact assignment_key fit.key fit.kept fit.single (rstripNewline_line (envfileText_line fit))

end Output

end IntakeApi.Dotenv
