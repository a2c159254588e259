import Mathlib.Data.List.Basic

/-! How a shell reads commands made of ordinary characters and quoting: it splits them into words
and refuses whatever it would expand or run otherwise. -/
namespace ShellWords

def apostrophe : Char := '\x27'

inductive Quoting where
  | plain
  | escaped
  | quoted
  deriving DecidableEq

abbrev Word := List Char

abbrev Command := List Word

structure Reader where
  quoting : Quoting
  word : Option Word
  words : Command
  commands : List Command

/-- A character that is special outside quotes, the quoting itself and blanks apart. -/
def isSpecial (c : Char) : Bool := "|&;<>()$`\"*?[]#~!\x7b\x7d".toList.contains c

namespace Reader

variable (r : Reader)

def put (c : Char) : Reader := { r with word := some (r.word.getD [] ++ [c]) }

def endWord : Reader :=
  match r.word with
  | none => r
  | some word => { r with word := none, words := r.words ++ [word] }

def endCommand : Reader :=
  if r.endWord.words = [] then r.endWord
  else { r.endWord with words := [], commands := r.endWord.commands ++ [r.endWord.words] }

/-- An escaped newline is no character. -/
def step (c : Char) : Option Reader :=
  match r.quoting with
  | .quoted => if c = apostrophe then some { r with quoting := .plain } else some (r.put c)
  | .escaped =>
    if c = '\n' then some { r with quoting := .plain } else some { r.put c with quoting := .plain }
  | .plain =>
    if c = apostrophe then some { r with quoting := .quoted, word := some (r.word.getD []) }
    else if c = '\\' then some { r with quoting := .escaped }
    else if c = ' ' ∨ c = '\t' then some r.endWord
    else if c = '\n' then some r.endCommand
    else if isSpecial c then none
    else some (r.put c)

end Reader

def start : Reader := ⟨.plain,none,[],[]⟩

/-- The commands of a text that ends outside quotes. -/
def read (text : List Char) : Option (List Command) := do
  let r ← text.foldlM Reader.step start
  if r.quoting = .plain then some r.endCommand.commands else none

/-- In single quotes, each single quote written as one that is escaped outside of them. -/
def quote (text : List Char) : List Char :=
  apostrophe :: text.flatMap (fun c =>
    if c = apostrophe then [apostrophe, '\\', apostrophe, apostrophe] else [c]) ++ [apostrophe]

def isOrdinary (c : Char) : Bool :=
  c != apostrophe && c != '\\' && c != ' ' && c != '\t' && c != '\n' && !isSpecial c

section Steps

variable {commands : List Command} {words : Command} {word : Option Word} {written : Word}

theorem step_ordinary {c : Char} (ordinary : isOrdinary c = true) :
    Reader.step ⟨.plain,word,words,commands⟩ c = some ⟨.plain,some (word.getD [] ++ [c]),words,commands⟩ := by
  simp only [isOrdinary, Bool.and_eq_true, bne_iff_ne, ne_eq, Bool.not_eq_true'] at ordinary
  simp only [Reader.step, Reader.put, ordinary, if_false, or_self, Bool.false_eq_true]

theorem read_more {text : Word} (ordinary : ∀ c ∈ text, isOrdinary c = true) :
    text.foldlM Reader.step ⟨.plain,some written,words,commands⟩ =
      some ⟨.plain,some (written ++ text),words,commands⟩ := by
  induction text generalizing written with
  | nil => simp
  | cons c text ih =>
    have step := @step_ordinary commands words (some written) c (ordinary c List.mem_cons_self)
    have rest := @ih (written ++ [c]) fun d member => ordinary d (List.mem_cons_of_mem c member)
    rw [List.foldlM_cons, step]
    simpa using rest

theorem read_word {text : Word} (ordinary : ∀ c ∈ text, isOrdinary c = true) (some_text : text ≠ []) :
    text.foldlM Reader.step ⟨.plain,none,words,commands⟩ = some ⟨.plain,some text,words,commands⟩ := by
  obtain ⟨c,rest,rfl⟩ := List.exists_cons_of_ne_nil some_text
  have step := @step_ordinary commands words none c (ordinary c List.mem_cons_self)
  rw [List.foldlM_cons, step]
  exact read_more fun d member => ordinary d (List.mem_cons_of_mem c member)

/-- Inside quotes the text is read up to the quote at its end, and stays inside a word. -/
theorem read_quoted (text : Word) :
    (text.flatMap fun c => if c = apostrophe then [apostrophe, '\\', apostrophe, apostrophe]
      else [c]).foldlM Reader.step ⟨.quoted,some written,words,commands⟩ =
      some ⟨.quoted,some (written ++ text),words,commands⟩ := by
  induction text generalizing written with
  | nil => simp
  | cons c text ih =>
    have rest := @ih (written ++ [c])
    rw [List.append_assoc, List.singleton_append] at rest
    rw [List.flatMap_cons, List.foldlM_append]
    by_cases mark : c = apostrophe
    · -- The quote is left, the escaped quote is read, and the quote is entered again.
      subst mark
      simp only [if_true]
      exact rest
    · simp only [mark, if_false, List.foldlM_cons, List.foldlM_nil, Reader.step, Reader.put, Option.getD_some]
      exact rest

theorem read_quote (text : Word) :
    (quote text).foldlM Reader.step ⟨.plain,some written,words,commands⟩ =
      some ⟨.plain,some (written ++ text),words,commands⟩ := by
  have inside := @read_quoted commands words written text
  rw [quote, List.cons_append, List.foldlM_cons]
  change (List.foldlM Reader.step ⟨.quoted,some written,words,commands⟩ _) = _
  rw [List.foldlM_append, inside]
  rfl

/-- A line of two words, the end of the second quoted. -/
theorem read_line {name argument : Word} (ordinary : ∀ c ∈ name ++ argument, isOrdinary c = true)
    (named : name ≠ []) (given : argument ≠ []) (text : Word) :
    (name ++ ' ' :: (argument ++ (quote text ++ ['\n']))).foldlM Reader.step ⟨.plain,none,[],commands⟩ =
      some ⟨.plain,none,[],commands ++ [[name,argument ++ text]]⟩ := by
  have first := @read_word commands [] name
    (fun c member => ordinary c (List.mem_append_left _ member)) named
  have second := @read_word commands [name] argument
    (fun c member => ordinary c (List.mem_append_right _ member)) given
  rw [List.foldlM_append, first]
  change (List.foldlM Reader.step ⟨.plain,none,[name],commands⟩ _) = _
  rw [List.foldlM_append, second]
  change (List.foldlM Reader.step ⟨.plain,some argument,[name],commands⟩ _) = _
  rw [List.foldlM_append, read_quote]
  rfl

end Steps

/-- Lines of two words are read as one command each, whatever their quoted ends hold. -/
theorem read_lines {α : Type} {name : Word} {argument text : α → Word} {items : List α}
    (ordinary : ∀ item ∈ items, ∀ c ∈ name ++ argument item, isOrdinary c = true)
    (named : name ≠ []) (given : ∀ item ∈ items, argument item ≠ []) :
    read (items.flatMap fun item => name ++ ' ' :: (argument item ++ (quote (text item) ++ ['\n']))) =
      some (items.map fun item => [name,argument item ++ text item]) := by
  have run (commands : List Command) :
      (items.flatMap fun item => name ++ ' ' :: (argument item ++ (quote (text item) ++ ['\n']))).foldlM
        Reader.step ⟨.plain,none,[],commands⟩ =
      some ⟨.plain,none,[],commands ++ items.map fun item => [name,argument item ++ text item]⟩ := by
    induction items generalizing commands with
    | nil => simp
    | cons item items ih =>
      have line := @read_line commands name (argument item) (ordinary item List.mem_cons_self) named
        (given item List.mem_cons_self) (text item)
      have rest := ih (fun other member => ordinary other (List.mem_cons_of_mem item member))
        (fun other member => given other (List.mem_cons_of_mem item member))
        (commands ++ [[name,argument item ++ text item]])
      rw [List.flatMap_cons, List.foldlM_append, line]
      simpa using rest
  rw [read, start, run]
  rfl

/-- A newline after a closing quote ends the last command, as the end of the text does. -/
theorem read_chomp {text : List Char} {commands : List Command} (last : text.getLast? = some apostrophe)
    (whole : read (text ++ ['\n']) = some commands) : read text = some commands := by
  obtain ⟨front,rfl⟩ := List.getLast?_eq_some_iff.mp last
  simp only [read, List.foldlM_append, Option.bind_eq_bind, Option.bind_eq_some_iff] at whole ⊢
  obtain ⟨final,⟨r,⟨before,reached,quote⟩,ended⟩,plain⟩ := whole
  simp only [List.foldlM_cons, List.foldlM_nil, Option.bind_eq_bind, Option.pure_def,
    Option.bind_fun_some] at quote ended
  refine ⟨r,⟨before,reached,by simpa using quote⟩,?_⟩
  obtain ⟨mode,word,words,ready⟩ := r
  cases mode with
  | plain =>
    -- The last command has been ended, and ending it again changes nothing.
    have done : (Reader.mk .plain word words ready).endCommand = final := by
      simpa [Reader.step, apostrophe] using ended
    subst done
    rw [if_pos rfl]
    split at plain
    · rw [← plain]
      cases word <;> by_cases none : words = [] <;> simp [Reader.endCommand, Reader.endWord, none]
    · cases plain
  | escaped =>
    -- No quote leaves the reader escaped.
    obtain ⟨earlier,_,_,_⟩ := before
    cases earlier <;> simp [Reader.step, apostrophe, Reader.put] at quote
  | quoted =>
    simp only [Reader.step, apostrophe, Char.reduceEq, if_false] at ended
    cases ended
    rw [if_neg (fun same => by cases same)] at plain
    cases plain

end ShellWords
