import IntakeApi.Library.Python

/-! Python's `unicode_escape` codec: it reads bytes as Latin-1 and expands every escape of a string
literal. The names of characters are a parameter. -/
namespace Python

def latin1 (byte : UInt8) : Char := Char.ofNat byte.toNat

/-- The character names that `\N` knows: they are spelled in ASCII, without a backslash. -/
structure Names where
  lookup : List Char → Option CodePoint
  spelled : ∀ name point, lookup name = some point → ∀ c ∈ name, c.toNat < 128 ∧ c ≠ '\\'

/-- The escapes of one character. -/
def simpleEscapes : List (Char × Char) :=
  [('\\','\\'), ('\x27','\x27'), ('"','"'), ('a','\x07'), ('b','\x08'), ('f','\x0c'), ('n','\n'), ('r','\r'),
    ('t','\t'), ('v','\x0b')]

def simpleEscape (c : Char) : Option Char := simpleEscapes.lookup c

def octalValue (c : Char) : Option Nat :=
  if '0' ≤ c ∧ c ≤ '7' then some (c.toNat - '0'.toNat) else none

def hexValue (c : Char) : Option Nat :=
  if '0' ≤ c ∧ c ≤ '9' then some (c.toNat - '0'.toNat)
  else if 'a' ≤ c ∧ c ≤ 'f' then some (c.toNat - 'a'.toNat + 10)
  else if 'A' ≤ c ∧ c ≤ 'F' then some (c.toNat - 'A'.toNat + 10)
  else none

/-- At most this many octal digits. -/
def readOctal : Nat → Nat → List Char → Nat × List Char
  | 0, n, text => (n,text)
  | _ + 1, n, [] => (n,[])
  | count + 1, n, c :: rest =>
    match octalValue c with
    | some digit => readOctal count (8 * n + digit) rest
    | none => (n,c :: rest)

/-- Exactly this many hexadecimal digits. -/
def readHex : Nat → Nat → List Char → Option (Nat × List Char)
  | 0, n, text => some (n,text)
  | _ + 1, _, [] => none
  | count + 1, n, c :: rest =>
    match hexValue c with
    | some digit => readHex count (16 * n + digit) rest
    | none => none

def hexEscape (count : Nat) (text : List Char) : Option (Str × List Char) := do
  let (n,rest) ← readHex count 0 text
  let point ← CodePoint.ofNumber n
  some ([point],rest)

/-- `\N` and a name in braces. -/
def nameEscape (names : Names) : List Char → Option (Str × List Char)
  | '\x7b' :: text =>
    match text.dropWhile (· ≠ '\x7d') with
    | [] => none
    | _ :: rest =>
      let name := text.takeWhile (· ≠ '\x7d')
      if name.isEmpty then none else (names.lookup name).map fun point => ([point],rest)
  | _ => none

/-- What stands for the text after a backslash, and what is left of it. -/
def escape (names : Names) : List Char → Option (Str × List Char)
  | [] => none
  | c :: rest =>
    if c = '\n' then some ([],rest)
    else if c = 'x' then hexEscape 2 rest
    else if c = 'u' then hexEscape 4 rest
    else if c = 'U' then hexEscape 8 rest
    else if c = 'N' then nameEscape names rest
    else match simpleEscape c with
    | some expanded => some ([.char expanded],rest)
    | none =>
      match octalValue c with
      | some digit => (CodePoint.ofNumber (readOctal 2 digit rest).1).map fun point =>
          ([point],(readOctal 2 digit rest).2)
      | none => some ([.char '\\', .char c],rest)

/-- The codec over the Latin-1 characters of the bytes. An escape leaves less text than there was,
so that the length is enough fuel. -/
def expand (names : Names) : Nat → List Char → Option Str
  | _, [] => some []
  | 0, _ :: _ => none
  | fuel + 1, c :: rest =>
    if c = '\\' then do
      let (point,rest) ← escape names rest
      let expanded ← expand names fuel rest
      some (point ++ expanded)
    else (expand names fuel rest).map (CodePoint.char c :: ·)

/-- `bytes.decode("unicode_escape")`. -/
def decodeUnicodeEscape (names : Names) (bytes : List UInt8) : Option Str :=
  expand names bytes.length (bytes.map latin1)

section Escapes

variable {names : Names} {c expanded : Char} {text rest : List Char} {out : Str} {n m count : Nat}

/-- ASCII, and no backslash. -/
def Bare (c : Char) : Prop := c.toNat < 128 ∧ c ≠ '\\'

theorem bare_of_le {low high : Char} (ascii : high.toNat < 128) (apart : '\\'.toNat < low.toNat ∨
    high.toNat < '\\'.toNat) (range : low ≤ c ∧ c ≤ high) : Bare c := by
  have below : low.toNat ≤ c.toNat := range.1
  have above : c.toNat ≤ high.toNat := range.2
  refine ⟨by omega,?_⟩
  rintro rfl
  omega

theorem mem_of_lookup {table : List (Char × Char)} (found : table.lookup c = some expanded) :
    (c,expanded) ∈ table := by
  obtain ⟨before,after,same,-⟩ := List.lookup_eq_some_iff.mp found
  rw [same]
  exact List.mem_append_right _ List.mem_cons_self

theorem simpleEscape_ascii (simple : simpleEscape c = some expanded) :
    c.toNat < 128 ∧ expanded.toNat < 128 := by
  have table : ∀ entry ∈ simpleEscapes, entry.1.toNat < 128 ∧ entry.2.toNat < 128 :=
    List.forall_iff_forall_mem.mp (by decide)
  exact table _ (mem_of_lookup simple)

/-- Only a backslash stands for a backslash. -/
theorem simpleEscape_backslash (simple : simpleEscape c = some '\\') : c = '\\' := by
  have table : ∀ entry ∈ simpleEscapes, entry.2 = '\\' → entry.1 = '\\' :=
    List.forall_iff_forall_mem.mp (by decide)
  exact table _ (mem_of_lookup simple) rfl

theorem octalValue_bare {digit : Nat} (found : octalValue c = some digit) : Bare c := by
  unfold octalValue at found
  split at found
  · next range => exact bare_of_le (by decide) (by decide) range
  · cases found

theorem hexValue_bare {digit : Nat} (found : hexValue c = some digit) : Bare c := by
  unfold hexValue at found
  split at found
  · next range => exact bare_of_le (by decide) (by decide) range
  split at found
  · next range => exact bare_of_le (by decide) (by decide) range
  split at found
  · next range => exact bare_of_le (by decide) (by decide) range
  · cases found

theorem readOctal_digits (count n : Nat) (text : List Char) : ∃ digits, (∀ c ∈ digits, Bare c) ∧
    text = digits ++ (readOctal count n text).2 := by
  fun_induction readOctal count n text with
  | case1 n text => exact ⟨[],by simp,rfl⟩
  | case2 count n => exact ⟨[],by simp,rfl⟩
  | case3 count n c rest digit found ih =>
    obtain ⟨digits,bare,rejoined⟩ := ih
    exact ⟨c :: digits,List.forall_mem_cons.mpr ⟨octalValue_bare found,bare⟩,by rw [List.cons_append, ← rejoined]⟩
  | case4 count n c rest missing => exact ⟨[],by simp,rfl⟩

theorem readHex_digits (found : readHex count n text = some (m,rest)) :
    ∃ digits, (∀ c ∈ digits, Bare c) ∧ text = digits ++ rest := by
  fun_induction readHex count n text with
  | case1 n text => cases found; exact ⟨[],by simp,rfl⟩
  | case2 => cases found
  | case3 count n c tail digit value ih =>
    obtain ⟨digits,bare,rejoined⟩ := ih found
    exact ⟨c :: digits,List.forall_mem_cons.mpr ⟨hexValue_bare value,bare⟩,by rw [List.cons_append, ← rejoined]⟩
  | case4 => cases found

theorem hexEscape_point (found : hexEscape count text = some (out,rest)) :
    ∃ digits point, (∀ c ∈ digits, Bare c) ∧ text = digits ++ rest ∧ out = [point] := by
  simp only [hexEscape, Option.bind_eq_bind, Option.bind_eq_some_iff, Prod.exists, Option.some.injEq,
    Prod.mk.injEq] at found
  obtain ⟨m,left,read,point,-,rfl,rfl⟩ := found
  obtain ⟨digits,bare,rejoined⟩ := readHex_digits read
  exact ⟨digits,point,bare,rejoined,rfl⟩

theorem nameEscape_point (found : nameEscape names text = some (out,rest)) :
    ∃ piece point, (∀ c ∈ piece, Bare c) ∧ text = piece ++ rest ∧ out = [point] := by
  unfold nameEscape at found
  split at found
  · next tail =>
    split at found
    · cases found
    · next c left dropped =>
      have close : c = '\x7d' := by
        have stops := List.head?_dropWhile_not (fun d : Char => decide (d ≠ '\x7d')) tail
        rw [dropped] at stops
        simpa using stops
      subst close
      dsimp only at found
      split at found
      · cases found
      · obtain ⟨point,known,same⟩ := Option.map_eq_some_iff.mp found
        cases same
        refine ⟨'\x7b' :: (tail.takeWhile (· ≠ '\x7d') ++ ['\x7d']),point,?_,?_,rfl⟩
        · intro d member
          rcases List.mem_cons.mp member with rfl | member
          · exact ⟨by decide,by decide⟩
          · rcases List.mem_append.mp member with inName | last
            · exact names.spelled _ _ known d inName
            · rw [List.mem_singleton.mp last]
              exact ⟨by decide,by decide⟩
        · rw [List.cons_append, List.append_assoc, List.singleton_append, ← dropped,
            List.takeWhile_append_dropWhile]
  · cases found

/-- A character that begins no escape. -/
def isUnknown (c : Char) : Bool :=
  c != '\n' && c != 'x' && c != 'u' && c != 'U' && c != 'N' && (simpleEscape c).isNone && (octalValue c).isNone

/-- What a piece of text after a backslash stands for. -/
inductive Escaped : List Char → Str → Prop where
  | newline : Escaped ['\n'] []
  | simple {c expanded : Char} : simpleEscape c = some expanded → Escaped [c] [.char expanded]
  | coded {c : Char} {digits : List Char} {point : CodePoint} : isUnknown c = false → simpleEscape c = none →
      c ≠ '\n' → (∀ d ∈ c :: digits, Bare d) → Escaped (c :: digits) [point]
  | unknown {c : Char} : isUnknown c = true → Escaped [c] [.char '\\', .char c]

theorem escape_piece (found : escape names text = some (out,rest)) :
    ∃ piece, Escaped piece out ∧ text = piece ++ rest := by
  unfold escape at found
  split at found
  · cases found
  next c tail =>
  split at found
  · next newline => cases found; subst newline; exact ⟨_,.newline,rfl⟩
  next ended =>
  have coded (bare : Bare c) (marker : isUnknown c = false) (apart : simpleEscape c = none)
      (point : ∃ digits point, (∀ d ∈ digits, Bare d) ∧ tail = digits ++ rest ∧ out = [point]) :
      ∃ piece, Escaped piece out ∧ c :: tail = piece ++ rest := by
    obtain ⟨digits,point,all,rejoined,rfl⟩ := point
    exact ⟨c :: digits,.coded marker apart ended (List.forall_mem_cons.mpr ⟨bare,all⟩),
      by rw [List.cons_append, ← rejoined]⟩
  split at found
  · next same => subst same; exact coded ⟨by decide,by decide⟩ (by decide) (by decide) (hexEscape_point found)
  split at found
  · next same => subst same; exact coded ⟨by decide,by decide⟩ (by decide) (by decide) (hexEscape_point found)
  split at found
  · next same => subst same; exact coded ⟨by decide,by decide⟩ (by decide) (by decide) (hexEscape_point found)
  split at found
  · next same => subst same; exact coded ⟨by decide,by decide⟩ (by decide) (by decide) (nameEscape_point found)
  next x u upper name =>
  split at found
  · next expanded simple => cases found; exact ⟨_,.simple simple,rfl⟩
  next longer =>
  split at found
  · next digit octal =>
    obtain ⟨point,-,same⟩ := Option.map_eq_some_iff.mp found
    cases same
    obtain ⟨digits,all,rejoined⟩ := readOctal_digits 2 digit tail
    exact coded (octalValue_bare octal) (by simp [isUnknown, octal]) longer ⟨digits,point,all,rejoined,rfl⟩
  · next short =>
    cases found
    refine ⟨[c],.unknown ?_,rfl⟩
    simp only [isUnknown, bne_iff_ne.mpr ended, bne_iff_ne.mpr x, bne_iff_ne.mpr u, bne_iff_ne.mpr upper,
      bne_iff_ne.mpr name, longer, short, Option.isNone_none, Bool.and_self]

theorem escape_simple (simple : simpleEscape c = some expanded) :
    escape names (c :: rest) = some ([.char expanded],rest) := by
  have apart (d : Char) (none : simpleEscape d = none) : c ≠ d := by
    rintro rfl
    rw [none] at simple
    cases simple
  simp only [escape, apart '\n' (by decide), apart 'x' (by decide), apart 'u' (by decide),
    apart 'U' (by decide), apart 'N' (by decide), simple, if_false]

theorem escape_unknown (unknown : isUnknown c = true) :
    escape names (c :: rest) = some ([.char '\\', .char c],rest) := by
  simp only [isUnknown, Bool.and_eq_true, bne_iff_ne, ne_eq, Option.isNone_iff_eq_none] at unknown
  obtain ⟨⟨⟨⟨⟨⟨newline,x⟩,u⟩,upper⟩,name⟩,longer⟩,short⟩ := unknown
  simp only [escape, newline, x, u, upper, name, longer, short, if_false]

end Escapes

section Expansion

variable {names : Names} {c : Char} {text rest : List Char} {out : Str}

theorem Escaped.some_piece {piece : List Char} (escaped : Escaped piece out) : piece ≠ [] := by
  cases escaped <;> simp

theorem escape_shorter (found : escape names text = some (out,rest)) : rest.length < text.length := by
  obtain ⟨piece,escaped,rfl⟩ := escape_piece found
  have some_piece := List.length_pos_iff.mpr escaped.some_piece
  simp only [List.length_append]
  omega

/-- Any two amounts of fuel that reach give the same. -/
theorem expand_fuel {fuel other : Nat} (enough : text.length ≤ fuel) (also : text.length ≤ other) :
    expand names fuel text = expand names other text := by
  induction fuel generalizing text other with
  | zero => cases text with
    | nil => cases other <;> rfl
    | cons c tail => simp at enough
  | succ fuel ih => match other, text with
    | other, [] => cases other <;> rfl
    | other + 1, c :: tail =>
      have room : tail.length ≤ fuel := by simpa using enough
      have space : tail.length ≤ other := by simpa using also
      simp only [expand]
      split
      · cases found : escape names tail with
        | none => rfl
        | some escaped =>
          have shorter := Nat.le_of_lt (escape_shorter found)
          simp only [Option.bind_eq_bind, Option.bind_some,
            ih (Nat.le_trans shorter room) (Nat.le_trans shorter space)]
      · rw [ih room space]

/-- The codec over Latin-1 characters. -/
def expandAll (names : Names) (text : List Char) : Option Str := expand names text.length text

theorem decodeUnicodeEscape_eq (bytes : List UInt8) :
    decodeUnicodeEscape names bytes = expandAll names (bytes.map latin1) := by
  rw [decodeUnicodeEscape, expandAll, List.length_map]

theorem expandAll_plain (apart : c ≠ '\\') :
    expandAll names (c :: rest) = (expandAll names rest).map (CodePoint.char c :: ·) := by
  simp only [expandAll, List.length_cons, expand, apart, if_false]

theorem expandAll_escape : expandAll names ('\\' :: text) =
    (escape names text).bind fun escaped => (expandAll names escaped.2).map (escaped.1 ++ ·) := by
  simp only [expandAll, List.length_cons, expand, if_true]
  cases found : escape names text with
  | none => rfl
  | some escaped =>
    have enough := @expand_fuel names escaped.2 _ _ (Nat.le_of_lt (escape_shorter found)) (Nat.le_refl _)
    simp only [Option.bind_eq_bind, Option.bind_some, enough]
    exact Option.map_eq_bind.symm

theorem expandAll_run {run : List Char} (apart : ∀ c ∈ run, c ≠ '\\') :
    expandAll names (run ++ rest) = (expandAll names rest).map (str run ++ ·) := by
  induction run with
  | nil => simp [str]
  | cons c run ih =>
    have more := ih fun d member => apart d (List.mem_cons_of_mem c member)
    rw [List.cons_append, expandAll_plain (apart c List.mem_cons_self), more, Option.map_map]
    rfl

end Expansion

end Python
