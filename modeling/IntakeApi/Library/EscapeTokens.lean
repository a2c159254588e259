import IntakeApi.Library.UnicodeEscape

/-! The tokens of a text whose UTF-8 bytes the codec `unicode_escape` reads, and how its output
compares with a reading that leaves more of the tokens as they are. -/
namespace Python

/-- What the codec makes of the bytes of a character that begins no escape. -/
def misread (c : Char) : List Char := (String.utf8EncodeChar c).map latin1

def misreadAll (text : List Char) : List Char := text.flatMap misread

section Bytes

variable {c : Char} {text piece left : List Char}

theorem toNat_latin1 (byte : UInt8) : (latin1 byte).toNat = byte.toNat := by
  have small := byte.toNat_lt
  have scalar : byte.toNat.isValidChar := .inl (by omega)
  rw [latin1, Char.ofNat, dif_pos scalar]
  rfl

theorem misread_ascii (small : c.toNat < 128) : misread c = [c] := by
  have short : c.val.toNat ≤ 0x7f := Nat.le_of_lt_succ small
  have byte : UInt8.toNat (UInt8.ofNat c.val.toNat) = c.toNat := UInt8.toNat_ofNat_of_lt' (Nat.lt_trans small (by decide))
  rw [misread, String.utf8EncodeChar, if_pos short, List.map_singleton]
  congr 1
  exact Char.toNat_inj.mp ((toNat_latin1 _).trans byte)

/-- A character that is not ASCII becomes several that are none either. -/
theorem misread_wide (wide : 128 ≤ c.toNat) :
    (∃ d e rest, misread c = d :: e :: rest) ∧ ∀ d ∈ misread c, 128 ≤ d.toNat := by
  have long : ¬c.val.toNat ≤ 0x7f := Nat.not_le.mpr wide
  simp only [misread, String.utf8EncodeChar, long, if_false]
  split
  · refine ⟨⟨_,_,_,rfl⟩,?_⟩
    simp [toNat_latin1]
    omega
  split
  · refine ⟨⟨_,_,_,rfl⟩,?_⟩
    simp [toNat_latin1]
    omega
  · refine ⟨⟨_,_,_,rfl⟩,?_⟩
    simp [toNat_latin1]
    omega

theorem misread_apart (apart : c ≠ '\\') : ∀ d ∈ misread c, d ≠ '\\' := by
  rcases Nat.lt_or_ge c.toNat 128 with small | wide
  · rw [misread_ascii small]
    simpa using apart
  · rintro d member rfl
    exact absurd ((misread_wide wide).2 _ member) (by decide)

@[simp] theorem misreadAll_cons (c : Char) (text : List Char) : misreadAll (c :: text) = misread c ++ misreadAll text :=
  List.flatMap_cons

/-- ASCII at the beginning of the bytes is at the beginning of the text. -/
theorem misreadAll_ascii (ascii : ∀ c ∈ piece, c.toNat < 128) (same : misreadAll text = piece ++ left) :
    ∃ rest, text = piece ++ rest ∧ left = misreadAll rest := by
  induction piece generalizing text with
  | nil => exact ⟨text,rfl,same.symm⟩
  | cons d piece ih => cases text with
    | nil => cases same
    | cons c text =>
      rw [misreadAll_cons] at same
      rcases Nat.lt_or_ge c.toNat 128 with small | wide
      · rw [misread_ascii small, List.cons_append, List.nil_append, List.cons_append, List.cons.injEq] at same
        obtain ⟨rfl,more⟩ := same
        obtain ⟨rest,rfl,rfl⟩ := ih (fun e member => ascii e (List.mem_cons_of_mem c member)) more
        exact ⟨rest,rfl,rfl⟩
      · obtain ⟨⟨first,second,others,parts⟩,all⟩ := misread_wide wide
        rw [parts] at same all
        rw [List.cons_append, List.cons_append, List.cons_append, List.cons.injEq] at same
        have small := ascii d List.mem_cons_self
        have large := all first List.mem_cons_self
        rw [same.1] at large
        omega

end Bytes

inductive Token where
  | plain (c : Char)
  | backslash
  | continued
  | simple (c expanded : Char)
  | coded (piece : List Char) (point : CodePoint)

namespace Token

def text : Token → List Char
  | .plain c => [c]
  | .backslash => ['\\']
  | .continued => ['\\', '\n']
  | .simple c _ => ['\\', c]
  | .coded piece _ => '\\' :: piece

def expanded : Token → Str
  | .plain c => str (misread c)
  | .backslash => [.char '\\']
  | .continued => []
  | .simple _ expanded => [.char expanded]
  | .coded _ point => [point]

def isWide : Token → Bool
  | .plain c => 128 ≤ c.toNat
  | _ => false

end Token

/-- The tokens of a text: an escape is as long as it can be, and a backslash is one only before a
character that begins no escape. -/
inductive Lexed : List Char → List Token → Prop where
  | nil : Lexed [] []
  | plain {c : Char} {rest : List Char} {tokens : List Token} : c ≠ '\\' → Lexed rest tokens →
      Lexed (c :: rest) (.plain c :: tokens)
  | backslash {c : Char} {rest : List Char} {tokens : List Token} : isUnknown c = true → Lexed rest tokens →
      Lexed ('\\' :: c :: rest) (.backslash :: .plain c :: tokens)
  | continued {rest : List Char} {tokens : List Token} : Lexed rest tokens →
      Lexed ('\\' :: '\n' :: rest) (.continued :: tokens)
  | simple {c expanded : Char} {rest : List Char} {tokens : List Token} : simpleEscape c = some expanded →
      Lexed rest tokens → Lexed ('\\' :: c :: rest) (.simple c expanded :: tokens)
  | coded {c : Char} {digits : List Char} {point : CodePoint} {rest : List Char} {tokens : List Token} :
      isUnknown c = false → simpleEscape c = none → c ≠ '\n' → (∀ d ∈ c :: digits, Bare d) → Lexed rest tokens →
      Lexed ('\\' :: c :: (digits ++ rest)) (.coded (c :: digits) point :: tokens)

namespace Lexed

variable {text : List Char} {tokens : List Token}

theorem rejoined (lexed : Lexed text tokens) : text = tokens.flatMap Token.text := by
  induction lexed with
  | nil => rfl
  | plain apart lexed ih => rw [List.flatMap_cons, ← ih]; rfl
  | backslash unknown lexed ih => rw [List.flatMap_cons, List.flatMap_cons, ← ih]; rfl
  | continued lexed ih => rw [List.flatMap_cons, ← ih]; rfl
  | simple known lexed ih => rw [List.flatMap_cons, ← ih]; rfl
  | coded marker longer ended bare lexed ih => rw [List.flatMap_cons, ← ih]; rfl

/-- Every token is text, and ASCII unless it is a character that is not. -/
theorem text_ascii (lexed : Lexed text tokens) : ∀ token ∈ tokens, token.isWide = false →
    token.text ≠ [] ∧ ∀ c ∈ token.text, c.toNat < 128 := by
  have plain (c : Char) (narrow : (Token.plain c).isWide = false) :
      (Token.plain c).text ≠ [] ∧ ∀ d ∈ (Token.plain c).text, d.toNat < 128 := by
    have small : c.toNat < 128 := by simpa [Token.isWide] using narrow
    exact ⟨List.cons_ne_nil c [],List.forall_mem_singleton.mpr small⟩
  induction lexed with
  | nil => simp
  | @plain c rest tokens apart lexed ih => exact List.forall_mem_cons.mpr ⟨plain c,ih⟩
  | @backslash c rest tokens unknown lexed ih =>
    refine List.forall_mem_cons.mpr ⟨fun _ => ⟨List.cons_ne_nil _ _,?_⟩,List.forall_mem_cons.mpr ⟨plain c,ih⟩⟩
    exact List.forall_mem_singleton.mpr (by decide)
  | @continued rest tokens lexed ih =>
    refine List.forall_mem_cons.mpr ⟨fun _ => ⟨List.cons_ne_nil _ _,?_⟩,ih⟩
    exact List.forall_mem_cons.mpr ⟨by decide,List.forall_mem_singleton.mpr (by decide)⟩
  | @simple c expanded rest tokens known lexed ih =>
    refine List.forall_mem_cons.mpr ⟨fun _ => ⟨List.cons_ne_nil _ _,?_⟩,ih⟩
    exact List.forall_mem_cons.mpr ⟨by decide,List.forall_mem_singleton.mpr (simpleEscape_ascii known).1⟩
  | @coded c digits point rest tokens marker longer ended bare lexed ih =>
    refine List.forall_mem_cons.mpr ⟨fun _ => ⟨List.cons_ne_nil _ _,?_⟩,ih⟩
    exact List.forall_mem_cons.mpr ⟨by decide,fun d member => (bare d member).1⟩

end Lexed

theorem isUnknown_wide {c : Char} (wide : 128 ≤ c.toNat) : isUnknown c = true := by
  have apart (d : Char) (small : d.toNat < 128) : c ≠ d := by
    rintro rfl
    omega
  have longer : simpleEscape c = none := by
    cases found : simpleEscape c with
    | none => rfl
    | some expanded => exact absurd (simpleEscape_ascii found).1 (Nat.not_lt.mpr wide)
  have short : octalValue c = none := by
    cases found : octalValue c with
    | none => rfl
    | some digit => exact absurd (octalValue_bare found).1 (Nat.not_lt.mpr wide)
  simp [isUnknown, longer, short, apart '\n' (by decide), apart 'x' (by decide), apart 'u' (by decide),
    apart 'U' (by decide), apart 'N' (by decide)]

/-- A byte that is not ASCII is the first of its character. -/
theorem misreadAll_wide {text left : List Char} {c : Char} (wide : 128 ≤ c.toNat)
    (same : misreadAll text = [c] ++ left) : ∃ d rest more, text = d :: rest ∧ isUnknown d = true ∧
      misread d = c :: more ∧ left = more ++ misreadAll rest := by
  cases text with
  | nil => cases same
  | cons d rest =>
    rw [misreadAll_cons] at same
    rcases Nat.lt_or_ge d.toNat 128 with small | large
    · rw [misread_ascii small] at same
      cases same
      omega
    · obtain ⟨⟨first,second,others,parts⟩,-⟩ := misread_wide large
      rw [parts, List.cons_append, List.singleton_append, List.cons.injEq] at same
      obtain ⟨rfl,rfl⟩ := same
      exact ⟨d,rest,_,rfl,isUnknown_wide large,parts,rfl⟩

theorem isUnknown_apart {c : Char} (unknown : isUnknown c = true) : c ≠ '\\' := by
  rintro rfl
  exact absurd unknown (by decide)

/-- What is expanded is the expansion of the tokens. -/
theorem expandAll_lexed {names : Names} {text : List Char} {out : Str}
    (expanded : expandAll names (misreadAll text) = some out) :
    ∃ tokens, Lexed text tokens ∧ out = tokens.flatMap Token.expanded := by
  induction size : text.length using Nat.strong_induction_on generalizing text out with
  | _ n ih => match text with
    | [] => cases expanded; exact ⟨[],.nil,rfl⟩
    | c :: rest =>
      subst size
      rw [misreadAll_cons] at expanded
      by_cases mark : c = '\\'
      · subst mark
        rw [misread_ascii (by decide), List.singleton_append, expandAll_escape, Option.bind_eq_some_iff] at expanded
        obtain ⟨⟨first,left⟩,found,more⟩ := expanded
        obtain ⟨later,done,rfl⟩ := Option.map_eq_some_iff.mp more
        obtain ⟨piece,escaped,same⟩ := escape_piece found
        -- The piece is ASCII unless it is a character that begins no escape.
        have shorter (ascii : ∀ d ∈ piece, d.toNat < 128) (nonempty : piece ≠ []) :
            ∃ after tokens, rest = piece ++ after ∧ Lexed after tokens ∧
              later = tokens.flatMap Token.expanded := by
          obtain ⟨after,rfl,rfl⟩ := misreadAll_ascii ascii same
          have positive := List.length_pos_iff.mpr nonempty
          have less : after.length < ('\\' :: (piece ++ after)).length := by
            simp only [List.length_cons, List.length_append]
            omega
          obtain ⟨tokens,lexed,rfl⟩ := ih _ less done rfl
          exact ⟨after,tokens,rfl,lexed,rfl⟩
        cases escaped with
        | newline =>
          obtain ⟨after,tokens,rfl,lexed,rfl⟩ := shorter
            (List.forall_mem_singleton.mpr (by decide)) (List.cons_ne_nil _ _)
          exact ⟨.continued :: tokens,.continued lexed,rfl⟩
        | @simple c expanded known =>
          obtain ⟨after,tokens,rfl,lexed,rfl⟩ := shorter
            (List.forall_mem_singleton.mpr (simpleEscape_ascii known).1) (List.cons_ne_nil _ _)
          exact ⟨.simple c expanded :: tokens,.simple known lexed,rfl⟩
        | @coded c digits point marker longer ended bare =>
          obtain ⟨after,tokens,rfl,lexed,rfl⟩ := shorter (fun d member => (bare d member).1)
            (List.cons_ne_nil _ _)
          exact ⟨.coded (c :: digits) point :: tokens,.coded marker longer ended bare lexed,rfl⟩
        | @unknown c unknown =>
          rcases Nat.lt_or_ge c.toNat 128 with small | wide
          · obtain ⟨after,tokens,rfl,lexed,rfl⟩ := shorter (List.forall_mem_singleton.mpr small)
              (List.cons_ne_nil _ _)
            refine ⟨.backslash :: .plain c :: tokens,.backslash unknown lexed,?_⟩
            rw [List.flatMap_cons, List.flatMap_cons, Token.expanded, Token.expanded, misread_ascii small]
            rfl
          · obtain ⟨d,after,bytes,rfl,apart,parts,rfl⟩ := misreadAll_wide wide same
            have run := @expandAll_run names (misreadAll after) bytes
              fun e member => misread_apart (isUnknown_apart apart) e (parts ▸ List.mem_cons_of_mem c member)
            rw [run] at done
            obtain ⟨last,finished,rfl⟩ := Option.map_eq_some_iff.mp done
            have less : after.length < ('\\' :: d :: after).length := by
              simp only [List.length_cons]
              omega
            obtain ⟨tokens,lexed,rfl⟩ := ih _ less finished rfl
            refine ⟨.backslash :: .plain d :: tokens,.backslash apart lexed,?_⟩
            rw [List.flatMap_cons, List.flatMap_cons, Token.expanded, Token.expanded, parts]
            rfl
      · rw [expandAll_run (misread_apart mark)] at expanded
        obtain ⟨later,done,rfl⟩ := Option.map_eq_some_iff.mp expanded
        obtain ⟨tokens,lexed,rfl⟩ := ih _ (by simp) done rfl
        exact ⟨.plain c :: tokens,.plain mark lexed,rfl⟩

namespace Token

theorem expanded_short {token : Token} (narrow : token.isWide = false) : token.expanded.length ≤ 1 := by
  cases token with
  | plain c =>
    have small : c.toNat < 128 := by simpa [isWide] using narrow
    rw [expanded, misread_ascii small]
    exact Nat.le_refl 1
  | backslash => exact Nat.le_refl 1
  | continued => exact Nat.zero_le 1
  | simple c expanded => exact Nat.le_refl 1
  | coded piece point => exact Nat.le_refl 1

theorem expanded_wide {token : Token} (wide : token.isWide = true) :
    ∃ c point rest, token = .plain c ∧ 128 ≤ c.toNat ∧ token.expanded = .char point :: rest ∧ 128 ≤ point.toNat := by
  cases token with
  | plain c =>
    have large : 128 ≤ c.toNat := of_decide_eq_true wide
    obtain ⟨⟨d,e,rest,parts⟩,all⟩ := misread_wide large
    refine ⟨c,d,str (e :: rest),rfl,large,by rw [expanded, parts]; rfl,all d ?_⟩
    rw [parts]
    exact List.mem_cons_self
  | backslash => cases wide
  | continued => cases wide
  | simple c expanded => cases wide
  | coded piece point => cases wide

end Token

/-- The expansion never catches up with a reading that is ahead of it by ASCII and that leaves some
ASCII of every token that is. -/
theorem expanded_behind {shown : Token → List Char} {tokens : List Token}
    (kept : ∀ token ∈ tokens, token.isWide = false → shown token ≠ [] ∧ ∀ c ∈ shown token, c.toNat < 128)
    {ahead : List Char} (some_ahead : ahead ≠ []) (ascii : ∀ c ∈ ahead, c.toNat < 128) (tail : Str) :
    tokens.flatMap Token.expanded ≠ str (ahead ++ tokens.flatMap shown) ++ tail := by
  induction tokens generalizing ahead with
  | nil => cases ahead with
    | nil => exact absurd rfl some_ahead
    | cons c ahead => simp [str]
  | cons token tokens ih =>
    obtain ⟨c,ahead,rfl⟩ := List.exists_cons_of_ne_nil some_ahead
    intro same
    rw [List.flatMap_cons, List.flatMap_cons] at same
    cases wide : token.isWide with
    | true =>
      obtain ⟨-,point,rest,-,-,parts,large⟩ := Token.expanded_wide wide
      rw [parts] at same
      simp only [str, List.cons_append, List.map_cons, List.cons.injEq, CodePoint.char.injEq] at same
      have small := ascii c List.mem_cons_self
      rw [← same.1] at small
      omega
    | false =>
      obtain ⟨some_shown,small⟩ := kept token List.mem_cons_self wide
      have later := fun other member => kept other (List.mem_cons_of_mem token member)
      have ahead_ascii : ∀ d ∈ ahead ++ shown token, d.toNat < 128 := by
        intro d member
        rcases List.mem_append.mp member with before | there
        · exact ascii d (List.mem_cons_of_mem c before)
        · exact small d there
      have short := Token.expanded_short wide
      cases parts : token.expanded with
      | nil =>
        refine ih later (List.cons_ne_nil c (ahead ++ shown token))
          (List.forall_mem_cons.mpr ⟨ascii c List.mem_cons_self,ahead_ascii⟩) ?_
        rw [parts] at same
        simpa [List.append_assoc] using same
      | cons point more =>
        rw [parts, List.length_cons, Nat.succ_le_succ_iff, Nat.le_zero, List.length_eq_zero_iff] at short
        subst short
        refine ih later (List.append_ne_nil_of_right_ne_nil ahead some_shown) ahead_ascii ?_
        rw [parts] at same
        simp only [str, List.cons_append, List.map_cons, List.cons.injEq] at same
        simpa [str, List.append_assoc] using same.2

end Python
