import IntakeApi.Library.Url

/-! The texts that the URL parser accepts, as a grammar: a special URL is parsed from a text just
where the text is put together from its pieces. -/
namespace Web

/-- The pieces of a special URL. The user info is there with its `@`, the port with its colon. -/
structure Spelling where
  scheme : List Char
  slashes : List Char
  userinfo : List Char
  host : List Char
  port : List Char
  rest : List Char

namespace Spelling

variable (s : Spelling)

def authority : List Char := s.userinfo ++ (s.host ++ s.port)

def text : List Char := s.scheme ++ ':' :: (s.slashes ++ (s.authority ++ s.rest))

def schemeName : String := String.ofList (s.scheme.map Char.toLower)

structure Valid : Prop where
  letter : s.scheme.head?.any Char.isAlpha = true
  scheme : ∀ c ∈ s.scheme, isSchemeChar c = true
  slashes : ∀ c ∈ s.slashes, isSlash c = true
  authority : ∀ c ∈ s.authority, endsAuthority c = false
  userinfo : ∀ c ∈ s.userinfo.getLast?, c = '@'
  host : s.host ≠ []
  bare : '@' ∉ s.host ++ s.port
  split : splitHost false (s.host ++ s.port) = (s.host,s.port)
  rest : ∀ c ∈ s.rest.head?, endsAuthority c = true

/-- The URL that the pieces make, of a host and a port, before its path. -/
def base (rules : Rules) (host : String) (port : Option Nat) : Url :=
  ⟨s.schemeName,rules.username s.userinfo.dropLast,rules.password s.userinfo.dropLast,some host,port,[],false,
    none,none⟩

def url (rules : Rules) (host : String) (port : Option Nat) : Url :=
  rules.withPath (s.base rules host port) [] (dropSlash s.rest)

end Spelling

theorem parseScheme_iff {text rest : List Char} {name : String} :
    parseScheme text = some (name,rest) ↔
      ∃ scheme : List Char, text = scheme ++ ':' :: rest ∧ scheme.head?.any Char.isAlpha = true ∧
        (∀ c ∈ scheme, isSchemeChar c = true) ∧ name = String.ofList (scheme.map Char.toLower) := by
  constructor
  · intro parsed
    unfold parseScheme at parsed
    split at parsed
    · next letter =>
      split at parsed
      · next dropped =>
        cases parsed
        have whole := List.takeWhile_append_dropWhile (p := isSchemeChar) (l := text)
        rw [dropped] at whole
        refine ⟨_,whole.symm,?_,fun c member => ?_,rfl⟩
        · cases text with
          | nil => cases letter
          | cons c text =>
            have alpha : c.isAlpha = true := letter
            have kept : isSchemeChar c = true := by simp [isSchemeChar, Char.isAlphanum, alpha]
            rw [List.takeWhile_cons_of_pos kept]
            exact letter
        · exact List.all_eq_true.mp List.all_takeWhile c member
      · cases parsed
    · cases parsed
  · rintro ⟨scheme,rfl,letter,chars,rfl⟩
    have head : (scheme ++ ':' :: rest).head?.any Char.isAlpha = true := by
      cases scheme with
      | nil => cases letter
      | cons c scheme => exact letter
    have colon : ¬isSchemeChar ':' = true := by decide
    rw [parseScheme, if_pos head, List.dropWhile_append_of_pos chars, List.takeWhile_append_of_pos chars,
      List.dropWhile_cons_of_neg colon, List.takeWhile_cons_of_neg colon, List.append_nil]
    rfl

theorem authority_split {userinfo hostPort : List Char} (ends : ∀ c ∈ userinfo.getLast?, c = '@')
    (bare : '@' ∉ hostPort) :
    hostPortText (userinfo ++ hostPort) = hostPort ∧ userinfoText (userinfo ++ hostPort) = userinfo.dropLast := by
  have passes : ∀ c ∈ hostPort.reverse, decide (c ≠ '@') = true :=
    fun c member => decide_eq_true fun same => bare (same ▸ List.mem_reverse.mp member)
  have stops : userinfo.reverse.takeWhile (· ≠ '@') = [] ∧
      userinfo.reverse.dropWhile (· ≠ '@') = userinfo.reverse := by
    cases reversed : userinfo.reverse with
    | nil => exact ⟨rfl,rfl⟩
    | cons c rest =>
      have last : c = '@' := ends c (by rw [← List.head?_reverse, reversed]; rfl)
      have stop : ¬decide (c ≠ '@') = true := by simp [last]
      exact ⟨List.takeWhile_cons_of_neg stop,List.dropWhile_cons_of_neg stop⟩
  rw [hostPortText, userinfoText, List.rtakeWhile, List.rdropWhile, List.reverse_append,
    List.takeWhile_append_of_pos passes, List.dropWhile_append_of_pos passes, stops.1, stops.2,
    List.append_nil, List.reverse_reverse, List.reverse_reverse]
  exact ⟨rfl,rfl⟩

theorem authority_joined (text : List Char) :
    ∃ userinfo, text = userinfo ++ hostPortText text ∧ userinfoText text = userinfo.dropLast ∧
      (∀ c ∈ userinfo.getLast?, c = '@') ∧ '@' ∉ hostPortText text := by
  refine ⟨text.rdropWhile (· ≠ '@'),(List.rdropWhile_append_rtakeWhile ..).symm,rfl,fun c last => ?_,fun member => ?_⟩
  · have nonempty : text.rdropWhile (· ≠ '@') ≠ [] := by
      intro empty
      rw [empty] at last
      cases last
    have stop := List.rdropWhile_last_not _ text nonempty
    rw [List.getLast?_eq_some_getLast nonempty] at last
    cases last
    simpa using stop
  · have passed := List.mem_rtakeWhile_imp member
    exact absurd passed (by decide)

theorem splitHost_joined (inside : Bool) (text : List Char) :
    (splitHost inside text).1 ++ (splitHost inside text).2 = text := by
  induction text generalizing inside with
  | nil => rfl
  | cons c text ih =>
    unfold splitHost
    split
    · rfl
    · exact congrArg (c :: ·) (ih _)

/-- The parser finds the pieces again. -/
theorem Spelling.Valid.pieces {s : Spelling} (valid : s.Valid) :
    (s.slashes ++ (s.authority ++ s.rest)).dropWhile isSlash = s.authority ++ s.rest ∧
      (s.authority ++ s.rest).takeWhile (!endsAuthority ·) = s.authority ∧
      (s.authority ++ s.rest).dropWhile (!endsAuthority ·) = s.rest := by
  have passes : ∀ c ∈ s.authority, (!endsAuthority c) = true := fun c member => by
    rw [valid.authority c member]; rfl
  have stops : ∀ c ∈ s.rest.head?, (!endsAuthority c) = false := fun c head => by
    rw [valid.rest c head]; rfl
  refine ⟨?_,span_append passes stops⟩
  · have nonempty : s.authority ≠ [] :=
      List.append_ne_nil_of_right_ne_nil _ (List.append_ne_nil_of_left_ne_nil valid.host _)
    obtain ⟨c,rest,spelled⟩ := List.exists_cons_of_ne_nil nonempty
    have first := valid.authority c (spelled ▸ List.mem_cons_self)
    simp only [endsAuthority, Bool.or_eq_false_iff] at first
    rw [List.dropWhile_append_of_pos valid.slashes, spelled, List.cons_append,
      List.dropWhile_cons_of_neg (by simp [first.1])]

/-- A special URL is parsed from a text just where the text is spelled from pieces that make it. -/
theorem parse_special_spelled {rules : Rules} {value : String} {url : Url} :
    (rules.parse value = some url ∧ isSpecial url.scheme = true) ↔
      ∃ s : Spelling, s.Valid ∧ clean value.toList = s.text ∧ isSpecial s.schemeName = true ∧
        ∃ host port, rules.host s.host = some host ∧ parsePort s.schemeName s.port = some port ∧
          url = s.url rules host port := by
  rw [parse_special_iff]
  constructor
  · rintro ⟨name,rest,base,begun,special,named,rfl⟩
    obtain ⟨scheme,text,letter,chars,rfl⟩ := parseScheme_iff.mp begun
    obtain ⟨hostText,portText,host,port,split,nonempty,denoted,numbered,rfl⟩ := authority_eq_some.mp named
    obtain ⟨userinfo,whole,user,ends,bare⟩ :=
      authority_joined ((rest.dropWhile isSlash).takeWhile (!endsAuthority ·))
    have joined := splitHost_joined false
      (hostPortText ((rest.dropWhile isSlash).takeWhile (!endsAuthority ·)))
    rw [split] at joined
    dsimp only at joined
    rw [← joined] at split bare whole
    refine ⟨⟨scheme,rest.takeWhile isSlash,userinfo,hostText,portText,
      (rest.dropWhile isSlash).dropWhile (!endsAuthority ·)⟩,⟨letter,chars,?_,?_,ends,nonempty,bare,split,?_⟩,?_,
      special,host,port,denoted,numbered,?_⟩
    · exact fun c member => List.all_eq_true.mp List.all_takeWhile c member
    · intro c member
      rw [Spelling.authority, ← whole] at member
      have passed := List.all_eq_true.mp List.all_takeWhile c member
      simpa using passed
    · intro c head
      simpa using dropWhile_stops (!endsAuthority ·) (rest.dropWhile isSlash) c head
    · rw [text, Spelling.text, Spelling.authority, ← whole, List.takeWhile_append_dropWhile,
        List.takeWhile_append_dropWhile]
    · rw [Spelling.url, Spelling.base, ← user]
      rfl
  · rintro ⟨s,valid,text,special,host,port,denoted,numbered,rfl⟩
    obtain ⟨dropped,taken,left⟩ := valid.pieces
    obtain ⟨hostPort,user⟩ := authority_split valid.userinfo valid.bare
    refine ⟨s.schemeName,s.slashes ++ (s.authority ++ s.rest),s.base rules host port,
      parseScheme_iff.mpr ⟨s.scheme,text,valid.letter,valid.scheme,rfl⟩,special,?_,?_⟩
    · rw [dropped, taken]
      refine authority_eq_some.mpr ⟨s.host,s.port,host,port,?_,valid.host,denoted,numbered,?_⟩
      · rw [Spelling.authority, hostPort, valid.split]
      · rw [Spelling.authority, user]
        rfl
    · rw [dropped, left]
      rfl

end Web
