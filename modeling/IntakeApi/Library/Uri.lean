import IntakeApi.Library.Host
import IntakeApi.Library.Url

/-! URIs as the HTTP library parses them, and the texts of HTTPS origins. Which authorities and
paths are well formed is a parameter. -/
namespace Web

inductive IsOriginPort : List Char → Prop where
  | default : IsOriginPort []
  | number {n : Nat} : n < 65536 → n ≠ 443 → IsOriginPort (':' :: Nat.toDigits 10 n)

def IsHttpsOrigin (isKept : List Char → Prop) (text : List Char) : Prop :=
  ∃ host port, text = "https://".toList ++ (host ++ port) ∧ IsOriginHost isKept host ∧ IsOriginPort port

structure Uri where
  scheme : Option String
  authority : Option (List Char)
  path : String
  query : Option String

/-- `other` parses the texts that do not start with `https://`. -/
structure UriRules where
  isAuthority : List Char → Bool
  isPathAndQuery : List Char → Bool
  other : String → Option Uri
  isAuthority_origin : ∀ host port, IsOriginHost (fun _ => True) host → IsOriginPort port →
    isAuthority (host ++ port) = true
  isPathAndQuery_root : isPathAndQuery [] = true ∧ isPathAndQuery ['/'] = true
  other_scheme : ∀ text uri, other text = some uri → uri.scheme ≠ some "https"

def maxUriLength : Nat := 65534

def startsTail (c : Char) : Bool := c == '/' || c == '?' || c == '#'

def isHttps (text : List Char) : Bool := (text.take 8).map Char.toLower == "https://".toList

namespace UriRules

variable (rules : UriRules)

/-- The tail is cut at its fragment, and an empty path reads as a slash. -/
def parseTail (authority tail : List Char) : Option Uri :=
  let kept := tail.takeWhile (· ≠ '#')
  let path := kept.takeWhile (· ≠ '?')
  if rules.isPathAndQuery kept then
    some
      { scheme := some "https"
        authority := some authority
        path := if path.isEmpty then "/" else String.ofList path
        query := match kept.dropWhile (· ≠ '?') with
          | [] => none
          | _ :: query => some (String.ofList query) }
  else none

def parse (text : String) : Option Uri :=
  if maxUriLength < text.utf8ByteSize then none
  else if isHttps text.toList then
    let rest := text.toList.drop 8
    let authority := rest.takeWhile (!startsTail ·)
    if authority.isEmpty || !rules.isAuthority authority then none
    else rules.parseTail authority (rest.dropWhile (!startsTail ·))
  else rules.other text

end UriRules

theorem isOriginPort_chars {port : List Char} (valid : IsOriginPort port) : ∀ c ∈ port, isHostChar c = true := by
  cases valid with
  | default => exact fun c member => absurd member List.not_mem_nil
  | number small custom =>
    refine List.forall_mem_cons.mpr ⟨by decide,fun c digit => ?_⟩
    exact isHostChar_of_digit (Nat.isDigit_of_mem_toDigits (by decide) (by decide) digit)

/-- What passes for an origin when only the parsed URI is looked at: the scheme in any case, any
authority, a slash behind it and any fragment. -/
def IsLooseOrigin (rules : UriRules) (text : String) : Prop :=
  text.utf8ByteSize ≤ maxUriLength ∧
    ∃ scheme authority slash fragment : List Char,
      text.toList = scheme ++ (authority ++ (slash ++ fragment)) ∧ scheme.map Char.toLower = "https://".toList ∧
      authority ≠ [] ∧ (∀ c ∈ authority, startsTail c = false) ∧ rules.isAuthority authority = true ∧
      (slash = [] ∨ slash = ['/']) ∧ ∀ c ∈ fragment.head?, c = '#'

section Parse

variable {rules : UriRules}

theorem parseTail_bare {authority tail : List Char} :
    (∃ uri, rules.parseTail authority tail = some uri ∧ uri.scheme = some "https" ∧ uri.authority.isSome = true ∧
      uri.path = "/" ∧ uri.query = none) ↔
      tail.takeWhile (· ≠ '#') = [] ∨ tail.takeWhile (· ≠ '#') = ['/'] := by
  unfold UriRules.parseTail
  generalize tail.takeWhile (· ≠ '#') = kept
  constructor
  · rintro ⟨uri,parsed,-,-,path,query⟩
    dsimp only at parsed
    split at parsed
    · cases parsed
      dsimp only at path query
      have whole : kept.dropWhile (· ≠ '?') = [] := by
        split at query
        · next empty => exact empty
        · cases query
      have all := List.takeWhile_append_dropWhile (p := fun c => decide (c ≠ '?')) (l := kept)
      rw [whole, List.append_nil] at all
      rw [all] at path
      split at path
      · next empty => exact .inl (List.isEmpty_iff.mp empty)
      · exact .inr (String.ofList_inj.mp path)
    · cases parsed
  · rintro (rfl | rfl)
    · exact ⟨_,if_pos rules.isPathAndQuery_root.1,rfl,rfl,rfl,rfl⟩
    · exact ⟨_,if_pos rules.isPathAndQuery_root.2,rfl,rfl,rfl,rfl⟩

/-- A text that is read as a bare HTTPS origin is a loose one. -/
theorem loose_of_parse {text : String} {uri : Uri} (parsed : rules.parse text = some uri)
    (scheme : uri.scheme = some "https") (present : uri.authority.isSome = true) (path : uri.path = "/")
    (query : uri.query = none) : IsLooseOrigin rules text := by
  unfold UriRules.parse at parsed
  split at parsed
  · cases parsed
  next short =>
  split at parsed
  · next https =>
    dsimp only at parsed
    split at parsed
    · cases parsed
    next valid =>
    simp only [Bool.or_eq_true, not_or, Bool.not_eq_true', Bool.not_eq_false, List.isEmpty_iff] at valid
    have kept := parseTail_bare.mp ⟨uri,parsed,scheme,present,path,query⟩
    refine ⟨Nat.not_lt.mp short,text.toList.take 8,(text.toList.drop 8).takeWhile (!startsTail ·),
      ((text.toList.drop 8).dropWhile (!startsTail ·)).takeWhile (· ≠ '#'),
      ((text.toList.drop 8).dropWhile (!startsTail ·)).dropWhile (· ≠ '#'),?_,beq_iff_eq.mp https,valid.1,?_,
      valid.2,kept,?_⟩
    · rw [List.takeWhile_append_dropWhile, List.takeWhile_append_dropWhile, List.take_append_drop]
    · intro c member
      simpa using List.all_eq_true.mp List.all_takeWhile c member
    · intro c head
      simpa using dropWhile_stops (fun d => decide (d ≠ '#')) ((text.toList.drop 8).dropWhile (!startsTail ·)) c head
  · exact absurd scheme (rules.other_scheme _ _ parsed)

theorem parse_of_loose {text : String} (loose : IsLooseOrigin rules text) :
    ∃ uri, rules.parse text = some uri ∧ uri.scheme = some "https" ∧ uri.authority.isSome = true ∧ uri.path = "/" ∧
      uri.query = none := by
  obtain ⟨short,scheme,authority,slash,fragment,whole,https,nonempty,bare,valid,root,ends⟩ := loose
  have size : scheme.length = 8 := by
    rw [← List.length_map (f := Char.toLower), https]
    rfl
  have starts : ∀ c ∈ (slash ++ fragment).head?, (!startsTail c) = false := by
    intro c head
    rcases root with rfl | rfl
    · rw [ends c head]; rfl
    · cases head; rfl
  have passes : ∀ c ∈ authority, (!startsTail c) = true := fun c member => by rw [bare c member]; rfl
  have kept : (slash ++ fragment).takeWhile (· ≠ '#') = slash := by
    refine (span_append (fun c member => ?_) fun c head => ?_).1
    · rcases root with rfl | rfl
      · cases member
      · rw [List.mem_singleton.mp member]; decide
    · rw [ends c head]; decide
  obtain ⟨taken,left⟩ := span_append passes starts
  have filled : ¬(authority.isEmpty || !rules.isAuthority authority) = true := by
    simp [nonempty, valid]
  have begun : isHttps text.toList = true := by
    rw [isHttps, whole, List.take_left' size, beq_iff_eq]
    exact https
  rw [UriRules.parse, if_neg (Nat.not_lt.mpr short), if_pos begun, whole, List.drop_left' size]
  dsimp only
  rw [taken, left, if_neg filled]
  exact parseTail_bare.mpr (by rwa [kept])

/-- The URI of a text is read as a bare HTTPS origin just where the text is a loose one. -/
theorem parse_loose {text : String} :
    (∃ uri, rules.parse text = some uri ∧ uri.scheme = some "https" ∧ uri.authority.isSome = true ∧
      uri.path = "/" ∧ uri.query = none) ↔ IsLooseOrigin rules text := by
  constructor
  · rintro ⟨uri,parsed,scheme,present,path,query⟩
    exact loose_of_parse parsed scheme present path query
  · exact parse_of_loose

theorem loose_of_origin {isKept : List Char → Prop} {text : String} (origin : IsHttpsOrigin isKept text.toList)
    (short : text.utf8ByteSize ≤ maxUriLength) : IsLooseOrigin rules text := by
  obtain ⟨host,port,whole,named,numbered⟩ := origin
  have chars : ∀ c ∈ host ++ port, isHostChar c = true := by
    intro c member
    rcases List.mem_append.mp member with inside | inside
    · exact isOriginHost_chars named c inside
    · exact isOriginPort_chars numbered c inside
  have valid := rules.isAuthority_origin host port (named.mono fun _ _ => trivial) numbered
  refine ⟨short,"https://".toList,host ++ port,[],[],?_,rfl,?_,?_,valid,.inl rfl,fun c head => by cases head⟩
  · rw [whole, List.append_nil, List.append_nil]
  · exact List.append_ne_nil_of_left_ne_nil (isOriginHost_ne_nil named) _
  · intro c member
    refine Bool.eq_false_iff.mpr fun starts => ?_
    have tails : ∀ d ∈ ['/', '?', '#'], isHostChar d = false := List.forall_iff_forall_mem.mp (by decide)
    have other := tails c (by simpa [startsTail, or_assoc] using starts)
    rw [chars c member] at other
    cases other

end Parse

end Web
