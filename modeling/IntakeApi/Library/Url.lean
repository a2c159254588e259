import Mathlib.Data.List.DropRight

/-! URLs of the special schemes, parsed and resolved as the URL standard has it. What a host text
denotes, which characters are escaped and the URLs of other schemes are parameters. -/
namespace Web

/-- The path is the list of its segments. -/
structure Url where
  scheme : String
  username : String
  password : Option String
  host : Option String
  port : Option Nat
  path : List (List Char)
  cannotBeABase : Bool
  query : Option String
  fragment : Option String

/-- A character that stands for itself in a path. -/
def isPlain (c : Char) : Bool := c.isAlphanum || c == '-' || c == '_' || c == '.'

structure Rules where
  host : List Char → Option String
  escapeUserinfo : Char → List Char
  escapePath : Char → List Char
  escapeQuery : Char → List Char
  escapeFragment : Char → List Char
  other : String → List Char → Option Url
  host_letters : ∀ text, (∀ c ∈ text, c.isLower = true ∨ c = '.') → [] ∉ text.splitOn '.' →
    host text = some (String.ofList text)
  escapePath_plain : ∀ c, isPlain c = true → escapePath c = [c]
  escapePath_ne_nil : ∀ c, escapePath c ≠ []
  escapePath_dot : ∀ c, '.' ∈ escapePath c → c = '.'
  other_scheme : ∀ scheme rest url, other scheme rest = some url → url.scheme = scheme

def defaultPort : String → Option Nat
  | "https" => some 443
  | "http" => some 80
  | "wss" => some 443
  | "ws" => some 80
  | "ftp" => some 21
  | _ => none

def isSpecial (scheme : String) : Bool := (defaultPort scheme).isSome

/-- A control character or a space, which is dropped at both ends. -/
def isStripped (c : Char) : Bool := c.toNat ≤ 0x20

/-- Tabs and line ends are dropped everywhere. -/
def isIgnored (c : Char) : Bool := c == '\t' || c == '\n' || c == '\r'

def isSlash (c : Char) : Bool := c == '/' || c == '\\'

def endsPath (c : Char) : Bool := c == '?' || c == '#'

def endsAuthority (c : Char) : Bool := isSlash c || endsPath c

def clean (input : List Char) : List Char :=
  ((input.dropWhile isStripped).rdropWhile isStripped).filter (!isIgnored ·)

def isSchemeChar (c : Char) : Bool := c.isAlphanum || c == '+' || c == '-' || c == '.'

def parseScheme (input : List Char) : Option (String × List Char) :=
  if input.head?.any Char.isAlpha then
    match input.dropWhile isSchemeChar with
    | ':' :: rest => some (String.ofList ((input.takeWhile isSchemeChar).map Char.toLower),rest)
    | _ => none
  else none

section Dots

variable (single double : List Char → Bool) (escape : Char → List Char)

/-- A segment that others follow. -/
def step (path : List (List Char)) (segment : List Char) : List (List Char) :=
  if double segment then path.dropLast
  else if single segment then path
  else path ++ [segment.flatMap escape]

def finish (path : List (List Char)) (segment : List Char) : List (List Char) :=
  if double segment || single segment then step single double escape path segment ++ [[]]
  else step single double escape path segment

/-- Segments are put on a path, and dot segments are taken out. -/
def resolve (path : List (List Char)) : List (List Char) → List (List Char)
  | [] => path
  | [segment] => finish single double escape path segment
  | segment :: next :: rest => resolve (step single double escape path segment) (next :: rest)

end Dots

/-- The spellings of the dot segments. -/
def singleDots : List (List Char) := [".", "%2e", "%2E"].map String.toList

def doubleDots : List (List Char) :=
  ["..", ".%2e", ".%2E", "%2e.", "%2E.", "%2e%2e", "%2e%2E", "%2E%2e", "%2E%2E"].map String.toList

def isSingleDot (segment : List Char) : Bool := singleDots.contains segment

def isDoubleDot (segment : List Char) : Bool := doubleDots.contains segment

def queryText : List Char → Option (List Char)
  | '?' :: rest => some (rest.takeWhile (· ≠ '#'))
  | _ => none

def fragmentText (text : List Char) : Option (List Char) :=
  match text.dropWhile (· ≠ '#') with
  | _ :: rest => some rest
  | [] => none

def parsePort (scheme : String) : List Char → Option (Option Nat)
  | [] => some none
  | _ :: digits =>
    if digits.all Char.isDigit && Nat.ofDigitChars 10 digits 0 < 65536 then
      if digits.isEmpty || some (Nat.ofDigitChars 10 digits 0) = defaultPort scheme then some none
      else some (some (Nat.ofDigitChars 10 digits 0))
    else none

/-- The text of a host and the rest, which starts at the first colon outside brackets. -/
def splitHost (inside : Bool) : List Char → List Char × List Char
  | [] => ([],[])
  | c :: rest =>
    if c = ':' && !inside then ([],c :: rest)
    else
      let split := splitHost (if c = '[' then true else if c = ']' then false else inside) rest
      (c :: split.1,split.2)

def userinfoText (authority : List Char) : List Char := (authority.rdropWhile (· ≠ '@')).dropLast

def hostPortText (authority : List Char) : List Char := authority.rtakeWhile (· ≠ '@')

/-- The slash at which a path starts. -/
def dropSlash : List Char → List Char
  | [] => []
  | c :: rest => if isSlash c then rest else c :: rest

namespace Rules

variable (rules : Rules)

def resolvePath (path : List (List Char)) (text : List Char) : List (List Char) :=
  resolve isSingleDot isDoubleDot rules.escapePath path (text.splitOnP isSlash)

def username (userinfo : List Char) : String :=
  String.ofList ((userinfo.takeWhile (· ≠ ':')).flatMap rules.escapeUserinfo)

def password (userinfo : List Char) : Option String :=
  match userinfo.dropWhile (· ≠ ':') with
  | _ :: c :: rest => some (String.ofList ((c :: rest).flatMap rules.escapeUserinfo))
  | _ => none

def parseQuery (text : List Char) : Option String :=
  (queryText text).map fun query => String.ofList (query.flatMap rules.escapeQuery)

def parseFragment (text : List Char) : Option String :=
  (fragmentText text).map fun fragment => String.ofList (fragment.flatMap rules.escapeFragment)

/-- A URL with the path that a text leads to from a path, and with the query and the fragment behind it. -/
def withPath (url : Url) (path : List (List Char)) (text : List Char) : Url :=
  { url with
    path := rules.resolvePath path (text.takeWhile (!endsPath ·))
    query := rules.parseQuery (text.dropWhile (!endsPath ·))
    fragment := rules.parseFragment (text.dropWhile (!endsPath ·)) }

/-- The URL that an authority names, before its path. -/
def authority (scheme : String) (text : List Char) : Option Url :=
  let split := splitHost false (hostPortText text)
  if split.1.isEmpty then none
  else match rules.host split.1, parsePort scheme split.2 with
  | some host, some port =>
    some
      { scheme := scheme
        username := rules.username (userinfoText text)
        password := rules.password (userinfoText text)
        host := some host
        port := port
        path := []
        cannotBeABase := false
        query := none
        fragment := none }
  | _, _ => none

/-- What follows the slashes of a special URL. -/
def parseAuthority (scheme : String) (text : List Char) : Option Url :=
  (rules.authority scheme (text.takeWhile (!endsAuthority ·))).map fun url =>
    rules.withPath url [] (dropSlash (text.dropWhile (!endsAuthority ·)))

def parseWithScheme (scheme : String) (rest : List Char) : Option Url :=
  if isSpecial scheme then rules.parseAuthority scheme (rest.dropWhile isSlash) else rules.other scheme rest

def parse (input : String) : Option Url :=
  (parseScheme (clean input.toList)).bind fun parts => rules.parseWithScheme parts.1 parts.2

/-- `join` on a special URL, of a reference that begins with a segment of a path. -/
def join (base : Url) (input : String) : Url :=
  rules.withPath base base.path.dropLast (clean input.toList)

end Rules

/-- The relative resolution of RFC 3986, with the query and the fragment of the reference. -/
def resolveReference (path : List (List Char)) (reference : List Char) :
    List (List Char) × Option (List Char) × Option (List Char) :=
  (resolve (· == ['.']) (· == ['.', '.']) (fun c => [c]) []
      (path.dropLast ++ (reference.takeWhile (!endsPath ·)).splitOn '/'),
    queryText (reference.dropWhile (!endsPath ·)),fragmentText (reference.dropWhile (!endsPath ·)))

namespace Url

variable (url : Url)

def pathText : String := String.ofList (url.path.flatMap ('/' :: ·))

def effectivePort : Option Nat := url.port.or (defaultPort url.scheme)

/-- `pop_if_empty`. -/
def popIfEmpty (path : List (List Char)) : List (List Char) :=
  if path.length ≠ 1 && path.getLast? = some [] then path.dropLast else path

/-- `extend`, of segments that need no escape. -/
def extend (path segments : List (List Char)) : List (List Char) :=
  segments.foldl (fun path segment => if path = [[]] then [segment] else path ++ [segment]) path

theorem filter_popIfEmpty (path : List (List Char)) :
    (popIfEmpty path).filter (· ≠ []) = path.filter (· ≠ []) := by
  unfold popIfEmpty
  split
  · next empty =>
    simp only [Bool.and_eq_true, decide_eq_true_eq] at empty
    obtain ⟨before,rfl⟩ := List.getLast?_eq_some_iff.mp empty.2
    simp
  · rfl

theorem filter_extend (path segments : List (List Char)) :
    (extend path segments).filter (· ≠ []) = path.filter (· ≠ []) ++ segments.filter (· ≠ []) := by
  induction segments generalizing path with
  | nil => simp [extend]
  | cons segment segments ih =>
    have pushed : (if path = [[]] then [segment] else path ++ [segment]).filter (· ≠ []) =
        path.filter (· ≠ []) ++ [segment].filter (· ≠ []) := by
      split
      · next root => rw [root]; rfl
      · rw [List.filter_append]
    rw [extend, List.foldl_cons, ← extend, ih, pushed, List.append_assoc, ← List.filter_append,
      List.singleton_append]

end Url

section Resolve

variable {single double : List Char → Bool} {escape : Char → List Char}

theorem resolve_snoc (path segments : List (List Char)) (last : List Char) :
    resolve single double escape path (segments ++ [last]) =
      finish single double escape (segments.foldl (step single double escape) path) last := by
  induction segments generalizing path with
  | nil => rfl
  | cons segment segments ih =>
    cases segments with
    | nil => rfl
    | cons next rest => exact ih (step single double escape path segment)

def Kept (single double : List Char → Bool) (escape : Char → List Char) (segment : List Char) : Prop :=
  single segment = false ∧ double segment = false ∧ segment.flatMap escape = segment

theorem Kept.step {segment : List Char} (kept : Kept single double escape segment) (path : List (List Char)) :
    step single double escape path segment = path ++ [segment] := by
  simp [Web.step, kept.1, kept.2.1, kept.2.2]

theorem Kept.finish {segment : List Char} (kept : Kept single double escape segment) (path : List (List Char)) :
    finish single double escape path segment = path ++ [segment] := by
  simp [Web.finish, kept.1, kept.2.1, kept.step]

/-- Segments that are kept as they are stay below the path. -/
theorem resolve_kept {segments : List (List Char)} (path : List (List Char)) (nonempty : segments ≠ [])
    (kept : ∀ segment ∈ segments, Kept single double escape segment) :
    resolve single double escape path segments = path ++ segments := by
  induction segments generalizing path with
  | nil => exact absurd rfl nonempty
  | cons segment segments ih =>
    cases segments with
    | nil => exact (kept segment List.mem_cons_self).finish path
    | cons next rest =>
      rw [resolve, (kept segment List.mem_cons_self).step, ih _ (List.cons_ne_nil _ _)
        fun other member => kept other (List.mem_cons_of_mem _ member), List.append_assoc, List.singleton_append]

end Resolve

section Text

theorem span_append {p : Char → Bool} {left right : List Char} (passes : ∀ c ∈ left, p c = true)
    (stops : ∀ c ∈ right.head?, p c = false) :
    (left ++ right).takeWhile p = left ∧ (left ++ right).dropWhile p = right := by
  rw [List.takeWhile_append_of_pos passes, List.dropWhile_append_of_pos passes]
  cases right with
  | nil => exact ⟨List.append_nil left,rfl⟩
  | cons c rest =>
    have stop : ¬p c = true := by simp [stops c rfl]
    rw [List.takeWhile_cons_of_neg stop, List.dropWhile_cons_of_neg stop, List.append_nil]
    exact ⟨rfl,rfl⟩

theorem dropWhile_stops (p : Char → Bool) (text : List Char) : ∀ c ∈ (text.dropWhile p).head?, p c = false := by
  intro c head
  have stop := List.head?_dropWhile_not p text
  rw [Option.mem_def.mp head] at stop
  simpa using stop

theorem takeWhile_snoc {p : Char → Bool} {c : Char} (ends : p c = false) (text : List Char) :
    (text ++ [c]).takeWhile p = text.takeWhile p := by
  induction text with
  | nil => simp [ends]
  | cons d text ih =>
    rw [List.cons_append, List.takeWhile_cons, List.takeWhile_cons, ih]

theorem dropWhile_snoc {p : Char → Bool} {c : Char} (ends : p c = false) (text : List Char) :
    (text ++ [c]).dropWhile p = text.dropWhile p ++ [c] := by
  induction text with
  | nil => simp [ends]
  | cons d text ih =>
    rw [List.cons_append, List.dropWhile_cons, List.dropWhile_cons, ih]
    split <;> rfl

theorem parseScheme_snoc {text rest : List Char} {scheme : String} (c : Char)
    (parsed : parseScheme text = some (scheme,rest)) : parseScheme (text ++ [c]) = some (scheme,rest ++ [c]) := by
  unfold parseScheme at parsed ⊢
  split at parsed
  · next letter =>
    split at parsed
    · next after dropped =>
      cases parsed
      have head : (text ++ [c]).head?.any Char.isAlpha = true := by
        cases text with
        | nil => cases letter
        | cons d text => exact letter
      have short : (text.takeWhile isSchemeChar).length ≠ text.length := by
        intro whole
        have all := List.takeWhile_append_dropWhile (p := isSchemeChar) (l := text)
        rw [dropped] at all
        have sizes := congrArg List.length all
        rw [List.length_append, whole, List.length_cons] at sizes
        omega
      rw [if_pos head, List.dropWhile_append, dropped, List.takeWhile_append, if_neg short]
      rfl
    · cases parsed
  · cases parsed

/-- A text without query and fragment is a path. -/
theorem path_only {rules : Rules} {text : List Char}
    (query : rules.parseQuery (text.dropWhile (!endsPath ·)) = none)
    (fragment : rules.parseFragment (text.dropWhile (!endsPath ·)) = none) :
    ∀ c ∈ text, endsPath c = false := by
  have none_left : text.dropWhile (!endsPath ·) = [] := by
    cases left : text.dropWhile (!endsPath ·) with
    | nil => rfl
    | cons c rest =>
      have ends := List.head?_dropWhile_not (!endsPath ·) text
      rw [left] at ends query fragment
      have ends : c = '?' ∨ c = '#' := by simpa [endsPath, or_iff_not_imp_left] using ends
      rcases ends with rfl | rfl
      · cases query
      · cases fragment
  intro c member
  have all := List.dropWhile_eq_nil_iff.mp none_left c member
  simpa using all

end Text

section Plain

def isPathChar (c : Char) : Bool := isPlain c || c == '/'

theorem isPathChar_visible {c : Char} (plain : isPathChar c = true) : isStripped c = false := by
  refine Bool.eq_false_iff.mpr fun stripped => ?_
  have below : ∀ n ≤ 0x20, isPathChar (Char.ofNat n) = false := by decide
  have other := below c.toNat (of_decide_eq_true stripped)
  rw [Char.ofNat_toNat, plain] at other
  cases other

theorem isPathChar_ne {c d : Char} (plain : isPathChar c = true) (special : isPathChar d = false) : c ≠ d := by
  rintro rfl
  rw [plain] at special
  cases special

theorem plain_bare {text : List Char} (plain : ∀ c ∈ text, isPathChar c = true) :
    ∀ c ∈ text, (!endsPath c) = true := by
  intro c member
  have query : c ≠ '?' := isPathChar_ne (plain c member) (by decide)
  have fragment : c ≠ '#' := isPathChar_ne (plain c member) (by decide)
  simp [endsPath, query, fragment]

theorem clean_plain {text : List Char} (plain : ∀ c ∈ text, isPathChar c = true) : clean text = text := by
  have kept : ∀ c ∈ text, isStripped c = false := fun c member => isPathChar_visible (plain c member)
  have left : text.dropWhile isStripped = text :=
    List.dropWhile_eq_self_iff.mpr fun nonempty => by simp [kept _ (List.getElem_mem nonempty)]
  have right : text.rdropWhile isStripped = text :=
    List.rdropWhile_eq_self_iff.mpr fun nonempty => by simp [kept _ (List.getLast_mem nonempty)]
  rw [clean, left, right, List.filter_eq_self]
  intro c member
  rw [Bool.not_eq_true', Bool.eq_false_iff]
  intro ignored
  have stripped : ∀ d ∈ ['\t', '\n', '\r'], isStripped d = true := List.forall_iff_forall_mem.mp (by decide)
  have other := stripped c (by simpa [isIgnored, or_assoc] using ignored)
  rw [kept c member] at other
  cases other

theorem splitOnP_congr {p q : Char → Bool} {text : List Char} (same : ∀ c ∈ text, p c = q c) :
    text.splitOnP p = text.splitOnP q := by
  induction text with
  | nil => rfl
  | cons c text ih =>
    rw [List.splitOnP_cons_eq_if_modifyHead, List.splitOnP_cons_eq_if_modifyHead,
      same c List.mem_cons_self, ih fun d member => same d (List.mem_cons_of_mem _ member)]

theorem split_plain {text : List Char} (plain : ∀ c ∈ text, isPathChar c = true) :
    text.splitOnP isSlash = text.splitOn '/' := by
  rw [List.splitOn_eq_splitOnP]
  refine splitOnP_congr fun c member => ?_
  have other : c ≠ '\\' := isPathChar_ne (plain c member) (by decide)
  simp [isSlash, other]

theorem not_dots {segment : List Char} (dot : '.' ∉ segment) (percent : '%' ∉ segment) :
    isSingleDot segment = false ∧ isDoubleDot segment = false := by
  have spelled : ∀ dots ∈ singleDots ++ doubleDots, '.' ∈ dots ∨ '%' ∈ dots := by decide
  have apart : ∀ dots : List (List Char), (∀ d ∈ dots, d ∈ singleDots ++ doubleDots) →
      dots.contains segment = false := by
    intro dots known
    refine Bool.eq_false_iff.mpr fun found => ?_
    rcases spelled segment (known _ (List.contains_iff_mem.mp found)) with member | member
    · exact dot member
    · exact percent member
  exact ⟨apart _ fun d member => List.mem_append_left _ member,apart _ fun d member => List.mem_append_right _ member⟩

theorem mem_splitOn {text segment : List Char} {separator : Char} (member : segment ∈ text.splitOn separator) :
    ∀ c ∈ segment, c ∈ text ∧ c ≠ separator := by
  induction text generalizing segment with
  | nil =>
    rw [List.splitOn_eq_splitOnP, List.splitOnP_nil, List.mem_singleton] at member
    subst member
    exact fun c here => absurd here List.not_mem_nil
  | cons d text ih =>
    rw [List.splitOn_cons_eq_if_modifyHead] at member
    have later {other : List Char} (inside : other ∈ text.splitOn separator) :
        ∀ c ∈ other, c ∈ d :: text ∧ c ≠ separator :=
      fun c here => ⟨List.mem_cons_of_mem d (ih inside c here).1,(ih inside c here).2⟩
    split at member
    · rcases List.mem_cons.mp member with rfl | inside
      · exact fun c here => absurd here List.not_mem_nil
      · exact later inside
    · next apart =>
      obtain ⟨first,rest,split⟩ := List.exists_cons_of_ne_nil (List.splitOn_ne_nil separator text)
      rw [split, List.modifyHead_cons] at member
      rcases List.mem_cons.mp member with rfl | inside
      · intro c here
        rcases List.mem_cons.mp here with rfl | below
        · exact ⟨List.mem_cons_self,by simpa using apart⟩
        · exact later (split ▸ List.mem_cons_self) c below
      · exact later (split ▸ List.mem_cons_of_mem _ inside)

theorem slashes_splitOn (text : List Char) : (text.splitOn '/').flatMap ('/' :: ·) = '/' :: text := by
  induction text with
  | nil => rfl
  | cons c text ih =>
    rw [List.splitOn_cons_eq_if_modifyHead]
    split
    · next slash =>
      rw [List.flatMap_cons, ih, beq_iff_eq.mp slash, List.singleton_append]
    · obtain ⟨first,rest,split⟩ := List.exists_cons_of_ne_nil (List.splitOn_ne_nil '/' text)
      rw [split, List.flatMap_cons, List.cons_append, List.cons.injEq] at ih
      rw [split, List.modifyHead_cons, List.flatMap_cons, List.cons_append, List.cons_append, ih.2]

theorem mem_of_splitOn {text : List Char} {c : Char} (member : c ∈ text) :
    c = '/' ∨ ∃ segment ∈ text.splitOn '/', c ∈ segment := by
  have inside : c ∈ (text.splitOn '/').flatMap ('/' :: ·) := by
    rw [slashes_splitOn]
    exact List.mem_cons_of_mem _ member
  obtain ⟨segment,part,here⟩ := List.mem_flatMap.mp inside
  exact (List.mem_cons.mp here).imp_right fun below => ⟨segment,part,below⟩

variable {rules : Rules}

/-- A reference of plain segments is put below the path as it is. -/
theorem join_plain {base : Url} {reference : String} (plain : ∀ c ∈ reference.toList, isPathChar c = true)
    (dots : ∀ segment ∈ reference.toList.splitOn '/', isSingleDot segment = false ∧ isDoubleDot segment = false) :
    rules.join base reference =
      { base with path := base.path.dropLast ++ reference.toList.splitOn '/', query := none, fragment := none } := by
  have bare := plain_bare plain
  have kept : ∀ segment ∈ reference.toList.splitOn '/', Kept isSingleDot isDoubleDot rules.escapePath segment := by
    intro segment member
    refine ⟨(dots segment member).1,(dots segment member).2,?_⟩
    have chars : ∀ c ∈ segment, rules.escapePath c = [c] := by
      intro c here
      obtain ⟨inside,apart⟩ := mem_splitOn member c here
      refine rules.escapePath_plain c ?_
      simpa [isPathChar, apart] using plain c inside
    rw [List.flatMap_congr chars, List.flatMap_singleton']
  rw [Rules.join, clean_plain plain, Rules.withPath, List.takeWhile_eq_self_iff.mpr bare,
    List.dropWhile_eq_nil_iff.mpr bare, Rules.resolvePath, split_plain plain,
    resolve_kept _ (List.splitOn_ne_nil _ _) kept]
  rfl

def Dotless (path : List (List Char)) : Prop := ∀ segment ∈ path, segment ≠ ['.'] ∧ segment ≠ ['.', '.']

theorem Dotless.dropLast {path : List (List Char)} (dotless : Dotless path) : Dotless path.dropLast :=
  fun segment member => dotless segment (List.dropLast_subset path member)

theorem Dotless.append {path other : List (List Char)} (left : Dotless path) (right : Dotless other) :
    Dotless (path ++ other) :=
  fun segment member => (List.mem_append.mp member).elim (left segment) (right segment)

theorem dotless_nil : Dotless [[]] := by
  intro segment member
  rw [List.mem_singleton.mp member]
  exact ⟨(List.cons_ne_nil _ _).symm,(List.cons_ne_nil _ _).symm⟩

/-- Dots come from dots only. -/
theorem escape_dots {segment : List Char} (dots : ∀ c ∈ segment.flatMap rules.escapePath, c = '.') :
    segment.flatMap rules.escapePath = segment := by
  have plain : ∀ c ∈ segment, rules.escapePath c = [c] := by
    intro c member
    obtain ⟨d,rest,spelled⟩ := List.exists_cons_of_ne_nil (rules.escapePath_ne_nil c)
    have first : d ∈ rules.escapePath c := spelled ▸ List.mem_cons_self
    have dot : d = '.' := dots d (List.mem_flatMap.mpr ⟨c,member,first⟩)
    have same : c = '.' := rules.escapePath_dot c (dot ▸ first)
    exact rules.escapePath_plain c (by rw [same]; decide)
  rw [List.flatMap_congr plain, List.flatMap_singleton']

theorem step_dotless {path : List (List Char)} (dotless : Dotless path) (segment : List Char) :
    Dotless (step isSingleDot isDoubleDot rules.escapePath path segment) := by
  unfold step
  split
  · exact dotless.dropLast
  split
  · exact dotless
  next double single =>
  refine dotless.append fun other member => ?_
  rw [List.mem_singleton.mp member]
  constructor
  · intro dot
    rw [@escape_dots rules _ (by rw [dot]; simp)] at dot
    rw [dot] at single
    exact single (by decide)
  · intro dots
    rw [@escape_dots rules _ (by rw [dots]; simp)] at dots
    rw [dots] at double
    exact double (by decide)

theorem resolve_dotless {path : List (List Char)} (dotless : Dotless path) (segments : List (List Char)) :
    Dotless (resolve isSingleDot isDoubleDot rules.escapePath path segments) := by
  induction segments generalizing path with
  | nil => exact dotless
  | cons segment segments ih =>
    cases segments with
    | nil =>
      unfold resolve finish
      split
      · exact (step_dotless dotless segment).append dotless_nil
      · exact step_dotless dotless segment
    | cons next rest => exact ih (step_dotless dotless segment)

/-- A reference of plain segments is put below a path without dot segments as it is. -/
theorem resolveReference_plain {path : List (List Char)} {reference : List Char} (dotless : Dotless path)
    (plain : ∀ c ∈ reference, isPathChar c = true) (dots : Dotless (reference.splitOn '/')) :
    resolveReference path reference = (path.dropLast ++ reference.splitOn '/',none,none) := by
  have bare := plain_bare plain
  have kept : ∀ segment ∈ path.dropLast ++ reference.splitOn '/',
      Kept (· == ['.']) (· == ['.', '.']) (fun c => [c]) segment := by
    intro segment member
    obtain ⟨single,double⟩ := dotless.dropLast.append dots segment member
    exact ⟨beq_eq_false_iff_ne.mpr single,beq_eq_false_iff_ne.mpr double,List.flatMap_singleton' segment⟩
  have nonempty : path.dropLast ++ reference.splitOn '/' ≠ [] :=
    List.append_ne_nil_of_right_ne_nil _ (List.splitOn_ne_nil _ _)
  rw [resolveReference, List.takeWhile_eq_self_iff.mpr bare, List.dropWhile_eq_nil_iff.mpr bare,
    resolve_kept _ nonempty kept]
  rfl

end Plain

section Slash

/-- The last segment of a text that does not end with a separator. -/
theorem splitOnP_snoc {p : Char → Bool} {c : Char} (kept : p c = false) (text : List Char) :
    ∃ segments last, (text ++ [c]).splitOnP p = segments ++ [last ++ [c]] := by
  induction text with
  | nil => exact ⟨[],[],by simp [List.splitOnP_cons_eq_if_modifyHead, kept]⟩
  | cons d text ih =>
    obtain ⟨segments,last,split⟩ := ih
    rw [List.cons_append, List.splitOnP_cons_eq_if_modifyHead, split]
    by_cases separator : p d = true
    · exact ⟨[] :: segments,last,by rw [if_pos separator, List.cons_append]⟩
    · rw [if_neg separator]
      cases segments with
      | nil => exact ⟨[],d :: last,rfl⟩
      | cons segment segments => exact ⟨(d :: segment) :: segments,last,rfl⟩

variable {rules : Rules}

theorem popIfEmpty_snoc {path : List (List Char)} (nonempty : path ≠ []) :
    Url.popIfEmpty (path ++ [[]]) = path := by
  have size := List.length_pos_of_ne_nil nonempty
  rw [Url.popIfEmpty, if_pos, List.dropLast_concat]
  simp
  omega

theorem popIfEmpty_kept {path : List (List Char)} {last : List Char} (nonempty : last ≠ []) :
    Url.popIfEmpty (path ++ [last]) = path ++ [last] := by
  rw [Url.popIfEmpty, if_neg]
  simp [nonempty]

theorem Rules.escape_ne_nil (rules : Rules) {segment : List Char} (nonempty : segment ≠ []) :
    segment.flatMap rules.escapePath ≠ [] := by
  obtain ⟨c,rest,rfl⟩ := List.exists_cons_of_ne_nil nonempty
  exact List.append_ne_nil_of_left_ne_nil (rules.escapePath_ne_nil c) _

/-- A slash behind a path that does not end with one leads to the same path, an empty segment at
its end apart. -/
theorem resolvePath_slash (path : List (List Char)) {text : List Char} (nonempty : text ≠ [])
    (bare : ∀ c ∈ text.getLast?, isSlash c = false) :
    Url.popIfEmpty (rules.resolvePath path (text ++ ['/'])) = Url.popIfEmpty (rules.resolvePath path text) := by
  obtain ⟨text,c,rfl⟩ := (List.eq_nil_or_concat' text).resolve_left nonempty
  obtain ⟨segments,last,split⟩ := splitOnP_snoc (bare c (by simp)) text
  have slashed : (text ++ [c] ++ ['/']).splitOnP isSlash = segments ++ [last ++ [c]] ++ [[]] := by
    rw [List.splitOnP_append_cons _ _ (by decide), split, List.splitOnP_nil]
  rw [Rules.resolvePath, Rules.resolvePath, slashed, split, resolve_snoc, resolve_snoc, List.foldl_concat]
  generalize segments.foldl (step isSingleDot isDoubleDot rules.escapePath) path = before
  have filled : last ++ [c] ≠ [] := List.append_ne_nil_of_right_ne_nil _ (List.cons_ne_nil _ _)
  have ended : ∀ path, finish isSingleDot isDoubleDot rules.escapePath path [] = path ++ [[]] := fun path => rfl
  rw [ended, finish]
  split
  · rfl
  next plain =>
  have kept : step isSingleDot isDoubleDot rules.escapePath before (last ++ [c]) =
      before ++ [(last ++ [c]).flatMap rules.escapePath] := by
    simp only [Bool.or_eq_true, not_or, Bool.not_eq_true] at plain
    simp only [step, plain.1, plain.2, Bool.false_eq_true, if_false]
  rw [kept, popIfEmpty_snoc (List.append_ne_nil_of_right_ne_nil _ (List.cons_ne_nil _ _)),
    popIfEmpty_kept (rules.escape_ne_nil filled)]

theorem takeWhile_path {text : List Char} (path : ∀ c ∈ text, endsPath c = false) :
    text.takeWhile (!endsPath ·) = text ∧ text.dropWhile (!endsPath ·) = [] := by
  have passes : ∀ c ∈ text, (!endsPath c) = true := fun c member => by rw [path c member, Bool.not_false]
  exact ⟨List.takeWhile_eq_self_iff.mpr passes,List.dropWhile_eq_nil_iff.mpr passes⟩

/-- The same of a URL without query and fragment. -/
theorem withPath_slash {url : Url} {rest : List Char} (starts : ∀ c ∈ rest.head?, endsAuthority c = true)
    (query : (rules.withPath url [] (dropSlash rest)).query = none)
    (fragment : (rules.withPath url [] (dropSlash rest)).fragment = none)
    (bare : ∀ c ∈ rest.getLast?, isSlash c = false) :
    ∃ path, rules.withPath url [] (dropSlash (rest ++ ['/'])) =
        { rules.withPath url [] (dropSlash rest) with path := path } ∧
      Url.popIfEmpty path = Url.popIfEmpty (rules.withPath url [] (dropSlash rest)).path := by
  cases rest with
  | nil => exact ⟨_,rfl,rfl⟩
  | cons c tail =>
    have only := path_only query fragment
    by_cases slash : isSlash c = true
    · have dropped : ∀ text, dropSlash (c :: text) = text := fun text => if_pos slash
      rw [List.cons_append, dropped, dropped] at *
      have nonempty : tail ≠ [] := by
        rintro rfl
        rw [bare c rfl] at slash
        cases slash
      have slashed : ∀ d ∈ tail ++ ['/'], endsPath d = false := by
        intro d member
        rcases List.mem_append.mp member with inside | last
        · exact only d inside
        · rw [List.mem_singleton.mp last]; decide
      obtain ⟨taken,left⟩ := takeWhile_path only
      obtain ⟨takenSlashed,leftSlashed⟩ := takeWhile_path slashed
      rw [Rules.withPath, Rules.withPath, taken, left, takenSlashed, leftSlashed]
      refine ⟨_,rfl,resolvePath_slash [] nonempty fun d member => bare d ?_⟩
      rw [List.getLast?_cons_of_ne_nil nonempty]
      exact member
    · rw [dropSlash, if_neg slash] at only
      have ends := starts c rfl
      rw [endsAuthority, only c List.mem_cons_self, Bool.or_false] at ends
      exact absurd ends slash

theorem getLast?_of_suffix {text rest : List Char} (suffix : rest <:+ text) {c : Char}
    (last : c ∈ rest.getLast?) : c ∈ text.getLast? := by
  obtain ⟨before,rfl⟩ := suffix
  rw [List.getLast?_append, Option.mem_def.mp last]
  rfl

theorem parseScheme_suffix {text rest : List Char} {scheme : String}
    (parsed : parseScheme text = some (scheme,rest)) : rest <:+ text := by
  unfold parseScheme at parsed
  split at parsed
  · split at parsed
    · next dropped =>
      cases parsed
      exact (List.suffix_cons ':' rest).trans (dropped ▸ List.dropWhile_suffix isSchemeChar)
    · cases parsed
  · cases parsed

theorem authority_eq_some {scheme : String} {text : List Char} {url : Url} :
    rules.authority scheme text = some url ↔
      ∃ hostText portText host port, splitHost false (hostPortText text) = (hostText,portText) ∧
        hostText ≠ [] ∧ rules.host hostText = some host ∧ parsePort scheme portText = some port ∧
        url = ⟨scheme,rules.username (userinfoText text),rules.password (userinfoText text),some host,port,
          [],false,none,none⟩ := by
  constructor
  · intro named
    unfold Rules.authority at named
    dsimp only at named
    split at named
    · cases named
    next nonempty =>
    split at named
    · next host port denoted numbered =>
      exact ⟨_,_,host,port,rfl,by simpa using nonempty,denoted,numbered,(Option.some.inj named).symm⟩
    · cases named
  · rintro ⟨hostText,portText,host,port,split,nonempty,denoted,numbered,rfl⟩
    have filled : ¬hostText.isEmpty = true := by simpa using nonempty
    simp only [Rules.authority, split, denoted, numbered]
    exact if_neg filled

theorem authority_scheme {scheme : String} {text : List Char} {url : Url}
    (named : rules.authority scheme text = some url) : url.scheme = scheme := by
  obtain ⟨_,_,_,_,-,-,-,-,rfl⟩ := authority_eq_some.mp named
  rfl

/-- A special URL is read from what follows its slashes. -/
theorem parse_special_iff {value : String} {url : Url} :
    (rules.parse value = some url ∧ isSpecial url.scheme = true) ↔
      ∃ scheme rest base, parseScheme (clean value.toList) = some (scheme,rest) ∧ isSpecial scheme = true ∧
        rules.authority scheme ((rest.dropWhile isSlash).takeWhile (!endsAuthority ·)) = some base ∧
        url = rules.withPath base [] (dropSlash ((rest.dropWhile isSlash).dropWhile (!endsAuthority ·))) := by
  constructor
  · rintro ⟨parsed,special⟩
    obtain ⟨⟨scheme,rest⟩,begun,read⟩ := Option.bind_eq_some_iff.mp parsed
    dsimp only [Rules.parseWithScheme] at read
    split at read
    · next specialScheme =>
      obtain ⟨base,named,same⟩ := Option.map_eq_some_iff.mp read
      exact ⟨scheme,rest,base,begun,specialScheme,named,same.symm⟩
    · next plain =>
      rw [rules.other_scheme _ _ _ read] at special
      exact absurd special plain
  · rintro ⟨scheme,rest,base,begun,special,named,rfl⟩
    refine ⟨?_,(authority_scheme named).symm ▸ special⟩
    rw [Rules.parse, begun, Option.bind_some, Rules.parseWithScheme, if_pos special, Rules.parseAuthority, named,
      Option.map_some]

theorem parse_slash {value slashed : String} {url : Url} (parsed : rules.parse value = some url)
    (special : isSpecial url.scheme = true) (query : url.query = none) (fragment : url.fragment = none)
    (bare : ∀ c ∈ (clean value.toList).getLast?, isSlash c = false)
    (added : clean slashed.toList = clean value.toList ++ ['/']) :
    ∃ path, rules.parse slashed = some { url with path := path } ∧
      Url.popIfEmpty path = Url.popIfEmpty url.path := by
  obtain ⟨scheme,rest,base,begun,specialScheme,named,rfl⟩ := parse_special_iff.mp ⟨parsed,special⟩
  have nonempty : rest.dropWhile isSlash ≠ [] := by
    intro empty
    rw [empty] at named
    cases named
  have ends : ∀ c ∈ ((rest.dropWhile isSlash).dropWhile (!endsAuthority ·)).head?, endsAuthority c = true := by
    intro c head
    simpa using dropWhile_stops (!endsAuthority ·) (rest.dropWhile isSlash) c head
  have suffix : (rest.dropWhile isSlash).dropWhile (!endsAuthority ·) <:+ clean value.toList :=
    ((List.dropWhile_suffix _).trans (List.dropWhile_suffix _)).trans (parseScheme_suffix begun)
  obtain ⟨path,same,popped⟩ := withPath_slash ends query fragment
    fun c last => bare c (getLast?_of_suffix suffix last)
  refine ⟨path,(parse_special_iff.mpr ⟨scheme,rest ++ ['/'],base,?_,specialScheme,?_,?_⟩).1,popped⟩
  · rw [added]
    exact parseScheme_snoc '/' begun
  · rw [List.dropWhile_append, if_neg (by simpa using nonempty), takeWhile_snoc (by decide), named]
  · rw [List.dropWhile_append, if_neg (by simpa using nonempty), dropWhile_snoc (by decide), same]

/-- A slash behind a text that nothing is stripped from. -/
theorem clean_slash {text : List Char} (nonempty : text ≠ []) (kept : ∀ c ∈ text.getLast?, isStripped c = false) :
    clean (text ++ ['/']) = clean text ++ ['/'] := by
  obtain ⟨text,c,rfl⟩ := (List.eq_nil_or_concat' text).resolve_left nonempty
  have ends : isStripped c = false := kept c (by simp)
  have slash : isStripped '/' = false := by decide
  rw [clean, clean, dropWhile_snoc slash, List.rdropWhile_concat_neg _ _ _ (by simp [slash]),
    dropWhile_snoc ends, List.rdropWhile_concat_neg _ _ _ (by simp [ends]), List.filter_append]
  rfl

/-- A parsed special URL has no dot segments. -/
theorem parse_dotless {value : String} {url : Url} (parsed : rules.parse value = some url)
    (special : isSpecial url.scheme = true) : Dotless url.path := by
  obtain ⟨scheme,rest,base,-,-,-,rfl⟩ := parse_special_iff.mp ⟨parsed,special⟩
  exact resolve_dotless (fun segment member => absurd member List.not_mem_nil) _

end Slash

section PathText

/-- A text below a path that ends with a slash stands behind the text of the path. -/
theorem pathText_below {url : Url} {path : List (List Char)} (mounted : url.path = path ++ [[]]) (text : List Char) :
    ({ url with path := path ++ text.splitOn '/' } : Url).pathText = url.pathText ++ String.ofList text := by
  rw [Url.pathText, Url.pathText, mounted, ← String.toList_inj]
  simp [slashes_splitOn]

end PathText

end Web
