import IntakeApi.Settings
import IntakeApi.Library.Uri

/-! The CORS allow-list. Its items are checked as parsed URIs and listed as they are written, so
that some items are listed which no browser sends as an origin. -/
namespace IntakeApi

open Web (Uri UriRules IsHttpsOrigin IsLooseOrigin)

inductive CorsError where
  | message (text : String)
  | uri
  | header
  deriving DecidableEq

structure CorsLayer where
  allowOrigin : List (List UInt8)
  allowMethods : List String
  allowHeaders : List String

/-- What the HTTP library takes for a URI, and the bytes it takes in a header value. -/
structure HttpRules extends UriRules where
  isHeaderByte : UInt8 → Bool
  isHeaderByte_visible : ∀ byte, isVisible byte = true → isHeaderByte byte = true

def listHeader (origins : List (List UInt8)) (header : List UInt8) : List (List UInt8) :=
  if origins.contains header then origins else origins ++ [header]

section Layer

variable (rules : HttpRules)

def headerValue (text : String) : Option (List UInt8) :=
  if (asBytes text).all rules.isHeaderByte then some (asBytes text) else none

/-- The body of the loop, with the origins it holds. -/
def corsOrigin (origins : List (List UInt8)) (origin : String) : Except CorsError (List (List UInt8)) :=
  if origin = "*" then .error (.message "CORS_ORIGINS must not contain a wildcard")
  else match rules.parse origin with
  | none => .error .uri
  | some uri =>
    if uri.scheme ≠ some "https" || uri.authority.isNone || uri.path ≠ "/" || uri.query.isSome then
      .error (.message "CORS origin must be an exact HTTPS origin")
    else match headerValue rules origin with
    | none => .error .header
    | some header => .ok (listHeader origins header)

def corsOrigins (origins : List (List UInt8)) : List String → Except CorsError (List (List UInt8))
  | [] => .ok origins
  | origin :: rest => (corsOrigin rules origins origin).bind fun origins => corsOrigins origins rest

def corsLayer (raw : String) : Except CorsError CorsLayer :=
  (corsOrigins rules [] (splitCsv raw)).bind fun origins =>
    if origins.isEmpty then .error (.message "CORS_ORIGINS must contain at least one exact origin")
    else .ok ⟨origins,["GET", "POST"],["content-type", "authorization", "idempotency-key"]⟩

end Layer

structure Listable (rules : HttpRules) (item : String) : Prop where
  loose : IsLooseOrigin rules.toUriRules item
  header : ∀ byte ∈ asBytes item, rules.isHeaderByte byte = true

section Items

variable {rules : HttpRules}

theorem corsOrigin_ok {origins listed : List (List UInt8)} {item : String} :
    corsOrigin rules origins item = .ok listed ↔
      Listable rules item ∧ listed = listHeader origins (asBytes item) := by
  constructor
  · intro accepted
    unfold corsOrigin at accepted
    split at accepted
    · cases accepted
    split at accepted
    · cases accepted
    next uri parsed =>
    split at accepted
    · cases accepted
    next exact =>
    split at accepted
    · cases accepted
    next header valid =>
    simp only [Bool.or_eq_true, not_or, decide_eq_true_eq, not_not, Bool.not_eq_true,
      Option.isSome_eq_false_iff, Option.isNone_iff_eq_none] at exact
    obtain ⟨⟨⟨scheme,present⟩,path⟩,query⟩ := exact
    unfold headerValue at valid
    split at valid
    · next visible =>
      cases valid
      cases accepted
      exact ⟨⟨Web.parse_loose.mp ⟨uri,parsed,scheme,Option.isSome_iff_ne_none.mpr present,path,query⟩,
        List.all_eq_true.mp visible⟩,rfl⟩
    · cases valid
  · rintro ⟨⟨loose,visible⟩,rfl⟩
    obtain ⟨uri,parsed,scheme,present,path,query⟩ := Web.parse_loose.mpr loose
    have other : item ≠ "*" := by
      rintro rfl
      obtain ⟨-,scheme,authority,slash,fragment,whole,https,-⟩ := loose
      have sizes := congrArg List.length whole
      have size := congrArg List.length https
      have star : "*".toList.length = 1 := rfl
      have eight : "https://".toList.length = 8 := rfl
      rw [List.length_map, eight] at size
      rw [List.length_append, size, star] at sizes
      omega
    have valid : headerValue rules item = some (asBytes item) := if_pos (List.all_eq_true.mpr visible)
    simp [corsOrigin, other, parsed, scheme, path, query, valid, Option.isSome_iff_ne_none.mp present]

theorem listHeader_nodup {origins : List (List UInt8)} (header : List UInt8) (apart : origins.Nodup) :
    (listHeader origins header).Nodup := by
  unfold listHeader
  split
  · exact apart
  · next absent =>
    refine List.nodup_append.mpr ⟨apart,List.pairwise_singleton _ header,fun a member b last => ?_⟩
    rintro rfl
    rw [List.mem_singleton] at last
    exact absent (List.contains_iff_mem.mpr (last ▸ member))

theorem mem_listHeader {origins : List (List UInt8)} {header other : List UInt8} :
    other ∈ listHeader origins header ↔ other ∈ origins ∨ other = header := by
  unfold listHeader
  split
  · next present =>
    have member := List.contains_iff_mem.mp present
    exact ⟨.inl,fun either => either.elim id fun same => same ▸ member⟩
  · rw [List.mem_append, List.mem_singleton]

/-- What the loop lists: every item, and none twice. -/
theorem corsOrigins_ok {origins listed : List (List UInt8)} {items : List String}
    (loop : corsOrigins rules origins items = .ok listed) (apart : origins.Nodup) :
    (∀ item ∈ items, Listable rules item) ∧ listed.Nodup ∧
      ∀ header, header ∈ listed ↔ header ∈ origins ∨ ∃ item ∈ items, header = asBytes item := by
  induction items generalizing origins with
  | nil =>
    cases loop
    exact ⟨fun item member => absurd member List.not_mem_nil,apart,by simp⟩
  | cons item items ih =>
    unfold corsOrigins at loop
    cases first : corsOrigin rules origins item with
    | error => rw [first] at loop; cases loop
    | ok next =>
      rw [first] at loop
      obtain ⟨listable,rfl⟩ := corsOrigin_ok.mp first
      obtain ⟨rest,unique,members⟩ := ih loop (listHeader_nodup _ apart)
      refine ⟨List.forall_mem_cons.mpr ⟨listable,rest⟩,unique,fun header => ?_⟩
      rw [members, mem_listHeader, or_assoc]
      simp

theorem corsOrigins_listable {items : List String} (origins : List (List UInt8))
    (listable : ∀ item ∈ items, Listable rules item) : ∃ listed, corsOrigins rules origins items = .ok listed := by
  induction items generalizing origins with
  | nil => exact ⟨origins,rfl⟩
  | cons item items ih =>
    have first := corsOrigin_ok.mpr
      ⟨listable item List.mem_cons_self,@rfl _ (listHeader origins (asBytes item))⟩
    rw [corsOrigins, first]
    exact ih _ fun other member => listable other (List.mem_cons_of_mem _ member)

/-- The allow-list of a layer that is built. -/
theorem corsLayer_origins {raw : String} {layer : CorsLayer} (built : corsLayer rules raw = .ok layer) :
    (splitCsv raw ≠ [] ∧ ∀ item ∈ splitCsv raw, Listable rules item) ∧ layer.allowOrigin.Nodup ∧
      ∀ header, header ∈ layer.allowOrigin ↔ ∃ item ∈ splitCsv raw, header = asBytes item := by
  unfold corsLayer at built
  cases loop : corsOrigins rules [] (splitCsv raw) with
  | error => rw [loop] at built; cases built
  | ok origins =>
    rw [loop] at built
    simp only [Except.bind] at built
    split at built
    · cases built
    next filled =>
    cases built
    obtain ⟨listable,unique,members⟩ := corsOrigins_ok loop List.nodup_nil
    have named : ∀ header, header ∈ origins ↔ ∃ item ∈ splitCsv raw, header = asBytes item := fun header =>
      (members header).trans (or_iff_right List.not_mem_nil)
    refine ⟨⟨fun empty => filled ?_,listable⟩,unique,named⟩
    rw [List.isEmpty_iff, List.eq_nil_iff_forall_not_mem]
    intro header member
    obtain ⟨item,there,-⟩ := (named header).mp member
    exact absurd (empty ▸ there) List.not_mem_nil

/-- A layer is built just where there are items and all can be listed. -/
theorem corsLayer_ok {raw : String} : (∃ layer, corsLayer rules raw = .ok layer) ↔
    splitCsv raw ≠ [] ∧ ∀ item ∈ splitCsv raw, Listable rules item := by
  constructor
  · rintro ⟨layer,built⟩
    exact (corsLayer_origins built).1
  · rintro ⟨some_item,listable⟩
    obtain ⟨origins,loop⟩ := corsOrigins_listable [] listable
    obtain ⟨-,-,members⟩ := corsOrigins_ok loop List.nodup_nil
    obtain ⟨item,member⟩ := List.exists_mem_of_ne_nil _ some_item
    have filled : origins ≠ [] := List.ne_nil_of_mem ((members _).mpr (.inr ⟨item,member,rfl⟩))
    exact ⟨_,by rw [corsLayer, loop, Except.bind, if_neg (by simpa using filled)]⟩

theorem isHostChar_visible {c : Char} (char : Web.isHostChar c = true) :
    c.toNat < 128 ∧ isVisible (UInt8.ofNat c.toNat) = true := by
  have bound : c.toNat < 128 := by
    have marks : ∀ c ∈ Web.hostMarks ++ [':', '[', ']'], c.toNat < 128 := List.forall_iff_forall_mem.mp (by decide)
    have letters (alphanumeric : (c.isUpper || c.isLower || c.isDigit) = true) : c.toNat < 128 :=
      isAlphanumeric_ascii ((isAlphanumeric_eq c).trans alphanumeric)
    simp only [Bool.or_eq_true] at letters
    simp only [Web.isHostChar, Web.isDomainChar, Bool.or_eq_true, List.contains_iff_mem, beq_iff_eq] at char
    grind
  have table : ∀ n < 128, Web.isHostChar (Char.ofNat n) = true → isVisible (UInt8.ofNat n) = true := by
    decide +kernel
  refine ⟨bound,table _ bound ?_⟩
  rw [Char.ofNat_toNat]
  exact char

theorem listable_of_origin {isKept : List Char → Prop} {item : String} (origin : IsHttpsOrigin isKept item.toList)
    (short : item.utf8ByteSize ≤ Web.maxUriLength) : Listable rules item := by
  refine ⟨Web.loose_of_origin origin short,?_⟩
  obtain ⟨host,port,whole,named,numbered⟩ := origin
  have visible : ∀ c ∈ item.toList, c.toNat < 128 ∧ isVisible (UInt8.ofNat c.toNat) = true := by
    rw [whole]
    intro c member
    rcases List.mem_append.mp member with scheme | behind
    · have letters : ∀ c ∈ "https://".toList, c.toNat < 128 ∧ isVisible (UInt8.ofNat c.toNat) = true :=
        List.forall_iff_forall_mem.mp (by decide)
      exact letters c scheme
    · rcases List.mem_append.mp behind with inside | inside
      · exact isHostChar_visible (Web.isOriginHost_chars named c inside)
      · exact isHostChar_visible (Web.isOriginPort_chars numbered c inside)
  have bytes := asBytes_ascii item.toList fun c member => (visible c member).1
  rw [String.ofList_toList] at bytes
  rw [bytes]
  intro byte member
  obtain ⟨c,there,rfl⟩ := List.mem_map.mp member
  exact rules.isHeaderByte_visible _ (visible c there).2

end Items

/-- The configuration is accepted just where it lists exact origins, which then are the allow-list,
unless all its items can be listed and one is no exact origin, or all are exact origins and one is too
long to be parsed. -/
theorem cors_exact_origins (rules : HttpRules) (isKept : List Char → Prop) (raw : String) :
    (((∃ layer, corsLayer rules raw = .ok layer) ↔
        splitCsv raw ≠ [] ∧ ∀ item ∈ splitCsv raw, IsHttpsOrigin isKept item.toList) ∧
      ∀ layer, corsLayer rules raw = .ok layer → layer.allowOrigin.Nodup ∧
        ∀ header, header ∈ layer.allowOrigin ↔
          ∃ item ∈ splitCsv raw, header = asBytes item ∧ IsHttpsOrigin isKept item.toList) ↔
      ¬((∀ item ∈ splitCsv raw, Listable rules item) ∧ ∃ item ∈ splitCsv raw, ¬IsHttpsOrigin isKept item.toList) ∧
      ¬((∀ item ∈ splitCsv raw, IsHttpsOrigin isKept item.toList) ∧
        ∃ item ∈ splitCsv raw, Web.maxUriLength < item.utf8ByteSize) := by
  constructor
  · rintro ⟨⟨sound,complete⟩,-⟩
    constructor
    · rintro ⟨listable,item,member,inexact⟩
      have built := corsLayer_ok.mpr ⟨List.ne_nil_of_mem member,listable⟩
      exact inexact ((sound built).2 item member)
    · rintro ⟨origins,item,member,long⟩
      have listable := (corsLayer_ok.mp (complete ⟨List.ne_nil_of_mem member,origins⟩)).2 item member
      exact Nat.not_le.mpr long listable.loose.1
  · rintro ⟨strict,fitting⟩
    have exact_items : (∀ item ∈ splitCsv raw, Listable rules item) →
        ∀ item ∈ splitCsv raw, IsHttpsOrigin isKept item.toList := fun listable item member =>
      Classical.byContradiction fun inexact => strict ⟨listable,item,member,inexact⟩
    refine ⟨?_,fun layer built => ?_⟩
    · rw [corsLayer_ok]
      refine and_congr_right fun _ => ⟨exact_items,fun origins item member => ?_⟩
      refine listable_of_origin (origins item member) (Nat.not_lt.mp fun long => ?_)
      exact fitting ⟨origins,item,member,long⟩
    · obtain ⟨⟨-,listable⟩,unique,members⟩ := corsLayer_origins built
      refine ⟨unique,fun header => (members header).trans ?_⟩
      exact exists_congr fun item => and_congr_right fun member =>
        (and_iff_left (exact_items listable item member)).symm

/-- Takes the characters of origins in an authority and the root as a path. -/
def Sample.httpRules : HttpRules where
  isAuthority authority := authority.all Web.isHostChar
  isPathAndQuery kept := kept.isEmpty || kept == ['/']
  other _ := none
  isHeaderByte := isVisible
  isAuthority_origin host port named numbered := by
    rw [List.all_eq_true]
    intro c member
    rcases List.mem_append.mp member with inside | inside
    · exact Web.isOriginHost_chars named c inside
    · exact Web.isOriginPort_chars numbered c inside
  isPathAndQuery_root := by decide
  other_scheme := by simp
  isHeaderByte_visible _ visible := visible

theorem cors_trailing_slash :
    ((corsLayer Sample.httpRules "https://hhaus.org/").toOption.map CorsLayer.allowOrigin =
        some [asBytes "https://hhaus.org/"]) ∧
      "https://hhaus.org/" ∈ splitCsv "https://hhaus.org/" ∧
      ∀ isKept, ¬IsHttpsOrigin isKept "https://hhaus.org/".toList := by
  refine ⟨by decide +kernel,by decide +kernel,fun isKept => ?_⟩
  rintro ⟨host,port,whole,named,numbered⟩
  have joined : "https://".toList ++ "hhaus.org/".toList = "https://".toList ++ (host ++ port) := whole
  have behind : "hhaus.org/".toList = host ++ port := List.append_cancel_left joined
  have slash : '/' ∈ host ++ port := behind ▸ by decide
  have apart : Web.isHostChar '/' = false := by decide
  rcases List.mem_append.mp slash with inside | inside
  · rw [Web.isOriginHost_chars named _ inside] at apart; cases apart
  · rw [Web.isOriginPort_chars numbered _ inside] at apart; cases apart

end IntakeApi
