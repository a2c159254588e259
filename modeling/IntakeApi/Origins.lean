import IntakeApi.Admittance
import IntakeApi.Endpoint
import IntakeApi.Library.UrlText

/-! Which `Origin` headers settle a source host: every text that the URL parser reads as the root
of an intake host, and not the exact origins only. -/
namespace IntakeApi

open Web (Url Rules Spelling)

def originOf (url : Url) : Origin := ⟨url.scheme,url.host,url.pathText,url.query,url.fragment⟩

/-- The state of an application with this URL parser. -/
def AppState.withUrls (state : AppState) (rules : Rules) : AppState :=
  { state with parseUrl := fun text => (rules.parse text).map originOf }

def HeaderMap.origin (headers : HeaderMap) : Option String := (headers.get "origin").bind toStr

/-- A text for the root of a host over TLS: any user info, any port and any path that resolves to the
root may stand in it, the scheme in any case, slashes in any number and either direction. -/
def SpellsRoot (rules : Rules) (text host : String) : Prop :=
  ∃ s : Spelling, s.Valid ∧ Web.clean text.toList = s.text ∧ s.schemeName = "https" ∧
    rules.host s.host = some host ∧ (∃ port, Web.parsePort "https" s.port = some port) ∧
    (∀ c ∈ s.rest, Web.endsPath c = false) ∧ rules.resolvePath [] (Web.dropSlash s.rest) = [[]]

section Root

variable {rules : Rules}

theorem pathText_root {url : Url} : url.pathText = "/" ↔ url.path = [[]] := by
  rw [Url.pathText, ← String.toList_inj, String.toList_ofList]
  constructor
  · intro root
    cases path : url.path with
    | nil => rw [path] at root; cases root
    | cons segment rest =>
      rw [path] at root
      obtain ⟨-,empty⟩ := List.cons.inj root
      obtain ⟨first,last⟩ := List.append_eq_nil_iff.mp empty
      cases rest with
      | nil => rw [first]
      | cons next rest => cases last
  · intro root
    rw [root]
    rfl

theorem dropSlash_bare {rest : List Char} :
    (∀ c ∈ Web.dropSlash rest, Web.endsPath c = false) ↔ ∀ c ∈ rest, Web.endsPath c = false := by
  cases rest with
  | nil => exact Iff.rfl
  | cons c rest =>
    by_cases slash : Web.isSlash c = true
    · have bare : Web.endsPath c = false := by
        have known : c = '/' ∨ c = '\\' := by simpa [Web.isSlash] using slash
        rcases known with rfl | rfl <;> decide
      rw [Web.dropSlash, if_pos slash, List.forall_mem_cons]
      exact (and_iff_right bare).symm
    · rw [Web.dropSlash, if_neg slash]

/-- A path that is all of its text has neither query nor fragment behind it. -/
theorem withPath_bare {base : Url} {text : List Char} :
    ((rules.withPath base [] text).query = none ∧ (rules.withPath base [] text).fragment = none) ↔
      ∀ c ∈ text, Web.endsPath c = false := by
  constructor
  · rintro ⟨query,fragment⟩
    exact Web.path_only query fragment
  · intro bare
    obtain ⟨-,left⟩ := Web.takeWhile_path bare
    rw [Rules.withPath, left]
    exact ⟨rfl,rfl⟩

theorem withPath_root {base : Url} {text : List Char} (bare : ∀ c ∈ text, Web.endsPath c = false) :
    (rules.withPath base [] text).pathText = "/" ↔ rules.resolvePath [] text = [[]] := by
  obtain ⟨taken,-⟩ := Web.takeWhile_path bare
  rw [pathText_root, Rules.withPath, taken]

theorem parse_root {text host : String} :
    (∃ url, rules.parse text = some url ∧ url.scheme = "https" ∧ url.pathText = "/" ∧ url.query = none ∧
      url.fragment = none ∧ url.host = some host) ↔ SpellsRoot rules text host := by
  constructor
  · rintro ⟨url,parsed,scheme,root,query,fragment,named⟩
    have special : Web.isSpecial url.scheme = true := by rw [scheme]; decide
    obtain ⟨s,valid,whole,-,other,port,denoted,numbered,rfl⟩ :=
      Web.parse_special_spelled.mp ⟨parsed,special⟩
    have name : s.schemeName = "https" := scheme
    have same : other = host := Option.some.inj named
    subst same
    have bare := withPath_bare.mp ⟨query,fragment⟩
    exact ⟨s,valid,whole,name,denoted,⟨port,name ▸ numbered⟩,dropSlash_bare.mp bare,(withPath_root bare).mp root⟩
  · rintro ⟨s,valid,whole,name,denoted,⟨port,numbered⟩,bare,root⟩
    have special : Web.isSpecial s.schemeName = true := by rw [name]; decide
    obtain ⟨parsed,-⟩ := Web.parse_special_spelled.mpr
      ⟨s,valid,whole,special,host,port,denoted,name.symm ▸ numbered,rfl⟩
    have inside := dropSlash_bare.mpr bare
    obtain ⟨query,fragment⟩ := (@withPath_bare rules (s.base rules host port) _).mpr inside
    exact ⟨_,parsed,name,(withPath_root inside).mpr root,query,fragment,rfl⟩

theorem sourceHost_iff {state : AppState} {headers : HeaderMap} {host : String} :
    ((state.withUrls rules).admission headers).sourceHost = .ok host ↔
      ∃ text, headers.origin = some text ∧ Admission.isIntakeHost host = true ∧ SpellsRoot rules text host := by
  have origin : ((state.withUrls rules).admission headers).origin =
      headers.origin.bind fun text => (rules.parse text).map originOf := rfl
  unfold Admission.sourceHost
  rw [origin]
  cases present : headers.origin with
  | none => simp
  | some text =>
    simp only [Option.bind_some, Option.some.injEq, exists_eq_left', ← parse_root]
    cases parsed : rules.parse text with
    | none => simp
    | some url =>
      simp only [Option.map_some, originOf, Option.some.injEq, exists_eq_left']
      split
      · next refused =>
        refine iff_of_false (fun found => by cases found) ?_
        rintro ⟨-,scheme,root,query,fragment,-⟩
        simp [scheme, root, query, fragment] at refused
      · next checked =>
        simp only [Bool.or_eq_true, not_or, decide_eq_true_eq, not_not, Bool.not_eq_true,
          Option.isSome_eq_false_iff, Option.isNone_iff_eq_none] at checked
        obtain ⟨⟨⟨scheme,root⟩,query⟩,fragment⟩ := checked
        simp only [scheme, root, query, fragment, true_and]
        cases named : url.host with
        | none => simp
        | some other =>
          simp only [Option.some.injEq]
          split
          · next known =>
            constructor
            · intro found; cases found; exact ⟨known,rfl⟩
            · rintro ⟨-,rfl⟩; rfl
          · next unknown =>
            refine iff_of_false (fun found => by cases found) ?_
            rintro ⟨known,rfl⟩
            exact unknown known

def exactSpelling (host : String) : Spelling := ⟨"https".toList,"//".toList,[],host.toList,[],[]⟩

theorem exactSpelling_valid {host : String} (known : Admission.isIntakeHost host = true) :
    (exactSpelling host).Valid := by
  have pieces : ∀ host ∈ ["hhaus.org", "www.hhaus.org", "user.hhaus.org", "medellin.hhaus.org"],
      (∀ c ∈ (exactSpelling host).authority, Web.endsAuthority c = false) ∧ (exactSpelling host).host ≠ [] ∧
        '@' ∉ (exactSpelling host).host ++ (exactSpelling host).port ∧
        Web.splitHost false ((exactSpelling host).host ++ (exactSpelling host).port) =
          ((exactSpelling host).host,(exactSpelling host).port) := by
    simp only [← List.forall_iff_forall_mem]
    decide
  have chars : ∀ c ∈ "https".toList, Web.isSchemeChar c = true := List.forall_iff_forall_mem.mp (by decide)
  have slashes : ∀ c ∈ "//".toList, Web.isSlash c = true := List.forall_iff_forall_mem.mp (by decide)
  obtain ⟨authority,nonempty,bare,split⟩ := pieces host (List.contains_iff_mem.mp known)
  exact
    { letter := rfl
      scheme := chars
      slashes := slashes
      authority := authority
      userinfo := fun c last => by cases last
      host := nonempty
      bare := bare
      split := split
      rest := fun c head => by cases head }

theorem exact_spells {host : String} (known : Admission.isIntakeHost host = true) :
    SpellsRoot rules ("https://" ++ host) host := by
  have hosts : ∀ host ∈ ["hhaus.org", "www.hhaus.org", "user.hhaus.org", "medellin.hhaus.org"],
      (∀ c ∈ host.toList, c.isLower = true ∨ c = '.') ∧ [] ∉ host.toList.splitOn '.' ∧
        Web.clean ("https://" ++ host).toList = (exactSpelling host).text := by
    simp only [← List.forall_iff_forall_mem]
    decide
  obtain ⟨letters,labels,clean⟩ := hosts host (List.contains_iff_mem.mp known)
  have denoted := rules.host_letters host.toList letters labels
  rw [String.ofList_toList] at denoted
  exact ⟨exactSpelling host,exactSpelling_valid known,clean,rfl,denoted,⟨none,rfl⟩,
    fun c member => absurd member List.not_mem_nil,rfl⟩

theorem exact_readable {host : String} (known : Admission.isIntakeHost host = true) :
    toStr (asBytes ("https://" ++ host)) = some ("https://" ++ host) := by
  have visible : ∀ host ∈ ["hhaus.org", "www.hhaus.org", "user.hhaus.org", "medellin.hhaus.org"],
      ∀ c ∈ ("https://" ++ host).toList, c.toNat < 128 ∧ isVisible (UInt8.ofNat c.toNat) = true := by
    simp only [← List.forall_iff_forall_mem]
    decide
  exact toStr_asBytes (visible host (List.contains_iff_mem.mp known))

end Root

/-- The first `Origin` header settles a host just where it is that host's exact origin, in requests
whose `Origin` is not another text for the root of an intake host. -/
theorem exact_origins (rules : Rules) (state : AppState) (headers : HeaderMap) :
    ((∀ host, ((state.withUrls rules).admission headers).sourceHost = .ok host ↔
        headers.get "origin" = some (asBytes ("https://" ++ host)) ∧ Admission.isIntakeHost host = true) ∧
      ∀ failure, ((state.withUrls rules).admission headers).sourceHost = .error failure →
        failure = .invalid ∧ failure.status = 422) ↔
      ¬∃ text host, headers.origin = some text ∧ Admission.isIntakeHost host = true ∧
        SpellsRoot rules text host ∧ text ≠ "https://" ++ host := by
  constructor
  · rintro ⟨settles,-⟩ ⟨text,host,present,known,spells,other⟩
    obtain ⟨exact,-⟩ := (settles host).mp (sourceHost_iff.mpr ⟨text,present,known,spells⟩)
    rw [HeaderMap.origin, exact, Option.bind_some, exact_readable known] at present
    exact other (Option.some.inj present).symm
  · intro strict
    refine ⟨fun host => ⟨fun settled => ?_,?_⟩,fun failure failed => ?_⟩
    · obtain ⟨text,present,known,spells⟩ := sourceHost_iff.mp settled
      have same : text = "https://" ++ host :=
        Classical.byContradiction fun other => strict ⟨text,host,present,known,spells,other⟩
      obtain ⟨value,first,readable⟩ := Option.bind_eq_some_iff.mp present
      exact ⟨by rw [first, ← same, (toStr_some readable).1],known⟩
    · rintro ⟨first,known⟩
      refine sourceHost_iff.mpr ⟨_,?_,known,exact_spells known⟩
      rw [HeaderMap.origin, first, Option.bind_some, exact_readable known]
    · rw [Admission.sourceHost_error failed]
      exact ⟨rfl,rfl⟩

/-- A port of one's own is accepted. -/
theorem origin_with_port :
    ((Sample.state.withUrls Sample.rules).admission [("origin",asBytes "https://hhaus.org:8443")]).sourceHost =
      .ok "hhaus.org" ∧
    HeaderMap.get [("origin",asBytes "https://hhaus.org:8443")] "origin" ≠
      some (asBytes ("https://" ++ "hhaus.org")) :=
  ⟨by rfl,by decide⟩

end IntakeApi
