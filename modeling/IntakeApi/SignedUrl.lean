import IntakeApi.Objects
import IntakeApi.Library.UrlText

/-! The URL of a signed upload. What the storage service answers is resolved and checked in part,
so that some answers lead to another place than the object that was asked for. -/
namespace IntakeApi

open Web (Url Rules Spelling)

/-- `queryPairs` decodes a query, `write` spells a URL out, and `post` is what the storage service
answers there, if it can be reached. -/
structure StorageClient where
  rules : Rules
  projectUrl : Url
  queryPairs : String → List (String × String)
  write : Url → String
  post : String → Except Unit SignedUploadReply

/-- What a text that is not an absolute URL is read as, below the storage base. -/
def signedSuffix (text : String) : String :=
  let suffix := (stripPrefix "/" text).getD text
  (stripPrefix "object/" suffix).getD suffix

/-- Its reference to an object. -/
def reference (text : String) : List Char := Web.clean ("object/" ++ signedSuffix text).toList

def signRoot : String := "/storage/v1/object/upload/sign/"

def objectPath (objectKey : String) : String := signRoot ++ "hhm-intake-private/" ++ objectKey

namespace StorageClient

variable (client : StorageClient)

/-- The URL that the text of a response names. -/
def signedUrl (text : String) : Option Url :=
  if startsWith "https://" text then client.rules.parse text
  else some (client.rules.join (storageBase client.rules client.projectUrl) ("object/" ++ signedSuffix text))

def createSignedUploadUrl (objectKey : String) : Except ExternalError Url :=
  if !validateObjectKey objectKey then .error .invalidResponse
  else match client.post (client.write (objectEndpoint client.rules client.projectUrl signFolder objectKey)) with
  | .error _ => .error .unavailable
  | .ok response =>
    if !isSuccess response.status then .error .unavailable
    else match response.url with
    | none => .error .invalidResponse
    | some text => match client.signedUrl text with
      | none => .error .invalidResponse
      | some url =>
        if url.scheme ≠ "https" || url.host ≠ client.projectUrl.host || !startsWith signRoot url.pathText ||
            (client.queryPairs (url.query.getD "")).all (fun pair => pair.1 ≠ "token") then .error .invalidResponse
        else .ok url

def parsed (url : Url) : ParsedUrl :=
  ⟨url.scheme,url.host,url.pathText,client.queryPairs (url.query.getD ""),client.write url⟩

def storage : SupabaseStorage where
  projectHost := client.projectUrl.host
  join reference := some (client.parsed (client.rules.join (storageBase client.rules client.projectUrl) reference))
  parse text := (client.rules.parse text).map client.parsed
  post endpoint := client.post endpoint.text

def Answers (objectKey text : String) : Prop :=
  ∃ response, client.post (client.write (objectEndpoint client.rules client.projectUrl signFolder objectKey)) =
    .ok response ∧ isSuccess response.status = true ∧ response.url = some text

structure Checked (url : Url) : Prop where
  scheme : url.scheme = "https"
  host : url.host = client.projectUrl.host
  folder : startsWith signRoot url.pathText = true
  token : ∃ pair ∈ client.queryPairs (url.query.getD ""), pair.1 = "token"

/-- The URL is the project's, for the object that was asked for. -/
structure Bound (objectKey : String) (url : Url) : Prop where
  scheme : url.scheme = "https"
  host : url.host = client.projectUrl.host
  port : url.effectivePort = client.projectUrl.effectivePort
  username : url.username = ""
  password : url.password = none
  path : url.pathText = objectPath objectKey
  token : ∃ pair ∈ client.queryPairs (url.query.getD ""), pair.1 = "token"

def pathOf (path : List (List Char)) (text : List Char) : String :=
  String.ofList ((client.rules.resolvePath path (text.takeWhile (!Web.endsPath ·))).flatMap ('/' :: ·))

def storagePath : List (List Char) := client.projectUrl.path.dropLast ++ ["storage".toList, "v1".toList]

/-- A text leads into the folder of signed uploads, with a token. -/
def Enters (path : List (List Char)) (text : List Char) : Prop :=
  startsWith signRoot (client.pathOf path text) = true ∧
    ∃ pair ∈ client.queryPairs ((client.rules.parseQuery (text.dropWhile (!Web.endsPath ·))).getD ""),
      pair.1 = "token"

/-- The answers that lead elsewhere: an absolute URL with the project's host whose text has user info,
another port or the path of another object in it, and a reference which leads to another object, or
to any while the project's own URL has user info. -/
inductive Strays (objectKey : String) : String → Prop where
  | absolute {text : String} {s : Spelling} {port : Option Nat} :
    startsWith "https://" text = true → s.Valid → Web.clean text.toList = s.text → s.schemeName = "https" →
    (∃ host, client.rules.host s.host = some host ∧ client.projectUrl.host = some host) →
    Web.parsePort "https" s.port = some port → client.Enters [] (Web.dropSlash s.rest) →
    ¬(client.rules.username s.userinfo.dropLast = "" ∧ client.rules.password s.userinfo.dropLast = none ∧
      port.or (some 443) = client.projectUrl.effectivePort ∧
      client.pathOf [] (Web.dropSlash s.rest) = objectPath objectKey) → Strays objectKey text
  | relative {text : String} :
    startsWith "https://" text = false → client.Enters client.storagePath (reference text) →
    ¬(client.projectUrl.username = "" ∧ client.projectUrl.password = none ∧
      client.pathOf client.storagePath (reference text) = objectPath objectKey) → Strays objectKey text

section Signed

variable {client : StorageClient} {objectKey text : String} {url : Url}

theorem Bound.checked (bound : client.Bound objectKey url) : client.Checked url := by
  refine ⟨bound.scheme,bound.host,?_,bound.token⟩
  rw [bound.path, objectPath, String.append_assoc, startsWith, String.toList_append, List.isPrefixOf_iff_prefix]
  exact List.prefix_append signRoot.toList _

theorem createSignedUploadUrl_ok : client.createSignedUploadUrl objectKey = .ok url ↔
    validateObjectKey objectKey = true ∧
      ∃ text, client.Answers objectKey text ∧ client.signedUrl text = some url ∧ client.Checked url := by
  constructor
  · intro created
    unfold createSignedUploadUrl at created
    split at created
    · cases created
    next valid =>
    split at created
    · cases created
    next response answered =>
    split at created
    · cases created
    next success =>
    split at created
    · cases created
    next text body =>
    split at created
    · cases created
    next named =>
    split at created
    · cases created
    next checked =>
    cases created
    simp only [Bool.or_eq_true, not_or, decide_eq_true_eq, not_not, Bool.not_eq_true', Bool.not_eq_false,
      List.all_eq_true, not_forall] at checked valid success
    obtain ⟨⟨⟨scheme,host⟩,folder⟩,pair,member,token⟩ := checked
    exact ⟨valid,text,⟨response,answered,success,body⟩,named,scheme,host,folder,pair,member,token⟩
  · rintro ⟨valid,text,⟨response,answered,success,body⟩,named,scheme,host,folder,pair,member,token⟩
    have found : ∃ value, ("token",value) ∈ client.queryPairs (url.query.getD "") := ⟨pair.2,token ▸ member⟩
    simpa [createSignedUploadUrl, valid, answered, success, body, named, scheme, host, folder] using found

/-- The adapter that the requests call is this one, on the texts of its URLs. -/
theorem createSignedUploadUrl_text :
    IntakeApi.createSignedUploadUrl objectKey (client.storage.signUpload objectKey) =
      (client.createSignedUploadUrl objectKey).map client.write := by
  unfold IntakeApi.createSignedUploadUrl createSignedUploadUrl
  by_cases valid : validateObjectKey objectKey = true
  swap
  · simp [valid, Except.map]
  simp only [valid, if_true, Bool.not_true, Bool.false_eq_true, if_false]
  have endpoint : client.storage.join ("object/upload/sign/hhm-intake-private/" ++ objectKey) =
      some (client.parsed (objectEndpoint client.rules client.projectUrl signFolder objectKey)) := rfl
  have answered : client.storage.post (client.parsed (objectEndpoint client.rules client.projectUrl signFolder
      objectKey)) = client.post (client.write (objectEndpoint client.rules client.projectUrl signFolder objectKey)) :=
    rfl
  have named (text : String) : (if startsWith "https://" text then client.storage.parse text
      else client.storage.join ("object/" ++ signedSuffix text)) = (client.signedUrl text).map client.parsed := by
    unfold signedUrl
    split <;> rfl
  rw [SupabaseStorage.signUpload, endpoint]
  dsimp only
  rw [answered]
  cases client.post (client.write (objectEndpoint client.rules client.projectUrl signFolder objectKey)) with
  | error => rfl
  | ok response =>
    dsimp only
    by_cases success : isSuccess response.status = true
    swap
    · simp [success, Except.map]
    simp only [success, Bool.not_true, Bool.false_eq_true, if_false]
    cases response.url with
    | none => rfl
    | some text =>
      have read := named text
      unfold signedSuffix at read
      dsimp only at read ⊢
      rw [read]
      cases client.signedUrl text with
      | none => rfl
      | some url =>
        have root : signRoot = "/storage/v1/object/upload/sign/" := rfl
        have host : client.storage.projectHost = client.projectUrl.host := rfl
        simp only [Option.map_some, parsed, root, host]
        split <;> rfl

theorem signedUrl_relative (relative : startsWith "https://" text = false) :
    client.signedUrl text =
      some (client.rules.withPath client.projectUrl client.storagePath (reference text)) := by
  rw [signedUrl, if_neg (by simp [relative]), Rules.join, storageBase_eq, storagePath, reference]
  dsimp only
  rw [List.dropLast_concat]
  rfl

/-- What is resolved below the project keeps all of it in front of the path. -/
theorem checked_below (scheme : client.projectUrl.scheme = "https") {path : List (List Char)} {tail : List Char} :
    client.Checked (client.rules.withPath client.projectUrl path tail) ↔ client.Enters path tail :=
  ⟨fun checked => ⟨checked.folder,checked.token⟩,fun enters => ⟨scheme,rfl,enters.1,enters.2⟩⟩

theorem bound_below (scheme : client.projectUrl.scheme = "https") {path : List (List Char)} {tail : List Char} :
    client.Bound objectKey (client.rules.withPath client.projectUrl path tail) ↔ client.Enters path tail ∧
      client.projectUrl.username = "" ∧ client.projectUrl.password = none ∧
      client.pathOf path tail = objectPath objectKey := by
  constructor
  · intro bound
    exact ⟨(checked_below scheme).mp bound.checked,bound.username,bound.password,bound.path⟩
  · rintro ⟨enters,username,password,path⟩
    exact ⟨scheme,rfl,rfl,username,password,path,enters.2⟩

theorem strays_absolute (absolute : startsWith "https://" text = true) : client.Strays objectKey text ↔
    ∃ url, client.rules.parse text = some url ∧ client.Checked url ∧ ¬client.Bound objectKey url := by
  constructor
  · intro strays
    cases strays with
    | relative relative => rw [absolute] at relative; cases relative
    | @absolute s port _ valid whole name named numbered enters apart =>
      obtain ⟨host,denoted,same⟩ := named
      have special : Web.isSpecial s.schemeName = true := by rw [name]; decide
      obtain ⟨read,-⟩ := Web.parse_special_spelled.mpr
        ⟨s,valid,whole,special,host,port,denoted,name.symm ▸ numbered,rfl⟩
      refine ⟨_,read,⟨name,same.symm,enters.1,enters.2⟩,fun bound => apart ?_⟩
      have effective : port.or (Web.defaultPort s.schemeName) = client.projectUrl.effectivePort := bound.port
      rw [name] at effective
      exact ⟨bound.username,bound.password,effective,bound.path⟩
  · rintro ⟨url,read,checked,loose⟩
    have special : Web.isSpecial url.scheme = true := by rw [checked.scheme]; decide
    obtain ⟨s,valid,whole,-,host,port,denoted,numbered,rfl⟩ := Web.parse_special_spelled.mp ⟨read,special⟩
    have name : s.schemeName = "https" := checked.scheme
    refine .absolute absolute valid whole name ⟨host,denoted,checked.host.symm⟩ (name ▸ numbered)
      ⟨checked.folder,checked.token⟩ ?_
    rintro ⟨username,password,effective,path⟩
    refine loose ⟨name,checked.host,?_,username,password,path,checked.token⟩
    rw [Url.effectivePort, ← effective]
    exact congrArg (fun name => port.or (Web.defaultPort name)) name

theorem strays_relative (scheme : client.projectUrl.scheme = "https")
    (relative : startsWith "https://" text = false) : client.Strays objectKey text ↔
      client.Enters client.storagePath (reference text) ∧
        ¬client.Bound objectKey (client.rules.withPath client.projectUrl client.storagePath (reference text)) := by
  rw [bound_below scheme]
  constructor
  · intro strays
    cases strays with
    | absolute absolute => rw [relative] at absolute; cases absolute
    | relative _ enters apart => exact ⟨enters,fun own => apart own.2⟩
  · rintro ⟨enters,loose⟩
    exact .relative relative enters fun own => loose ⟨enters,own⟩

/-- An answer strays just where the URL it names passes the checks and is not the object's. -/
theorem strays_iff (scheme : client.projectUrl.scheme = "https") : client.Strays objectKey text ↔
    ∃ url, client.signedUrl text = some url ∧ client.Checked url ∧ ¬client.Bound objectKey url := by
  by_cases absolute : startsWith "https://" text = true
  · have parse : client.signedUrl text = client.rules.parse text := if_pos absolute
    rw [parse, strays_absolute absolute]
  · have relative : startsWith "https://" text = false := by simpa using absolute
    rw [signedUrl_relative relative, strays_relative scheme relative, ← checked_below scheme]
    simp only [Option.some.injEq, exists_eq_left']

end Signed

end StorageClient

/-- Exactly the URLs of the object that the answers name are returned, unless an answer strays. -/
theorem signed_url_bound {client : StorageClient} {lookup : Lookup} {objectKey : String}
    (configured : parseHttpsUrl client.rules lookup "SUPABASE_URL" = .ok client.projectUrl)
    (valid : validateObjectKey objectKey = true) :
    (∀ url, client.createSignedUploadUrl objectKey = .ok url ↔
        (∃ text, client.Answers objectKey text ∧ client.signedUrl text = some url) ∧ client.Bound objectKey url) ↔
      ¬∃ text, client.Answers objectKey text ∧ client.Strays objectKey text := by
  obtain ⟨-,scheme,-,-⟩ := parseHttpsUrl_ok configured
  constructor
  · rintro sound ⟨text,answered,strays⟩
    obtain ⟨url,named,checked,loose⟩ := (StorageClient.strays_iff scheme).mp strays
    exact loose ((sound url).mp (StorageClient.createSignedUploadUrl_ok.mpr ⟨valid,text,answered,named,checked⟩)).2
  · intro straight url
    rw [StorageClient.createSignedUploadUrl_ok]
    constructor
    · rintro ⟨-,text,answered,named,checked⟩
      refine ⟨⟨text,answered,named⟩,Classical.byContradiction fun loose => straight ?_⟩
      exact ⟨text,answered,(StorageClient.strays_iff scheme).mpr ⟨url,named,checked,loose⟩⟩
    · rintro ⟨⟨text,answered,named⟩,bound⟩
      exact ⟨valid,text,answered,named,bound.checked⟩

namespace Sample

def queryPairs (query : String) : List (String × String) :=
  ((split '&' query).filter (· ≠ [])).map fun pair =>
    (String.ofList (pair.takeWhile (· ≠ '=')),String.ofList ((pair.dropWhile (· ≠ '=')).drop 1))

/-- The service answers every request with this text. -/
def storageClient (text : String) : StorageClient where
  rules := rules
  projectUrl := project
  queryPairs := queryPairs
  write url := url.scheme ++ "://" ++ url.host.getD "" ++ url.pathText
  post _ := .ok ⟨200,some text⟩

end Sample

theorem signed_url_bound_relative : ∃ url,
    (Sample.storageClient "/object/upload/sign/hhm-intake-private/application/cv?token=t").createSignedUploadUrl
      "application/cv" = .ok url ∧
    (Sample.storageClient "/object/upload/sign/hhm-intake-private/application/cv?token=t").Bound
      "application/cv" url := by
  have valid : validateObjectKey "application/cv" = true := by decide
  have straight : ¬∃ text,
      (Sample.storageClient "/object/upload/sign/hhm-intake-private/application/cv?token=t").Answers
        "application/cv" text ∧
      (Sample.storageClient "/object/upload/sign/hhm-intake-private/application/cv?token=t").Strays
        "application/cv" text := by
    rintro ⟨text,⟨response,posted,-,body⟩,strays⟩
    cases posted
    cases body
    cases strays with
    | absolute absolute => exact absurd absolute (by decide)
    | relative _ _ apart =>
      exact apart ⟨rfl,rfl,by decide +kernel⟩
  obtain ⟨url,created⟩ : ∃ url, (Sample.storageClient
      "/object/upload/sign/hhm-intake-private/application/cv?token=t").createSignedUploadUrl "application/cv" =
        .ok url := ⟨_,rfl⟩
  exact ⟨url,created,(((signed_url_bound Sample.settings_project valid).mpr straight url).mp created).2⟩

/-- User info, another port and another bucket pass the checks. -/
theorem signed_url_elsewhere : ∃ url,
    (Sample.storageClient
      "https://user@project.supabase.co:8443/storage/v1/object/upload/sign/other/x?token=t").createSignedUploadUrl
      "application/cv" = .ok url ∧
    url.username = "user" ∧ url.effectivePort ≠ Sample.project.effectivePort ∧
    url.pathText ≠ objectPath "application/cv" :=
  ⟨_,rfl,rfl,by decide,by decide⟩

end IntakeApi
