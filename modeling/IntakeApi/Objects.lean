import IntakeApi.Endpoint
import IntakeApi.Signing

/-! Object keys and the URLs of their objects: a key that the store makes passes the check, and a
key that passes it names one object of the bucket. -/
namespace IntakeApi

open Web (Url Rules)

/-- The bucket's folders below the storage base, for signed uploads and for reads. -/
def signFolder : String := "object/upload/sign/hhm-intake-private/"

def objectFolder : String := "object/authenticated/hhm-intake-private/"

def storageBase (rules : Rules) (project : Url) : Url := rules.join project "storage/v1/"

/-- The URL that a request about an object goes to. -/
def objectEndpoint (rules : Rules) (project : Url) (folder objectKey : String) : Url :=
  rules.join (storageBase rules project) (folder ++ objectKey)

section Keys

def isKeyPathChar (c : Char) : Bool := isKeyChar c || c == '/'

theorem isKeyPathChar_path {c : Char} (key : isKeyPathChar c = true) :
    Web.isPathChar c = true ∧ c ≠ '.' ∧ c ≠ '%' := by
  refine ⟨?_,?_,?_⟩
  · simp only [isKeyPathChar, isKeyChar, isAlphanumeric_eq, Bool.or_eq_true] at key
    simp only [Web.isPathChar, Web.isPlain, Bool.or_eq_true]
    grind
  · rintro rfl
    exact absurd key (by decide)
  · rintro rfl
    exact absurd key (by decide)

theorem validateObjectKey_chars {key : String} (valid : validateObjectKey key = true) :
    ∀ c ∈ key.toList, isKeyPathChar c = true := by
  simp only [validateObjectKey, Bool.and_eq_true, List.all_eq_true] at valid
  intro c member
  rcases Web.mem_of_splitOn member with rfl | ⟨segment,part,inside⟩
  · decide
  · have segments := valid.2 segment part
    simp only [isKeySegment, Bool.and_eq_true, List.all_eq_true] at segments
    rw [isKeyPathChar, segments.2 c inside, Bool.true_or]

/-- What is appended under the storage base has no dot segments and nothing to escape. -/
structure Literal (text : List Char) : Prop where
  chars : ∀ c ∈ text, Web.isPathChar c = true
  dotless : Web.Dotless (text.splitOn '/')
  dots : ∀ segment ∈ text.splitOn '/', Web.isSingleDot segment = false ∧ Web.isDoubleDot segment = false

theorem literal_of_chars {text : List Char} (chars : ∀ c ∈ text, isKeyPathChar c = true) : Literal text := by
  have apart : ∀ segment ∈ text.splitOn '/', '.' ∉ segment ∧ '%' ∉ segment := by
    intro segment member
    refine ⟨fun dot => ?_,fun percent => ?_⟩
    · exact (isKeyPathChar_path (chars _ (Web.mem_splitOn member _ dot).1)).2.1 rfl
    · exact (isKeyPathChar_path (chars _ (Web.mem_splitOn member _ percent).1)).2.2 rfl
  refine ⟨fun c member => (isKeyPathChar_path (chars c member)).1,fun segment member => ?_,
    fun segment member => Web.not_dots (apart segment member).1 (apart segment member).2⟩
  constructor
  · rintro rfl
    exact (apart _ member).1 (by decide)
  · rintro rfl
    exact (apart _ member).1 (by decide)

theorem literal_key {folder key : String} (known : folder ∈ [signFolder, objectFolder])
    (valid : validateObjectKey key = true) : Literal (folder ++ key).toList := by
  have folders : ∀ folder ∈ [signFolder, objectFolder], ∀ c ∈ folder.toList, isKeyPathChar c = true := by
    simp only [← List.forall_iff_forall_mem]
    decide
  refine literal_of_chars fun c member => ?_
  rw [String.toList_append, List.mem_append] at member
  exact member.elim (folders folder known c) (validateObjectKey_chars valid c)

end Keys

section Endpoints

variable {rules : Rules} {project : Url}

theorem storageBase_eq : storageBase rules project =
    { project with
      path := project.path.dropLast ++ ["storage".toList, "v1".toList] ++ [[]]
      query := none
      fragment := none } := by
  have literal : Literal "storage/v1/".toList := literal_of_chars (List.forall_iff_forall_mem.mp (by decide))
  rw [storageBase, Web.join_plain literal.chars literal.dots, List.append_assoc]
  rfl

theorem objectEndpoint_eq {folder key : String} (known : folder ∈ [signFolder, objectFolder])
    (valid : validateObjectKey key = true) : objectEndpoint rules project folder key =
      { storageBase rules project with
        path := project.path.dropLast ++ ["storage".toList, "v1".toList] ++ (folder ++ key).toList.splitOn '/' } := by
  have literal := literal_key known valid
  rw [objectEndpoint, Web.join_plain literal.chars literal.dots, storageBase_eq, List.dropLast_concat]

end Endpoints

/-- In every reachable state the uploads of a database have object keys of their own that may be
addressed, and a key that may be addressed stands literally below the storage base. -/
theorem object_keys_usable {contract : Contract} {w : World} (reachable : Reachable contract w) :
    (∀ connection, ∀ row ∈ (w.store connection).table .upload, ∀ other ∈ (w.store connection).table .upload,
      row ≠ other → row.state.objectKey ≠ other.state.objectKey) ∧
    (∀ connection, ∀ row ∈ (w.store connection).table .upload,
      validateObjectKey row.state.objectKey = true ∧
      ∀ answer, createSignedUploadUrl row.state.objectKey answer = answer) ∧
    ∀ (rules : Rules) (lookup : Lookup) (project : Url),
      parseHttpsUrl rules lookup "SUPABASE_URL" = .ok project →
      ∀ folder ∈ [signFolder, objectFolder], ∀ key, validateObjectKey key = true →
        (objectEndpoint rules project folder key).pathText =
          (storageBase rules project).pathText ++ folder ++ key ∧
        (objectEndpoint rules project folder key).query = none ∧
        (objectEndpoint rules project folder key).fragment = none ∧
        (objectEndpoint rules project folder key).scheme = project.scheme ∧
        (objectEndpoint rules project folder key).host = project.host ∧
        (objectEndpoint rules project folder key).port = project.port ∧
        Web.resolveReference (storageBase rules project).path (folder ++ key).toList =
          ((objectEndpoint rules project folder key).path,none,none) := by
  refine ⟨fun connection row member other there distinct same => ?_,fun connection row member => ?_,?_⟩
  · exact distinct (objectKey_unique reachable member there same)
  · have valid := written_key_valid reachable member
    exact ⟨valid,fun answer => if_pos valid⟩
  · intro rules lookup project configured folder known key valid
    obtain ⟨⟨value,parsed⟩,scheme,-,-⟩ := parseHttpsUrl_ok configured
    have special : Web.isSpecial project.scheme = true := by rw [scheme]; decide
    have literal := literal_key known valid
    have base := @storageBase_eq rules project
    have mounted : (storageBase rules project).path =
        project.path.dropLast ++ ["storage".toList, "v1".toList] ++ [[]] := congrArg Url.path base
    have folders : ∀ segment ∈ ["storage".toList, "v1".toList, []], segment ≠ ['.'] ∧ segment ≠ ['.', '.'] := by
      decide
    have dotless : Web.Dotless (storageBase rules project).path := by
      rw [mounted, List.append_assoc]
      exact (Web.parse_dotless parsed special).dropLast.append folders
    rw [objectEndpoint_eq known valid]
    refine ⟨?_,by rw [base],by rw [base],by rw [base],by rw [base],by rw [base],?_⟩
    · rw [Web.pathText_below mounted, String.ofList_toList, String.append_assoc]
    · rw [Web.resolveReference_plain dotless literal.chars literal.dotless, mounted, List.dropLast_concat]

namespace Sample

def settings : Lookup := fun name => if name = "SUPABASE_URL" then some "https://project.supabase.co" else none

def project : Url := ⟨"https","",none,some "project.supabase.co",none,[[]],false,none,none⟩

theorem settings_project : parseHttpsUrl rules settings "SUPABASE_URL" = .ok project := by rfl

end Sample

/-- The object of a verified upload, and where its signed upload is asked for. -/
theorem object_keys_usable_completed : ∃ row ∈ ((outcome .sample Sample.completed).store .primary).table .upload,
    row.state.status = .verified ∧ validateObjectKey row.state.objectKey = true ∧
    (objectEndpoint Sample.rules Sample.project signFolder row.state.objectKey).pathText =
      "/storage/v1/" ++ signFolder ++ row.state.objectKey := by
  obtain ⟨reached,row,member,-,-,-,verified⟩ := Sample.completed_possible
  obtain ⟨-,usable,literal⟩ := object_keys_usable (reachable_outcome reached)
  have valid := (usable .primary row member).1
  have literal := literal Sample.rules Sample.settings Sample.project Sample.settings_project signFolder
    List.mem_cons_self row.state.objectKey valid
  exact ⟨row,member,verified,valid,literal.1⟩

end IntakeApi
