import IntakeApi.Loaders
import IntakeApi.Startup

/-! From the secrets that are baked into the image to the databases that are contacted: the
entrypoint, the command line, the configuration and the start of the service together. -/
namespace IntakeApi

open Bindings (lastOf firstOf)
open Dotenv (shellEntries)
open Interaction
open Json (Value)
open Shell
open Web (Rules)

/-- The secrets that the entrypoint loads, where it hands over at all. -/
def Container.secrets (container : Container) (vars : Variables String String) : Option String :=
  let file := expand (withSecretsFile vars) "SOPS_SECRETS_FILE"
  if !container.fileExists file then none
  else if (expand vars "SOPS_AGE_KEY").isEmpty && (expand vars "SOPS_AGE_KEY_FILE").isEmpty then none
  else container.decrypt file

/-- What a deployment gives for a name: a variable of the container over the first line of the
secrets. -/
def deployed (container : Container) (vars : Variables String String) : Lookup := fun name =>
  if (vars name).isSome then vars.environment name
  else (container.secrets vars).bind fun plaintext => firstOf (shellEntries plaintext) name

def scriptNames : List String := ["key", "value", "secrets", "SOPS_SECRETS_FILE"]

section Environment

variable {container : Container} {vars : Variables String String} {script : Script} {name : String}

theorem withSecretsFile_other (apart : name ≠ "SOPS_SECRETS_FILE") : withSecretsFile vars name = vars name := by
  unfold withSecretsFile
  split
  · exact Variables.assign_other apart
  · rfl

/-- The entrypoint hands over with the secrets loaded, or without any. -/
theorem entrypoint_exec (runs : entrypoint container vars = .exec script) :
    (∃ plaintext, container.secrets vars = some plaintext ∧ script.vars.environment = Dotenv.loaded vars plaintext) ∨
      container.secrets vars = none ∧ script.vars = withSecretsFile vars := by
  unfold entrypoint at runs
  unfold Container.secrets
  dsimp only at runs ⊢
  split at runs
  · next missing =>
    cases runs
    rw [if_pos missing]
    exact .inr ⟨rfl,rfl⟩
  · next present =>
    split at runs
    · next keyless =>
      split at runs
      · cases runs
      · cases runs
        rw [if_neg present, if_pos keyless]
        exact .inr ⟨rfl,rfl⟩
    · next keyed =>
      split at runs
      · cases runs
      · split at runs
        · cases runs
        · next plaintext decrypted =>
          cases runs
          rw [if_neg present, if_neg keyed, decrypted]
          exact .inl ⟨plaintext,rfl,rfl⟩

/-- The command finds what the deployment gives, but for the variables of the script. -/
theorem handed_over (runs : entrypoint container vars = .exec script) (own : name ∉ scriptNames) :
    script.vars.environment name = deployed container vars name := by
  simp only [scriptNames, List.mem_cons, List.not_mem_nil, or_false, not_or] at own
  obtain ⟨key,value,secrets,file⟩ := own
  unfold deployed
  rcases entrypoint_exec runs with ⟨plaintext,found,loads⟩ | ⟨found,kept⟩
  · have begun : (withSecrets vars plaintext).vars name = vars name :=
      (Variables.assign_other secrets).trans (withSecretsFile_other file)
    rw [loads, found, Option.bind_some]
    split
    · next set =>
      rw [Dotenv.loaded, exportLines_eq, Variables.environment, Variables.unset_other secrets,
        foldl_kept _ (by rw [begun]; exact set) ⟨key,value⟩, begun]
      rfl
    · next unset =>
      refine Dotenv.loaded_free ?_
      rw [Dotenv.Held, begun]
      simp only [not_or]
      exact ⟨key,value,unset⟩
  · rw [kept, found, Option.bind_none, Variables.environment, withSecretsFile_other file]
    split
    · rfl
    · next unset =>
      rw [Option.not_isSome_iff_eq_none.mp unset]
      rfl

end Environment

def ignoredNames : List String :=
  ["DATABASE_URL", "SUPABASE_DATABASE_URL", "SUPABASE_SERVICE_ROLE_KEY", "TURNSTILE_SECRET_KEY",
    "SHARED_AUTH_SERVICE_CREDENTIAL", "ORES_MIDDLEWARE_RATE_LIMIT_HMAC_SECRET"]

/-- The parser gives no types to settings that its contract leaves alone. -/
def FlagParser.Ignores {N : Type} (parser : FlagParser N) : Prop :=
  ∀ lookup path typed, parser.coerce lookup path = .ok typed → ∀ pair ∈ typed, pair.1 ∉ ignoredNames

theorem lastOf_none {K V : Type} [DecidableEq K] {pairs : List (K × V)} {key : K} (absent : ∀ pair ∈ pairs, pair.1 ≠ key) :
    lastOf pairs key = none := by
  have empty : (pairs.filter fun pair => pair.1 = key) = [] :=
    List.filter_eq_nil_iff.mpr fun pair member => by simpa using absent pair member
  rw [lastOf, Bindings.valuesOf, empty]
  rfl

theorem ignored_setting {N : Type} {parser : FlagParser N} (ignores : parser.Ignores) {file : ContractFile}
    {argv : List String} {environment settings : List (String × String)}
    (resolved : resolveFrom parser file argv environment = .ok settings) {name : String} (ignored : name ∈ ignoredNames) :
    lastOf settings name = lastOf environment name := by
  obtain ⟨typed,reads,rfl⟩ := resolveFrom_ok.mp resolved
  obtain ⟨⟨path,parsed,-,-,-,-,coerced⟩,-⟩ := reads
  rw [Bindings.lastOf_append, lastOf_none, Option.none_or]
  intro pair member
  obtain ⟨given,listed,text⟩ := List.mem_filterMap.mp member
  obtain ⟨_,-,rfl⟩ := Option.map_eq_some_iff.mp text
  rintro rfl
  exact ignores _ _ _ coerced given listed ignored

/-- The environment that the service inherits, as far as its secrets go. -/
def Inherits (environment : List (String × String)) (vars : Variables String String) : Prop :=
  ∀ name ∈ ignoredNames, lastOf environment name = vars.environment name

/-- The served application has the secrets of the deployment. -/
structure Deployed {D S : Type} (container : Container) (vars : Variables String String)
    (history : List (Exchange (StartCall D S) StartCall.Answer)) (app : App D S) : Prop where
  primary : ∃ url, optional (deployed container vars) "DATABASE_URL" = some url ∧
    ⟨.connect url,.ok app.state.primary⟩ ∈ history
  supabase : ∃ url, optional (deployed container vars) "SUPABASE_DATABASE_URL" = some url ∧
    ⟨.connect url,.ok app.state.supabase⟩ ∈ history
  serviceRole : optional (deployed container vars) "SUPABASE_SERVICE_ROLE_KEY" = some app.state.serviceRoleKey
  turnstile : optional (deployed container vars) "TURNSTILE_SECRET_KEY" = some app.state.turnstileSecret
  credential : optional (deployed container vars) "SHARED_AUTH_SERVICE_CREDENTIAL" =
    some app.state.auth.serviceCredential

section Deployment

variable {N : Type} {parser : FlagParser N} {file : ContractFile} {argv : List String}
variable {environment : List (String × String)} {container : Container} {vars : Variables String String}
variable {script : Script} {name value : String}

theorem secret_setting (ignores : parser.Ignores) (runs : entrypoint container vars = .exec script)
    (inherits : Inherits environment script.vars) (ignored : name ∈ ignoredNames)
    (found : optional (var ((resolveFrom parser file argv environment).map lastOf)) name = some value) :
    optional (deployed container vars) name = some value := by
  have own : name ∉ scriptNames := by
    have apart : ∀ name ∈ ignoredNames, name ∉ scriptNames := by decide
    exact apart name ignored
  cases resolved : resolveFrom parser file argv environment with
  | error text =>
    rw [resolved] at found
    cases found
  | ok settings =>
    have same : var ((resolveFrom parser file argv environment).map lastOf) name = deployed container vars name := by
      rw [resolved, ← handed_over runs own, ← inherits name ignored, ← ignored_setting ignores resolved ignored]
      rfl
    rw [optional, same] at found
    exact found

/-- However a container starts, the databases that are contacted are those that its variables or
else the secrets of its image name, and so are the secrets of the application that is served: no
argument and no default takes their place. -/
theorem deployment_contacts {D : Type} (rules : Rules) (decimals : Decimals) (httpRules : HttpRules)
    (middleware : Middleware decimals.Number) (isFilter : String → Bool) (help : HelpMetadata)
    (ignores : parser.Ignores) (runs : entrypoint container vars = .exec script)
    (inherits : Inherits environment script.vars) :
    (Startup.main rules decimals httpRules middleware isFilter
        ((resolveFrom parser file argv environment).map lastOf) help : Startup D middleware.Stack Unit).Obeys
      (fun _ call => ∀ url, call = .connect url → ∃ name ∈ ["DATABASE_URL", "SUPABASE_DATABASE_URL"],
        optional (deployed container vars) name = some url)
      (fun history _ => ∀ app, ⟨.serve app,.ok ()⟩ ∈ history → Deployed container vars history app) [] := by
  refine (main_obeys ..).mono ?_ ?_
  · rintro history call may url rfl
    obtain ⟨config,configures,⟨rfl,-⟩ | ⟨rfl,-⟩⟩ := may
    · exact ⟨_,by simp,secret_setting ignores runs inherits (by decide) configures.primary⟩
    · exact ⟨_,by simp,secret_setting ignores runs inherits (by decide) configures.supabase⟩
  · intro history result ended app served
    cases result with
    | error => exact absurd served (ended app)
    | ok =>
      rcases ended with ⟨output,-,rfl⟩ | ⟨config,other,assembles,rfl⟩
      · simp at served
      · have same : app = other := by simpa [prepared] using served
        subst same
        have configures := assembles.configures
        refine ⟨⟨_,secret_setting ignores runs inherits (by decide) configures.primary,by simp [prepared]⟩,
          ⟨_,secret_setting ignores runs inherits (by decide) configures.supabase,by simp [prepared]⟩,?_,?_,?_⟩
        · rw [assembles.services]
          exact secret_setting ignores runs inherits (by decide) configures.serviceRole
        · rw [assembles.services]
          exact secret_setting ignores runs inherits (by decide) configures.turnstile
        · rw [assembles.services]
          exact secret_setting ignores runs inherits (by decide) configures.credential

end Deployment

namespace Sample

/-- Secrets that name the primary twice, after a key that is not theirs to set. -/
def secrets : String :=
  "SUPABASE_DATABASE_URL=postgres://baked\nDATABASE_URL=postgres://primary?a=b\nDATABASE_URL=postgres://later\n"

def overriding : Variables String String := fun name =>
  if name = "SUPABASE_DATABASE_URL" then some ⟨"postgres://supabase",true⟩ else sampleVariables name

def inherited : List (String × String) :=
  [("DATABASE_URL","postgres://primary?a=b"), ("SUPABASE_DATABASE_URL","postgres://supabase")]

end Sample

/-- The container's own variable comes before the secrets, and their first line before the second. -/
theorem deployment_contacts_overriding :
    (Startup.main Sample.rules Sample.decimals Sample.httpRules Sample.middleware (fun _ => true)
        ((resolveFrom Sample.flagParser (.written "contract") ["server"] Sample.inherited).map lastOf) Sample.help :
      Startup Unit Sample.middleware.Stack Unit).Obeys
      (fun _ call => ∀ url, call = .connect url → url = "postgres://primary?a=b" ∨ url = "postgres://supabase")
      (fun _ _ => True) [] := by
  have given : optional (deployed (sampleContainer Sample.secrets) Sample.overriding) "DATABASE_URL" =
      some "postgres://primary?a=b" ∧
      optional (deployed (sampleContainer Sample.secrets) Sample.overriding) "SUPABASE_DATABASE_URL" =
        some "postgres://supabase" := by decide +kernel
  have ignores : Sample.flagParser.Ignores := by
    intro lookup path typed coerced pair member
    cases coerced
    cases member
  have contacts := @deployment_contacts _ Sample.flagParser (.written "contract") ["server"] Sample.inherited
    (sampleContainer Sample.secrets) Sample.overriding _ Unit Sample.rules Sample.decimals Sample.httpRules
    Sample.middleware (fun _ => true) Sample.help ignores rfl (by unfold Inherits; decide +kernel)
  refine contacts.mono ?_ fun _ _ _ => trivial
  intro history call allowed url called
  obtain ⟨name,listed,found⟩ := allowed url called
  simp only [List.mem_cons, List.not_mem_nil, or_false] at listed
  rcases listed with rfl | rfl
  · exact .inl (Option.some.inj (found.symm.trans given.1))
  · exact .inr (Option.some.inj (found.symm.trans given.2))

end IntakeApi
