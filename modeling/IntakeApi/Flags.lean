import IntakeApi.Configuration
import IntakeApi.Library.Json
import Mathlib.Data.List.Dedup

/-! The command line: how arguments and the environment become settings, what a refusal tells of
them, and the help that is printed. The parser of the arguments, with the types of its contract,
is a parameter. -/
namespace IntakeApi

open Bindings (lastOf)
open Json (Value)

structure ParsedArguments where
  dotenv : List (String × String)
  dotenvOverrides : List (String × String)
  providedFlags : List (String × String)
  unknownOptions : List String
  errors : List String
  extras : List String

/-- The file that the contract is written to, or why there is none. -/
inductive ContractFile where
  | uncreated (error : String)
  | unwritten (error : String)
  | unnamed
  | written (path : String)

/-- The parser, with the texts of its errors; `coerce` reads the settings by their types. -/
structure FlagParser (N : Type) where
  auditConfig : String → Except String Unit
  parseStructured : List String → String → Except String ParsedArguments
  coerce : Lookup → String → Except String (List (String × Value N))
  numberText : N → String

def btreeSet (items : List String) : List String := items.dedup.insertionSort (· ≤ ·)

def optionName (option : String) : String :=
  match stripPrefix "--" option with
  | some long => "--" ++ String.ofList ((split '=' long).head?.getD [])
  | none => String.ofList (option.toList.take 2)

def ContractFile.path : ContractFile → Except String String
  | .uncreated error => .error ("cannot create embedded flags-2-env contract: " ++ error)
  | .unwritten error => .error ("cannot materialize embedded flags-2-env contract: " ++ error)
  | .unnamed => .error "flags-2-env contract path is not valid UTF-8"
  | .written path => .ok path

/-- The checks of `resolve_from` on what was parsed. -/
def ParsedArguments.check (parsed : ParsedArguments) : Except String Unit :=
  if !parsed.unknownOptions.isEmpty then
    .error ("unknown command-line option(s): " ++
      ", ".intercalate (btreeSet (parsed.unknownOptions.map optionName)))
  else if !parsed.errors.isEmpty then
    .error ("invalid command-line value(s): " ++ toString parsed.errors.length ++ " error(s)")
  else if !parsed.extras.isEmpty then
    .error ("unexpected positional argument(s): " ++ toString parsed.extras.length)
  else .ok ()

/-- The map `raw`, later bindings over earlier ones. -/
def rawSettings (parsed : ParsedArguments) (environment : List (String × String)) : List (String × String) :=
  (parsed.dotenv ++ environment ++ parsed.dotenvOverrides).filter (fun pair => pair.1 ≠ "FLAGS2ENV_COMMAND") ++
    parsed.providedFlags

section Resolve

variable {N : Type} (parser : FlagParser N)

def scalarString (name : String) : Value N → Except String String
  | .string value => .ok value
  | .bool value => .ok (toString value)
  | .number n => .ok (parser.numberText n)
  | _ => .error ("flags-2-env returned a non-scalar value for " ++ name)

def insertTyped (resolved : List (String × String)) :
    List (String × Value N) → Except String (List (String × String))
  | [] => .ok resolved
  | (name,value) :: rest =>
    match value with
    | .null => insertTyped resolved rest
    | value => (scalarString parser name value).bind fun text => insertTyped (resolved ++ [(name,text)]) rest

def resolveFrom (file : ContractFile) (argv : List String) (environment : List (String × String)) :
    Except String (List (String × String)) := do
  let path ← file.path
  (parser.auditConfig path).mapError fun error => "flags-2-env contract audit failed: " ++ error
  let parsed ← (parser.parseStructured argv path).mapError fun error => "flags-2-env parsing failed: " ++ error
  parsed.check
  let typed ← (parser.coerce (lastOf (rawSettings parsed environment)) path).mapError fun error =>
    "flags-2-env typed configuration failed: " ++ error
  insertTyped parser environment typed

end Resolve

def rawSetting (parsed : ParsedArguments) (environment : List (String × String)) : Lookup := fun name =>
  (lastOf parsed.providedFlags name).or <|
    if name = "FLAGS2ENV_COMMAND" then none
    else (lastOf parsed.dotenvOverrides name).or ((lastOf environment name).or (lastOf parsed.dotenv name))

theorem lastOf_rawSettings (parsed : ParsedArguments) (environment : List (String × String)) :
    lastOf (rawSettings parsed environment) = rawSetting parsed environment := by
  funext name
  have kept := @Bindings.lastOf_filter String String _ (parsed.dotenv ++ environment ++ parsed.dotenvOverrides) name
    fun key => key ≠ "FLAGS2ENV_COMMAND"
  rw [rawSettings, Bindings.lastOf_append, rawSetting, kept, Bindings.lastOf_append, Bindings.lastOf_append]
  by_cases command : name = "FLAGS2ENV_COMMAND"
  · simp [command]
  · simp [command]

section Settings

variable {N : Type} {parser : FlagParser N}

def scalarText (parser : FlagParser N) : Value N → Option String
  | .string value => some value
  | .bool value => some (toString value)
  | .number n => some (parser.numberText n)
  | _ => none

def typedSetting (parser : FlagParser N) (typed : List (String × Value N)) : Lookup := fun name =>
  lastOf (typed.filterMap fun pair => (scalarText parser pair.2).map (pair.1,·)) name

def Scalars (parser : FlagParser N) (typed : List (String × Value N)) : Prop :=
  ∀ pair ∈ typed, scalarText parser pair.2 = none → pair.2 = .null

theorem insertTyped_ok {typed : List (String × Value N)} {resolved settings : List (String × String)} :
    insertTyped parser resolved typed = .ok settings ↔ Scalars parser typed ∧
      settings = resolved ++ typed.filterMap fun pair => (scalarText parser pair.2).map (pair.1,·) := by
  induction typed generalizing resolved with
  | nil => simp [insertTyped, Scalars, eq_comm]
  | cons pair typed ih =>
    obtain ⟨name,value⟩ := pair
    have shift : Scalars parser ((name,value) :: typed) ↔
        (scalarText parser value = none → value = .null) ∧ Scalars parser typed := List.forall_mem_cons
    rw [shift, List.filterMap_cons]
    cases value <;>
      simp [insertTyped, scalarString, scalarText, Except.bind, ih, List.append_assoc]

/-- The arguments are taken, and the settings have these types. -/
structure Reads (parser : FlagParser N) (file : ContractFile) (argv : List String)
    (environment : List (String × String)) (typed : List (String × Value N)) : Prop where
  parsed : ∃ path parsed, file = .written path ∧ parser.auditConfig path = .ok () ∧
    parser.parseStructured argv path = .ok parsed ∧
    (parsed.unknownOptions = [] ∧ parsed.errors = [] ∧ parsed.extras = []) ∧
    parser.coerce (rawSetting parsed environment) path = .ok typed
  scalars : Scalars parser typed

theorem ContractFile.path_ok {file : ContractFile} {path : String} : file.path = .ok path ↔ file = .written path := by
  cases file <;> simp [ContractFile.path]

theorem ParsedArguments.check_ok {parsed : ParsedArguments} :
    parsed.check = .ok () ↔ parsed.unknownOptions = [] ∧ parsed.errors = [] ∧ parsed.extras = [] := by
  unfold ParsedArguments.check
  cases parsed.unknownOptions <;> cases parsed.errors <;> cases parsed.extras <;> simp

theorem resolveFrom_ok {file : ContractFile} {argv : List String} {environment settings : List (String × String)} :
    resolveFrom parser file argv environment = .ok settings ↔ ∃ typed, Reads parser file argv environment typed ∧
      settings = environment ++ typed.filterMap fun pair => (scalarText parser pair.2).map (pair.1,·) := by
  simp only [resolveFrom, bind_ok_iff, mapError_ok, ContractFile.path_ok, insertTyped_ok, lastOf_rawSettings]
  constructor
  · rintro ⟨path,written,_,audited,parsed,found,_,checked,typed,coerced,scalars,whole⟩
    exact ⟨typed,⟨⟨path,parsed,written,audited,found,ParsedArguments.check_ok.mp checked,coerced⟩,scalars⟩,whole⟩
  · rintro ⟨typed,⟨⟨path,parsed,written,audited,found,clean,coerced⟩,scalars⟩,whole⟩
    exact ⟨path,written,(),audited,parsed,found,(),ParsedArguments.check_ok.mpr clean,typed,coerced,scalars,whole⟩

end Settings

/-- Settings are resolved exactly where the arguments are taken. A name then has its typed value,
or else what the environment gives it; the types are read from flags over overrides over the
environment over the defaults. -/
theorem settings_exact {N : Type} (parser : FlagParser N) (file : ContractFile) (argv : List String)
    (environment : List (String × String)) :
    ((∃ settings, resolveFrom parser file argv environment = .ok settings) ↔
      ∃ typed, Reads parser file argv environment typed) ∧
    ∀ settings, resolveFrom parser file argv environment = .ok settings →
      ∃ typed, Reads parser file argv environment typed ∧
        ∀ name, lastOf settings name = (typedSetting parser typed name).or (lastOf environment name) := by
  refine ⟨⟨?_,?_⟩,?_⟩
  · rintro ⟨settings,resolved⟩
    obtain ⟨typed,reads,-⟩ := resolveFrom_ok.mp resolved
    exact ⟨typed,reads⟩
  · rintro ⟨typed,reads⟩
    exact ⟨_,resolveFrom_ok.mpr ⟨typed,reads,rfl⟩⟩
  · intro settings resolved
    obtain ⟨typed,reads,rfl⟩ := resolveFrom_ok.mp resolved
    refine ⟨typed,reads,fun name => ?_⟩
    rw [Bindings.lastOf_append, typedSetting]

section Refusals

theorem btreeSet_congr {items others : List String} (same : ∀ item, item ∈ items ↔ item ∈ others) :
    btreeSet items = btreeSet others := by
  have perm : items.dedup.Perm others.dedup := by
    refine (List.perm_ext_iff_of_nodup (List.nodup_dedup items) (List.nodup_dedup others)).mpr fun item => ?_
    rw [List.mem_dedup, List.mem_dedup, same]
  have reordered : (btreeSet items).Perm (btreeSet others) :=
    (List.perm_insertionSort _ _).trans (perm.trans (List.perm_insertionSort _ _).symm)
  exact reordered.eq_of_pairwise (fun a b _ _ => le_antisymm) (List.pairwise_insertionSort _ _)
    (List.pairwise_insertionSort _ _)

theorem optionName_long {name value : String} (plain : '=' ∉ name.toList) :
    optionName ("--" ++ name ++ "=" ++ value) = "--" ++ name := by
  have whole : ("--" ++ name ++ "=" ++ value).toList = "--".toList ++ (name.toList ++ '=' :: value.toList) := by
    simp
  have long : stripPrefix "--" ("--" ++ name ++ "=" ++ value) =
      some (name ++ "=" ++ value) := by
    have rest : String.ofList (name.toList ++ '=' :: value.toList) = name ++ "=" ++ value := by
      simp [← String.toList_inj]
    rw [← rest, stripPrefix, startsWith, whole, if_pos (List.isPrefixOf_iff_prefix.mpr (List.prefix_append _ _)),
      List.drop_left]
  have pieces : (split '=' (name ++ "=" ++ value)).head? = some name.toList := by
    have apart : ∀ c ∈ name.toList, (c == '=') = false := by
      intro c member
      refine beq_eq_false_iff_ne.mpr ?_
      rintro rfl
      exact plain member
    have behind : (name ++ "=" ++ value).toList = name.toList ++ '=' :: value.toList := by simp
    rw [split, behind,
      List.splitOn_append_cons_of_forall_mem_beq_eq_false apart '=' (by decide) value.toList, List.head?_cons]
  simp only [optionName, long, pieces, Option.getD_some, String.ofList_toList]

theorem optionName_short {option : String} (short : startsWith "--" option = false) :
    optionName option = String.ofList (option.toList.take 2) := by
  rw [optionName, stripPrefix, short]
  rfl

/-- Arguments that differ only in what a refusal does not tell. -/
structure ParsedArguments.Alike (parsed other : ParsedArguments) : Prop where
  names : ∀ name, name ∈ parsed.unknownOptions.map optionName ↔ name ∈ other.unknownOptions.map optionName
  errors : parsed.errors.length = other.errors.length
  extras : parsed.extras.length = other.extras.length

theorem check_alike {parsed other : ParsedArguments} (alike : parsed.Alike other) : parsed.check = other.check := by
  have unknown : parsed.unknownOptions.isEmpty = other.unknownOptions.isEmpty := by
    rw [Bool.eq_iff_iff, List.isEmpty_iff, List.isEmpty_iff, ← List.map_eq_nil_iff,
      ← @List.map_eq_nil_iff _ _ optionName other.unknownOptions, List.eq_nil_iff_forall_not_mem,
      List.eq_nil_iff_forall_not_mem]
    exact forall_congr' fun name => not_congr (alike.names name)
  have errors : parsed.errors.isEmpty = other.errors.isEmpty := by
    rw [Bool.eq_iff_iff, List.isEmpty_iff_length_eq_zero, alike.errors, List.isEmpty_iff_length_eq_zero]
  have extras : parsed.extras.isEmpty = other.extras.isEmpty := by
    rw [Bool.eq_iff_iff, List.isEmpty_iff_length_eq_zero, alike.extras, List.isEmpty_iff_length_eq_zero]
  simp only [ParsedArguments.check, unknown, errors, extras, alike.errors, alike.extras, btreeSet_congr alike.names]

/-- A refusal of the arguments is the same whatever the environment, and whatever the values, the
order and the number of the options that are not known. -/
theorem refusals_redacted {N : Type} (parser : FlagParser N) {path : String} (audited : parser.auditConfig path = .ok ())
    {argv argv' : List String} {parsed parsed' : ParsedArguments}
    (found : parser.parseStructured argv path = .ok parsed)
    (found' : parser.parseStructured argv' path = .ok parsed') (alike : parsed.Alike parsed')
    (refused : parsed.check ≠ .ok ()) (environment environment' : List (String × String)) :
    (∃ text, parsed.check = .error text ∧
      resolveFrom parser (.written path) argv environment = .error text ∧
      resolveFrom parser (.written path) argv' environment' = .error text) ∧
    (∀ name value, '=' ∉ name.toList → optionName ("--" ++ name ++ "=" ++ value) = "--" ++ name) ∧
    ∀ option, startsWith "--" option = false → optionName option = String.ofList (option.toList.take 2) := by
  refine ⟨?_,fun name value => optionName_long,fun option => optionName_short⟩
  cases checked : parsed.check with
  | ok => exact absurd checked refused
  | error text =>
    have stops {argv : List String} {parsed : ParsedArguments} (found : parser.parseStructured argv path = .ok parsed)
        (checked : parsed.check = .error text) (environment : List (String × String)) :
        resolveFrom parser (.written path) argv environment = .error text := by
      simp [resolveFrom, ContractFile.path, audited, found, checked, bind, Except.bind, Except.mapError]
    exact ⟨text,rfl,stops found checked environment,stops found' (check_alike alike ▸ checked) environment'⟩

/-- Takes no options: every argument after the first is one that is not known. -/
def Sample.flagParser : FlagParser Nat where
  auditConfig _ := .ok ()
  parseStructured argv _ := .ok ⟨[],[],[],argv.tail,[],[]⟩
  coerce _ _ := .ok []
  numberText := toString

theorem refusals_redacted_unknown :
    resolveFrom Sample.flagParser (.written "contract") ["server","--definitely-unknown=do-not-echo"]
        [("DATABASE_URL","postgres://primary")] =
      .error "unknown command-line option(s): --definitely-unknown" := by
  have told : resolveFrom Sample.flagParser (.written "contract") ["server","--definitely-unknown"] [] =
      .error "unknown command-line option(s): --definitely-unknown" := by decide +kernel
  have names : ["--definitely-unknown=do-not-echo"].map optionName = ["--definitely-unknown"].map optionName := by
    decide +kernel
  obtain ⟨⟨text,-,first,second⟩,-⟩ := @refusals_redacted _ Sample.flagParser "contract" rfl
    ["server","--definitely-unknown=do-not-echo"] ["server","--definitely-unknown"] _ _ rfl rfl
    ⟨fun name => iff_of_eq (congrArg (name ∈ ·) names),rfl,rfl⟩ (by decide +kernel) [("DATABASE_URL","postgres://primary")] []
  rw [first, ← second, told]

end Refusals

inductive Toml where
  | string (s : String)
  | integer (n : Int)
  | float (text : String)
  | boolean (b : Bool)
  | datetime (text : String)
  | array (items : List Toml)
  | table (entries : List (String × Toml))

namespace Toml

def asStr : Toml → Option String
  | .string s => some s
  | _ => none

def asArray : Toml → Option (List Toml)
  | .array items => some items
  | _ => none

def asTable : Toml → Option (List (String × Toml))
  | .table entries => some entries
  | _ => none

end Toml

section Help

/-- `{option:<28}`. -/
def padded (option : String) : String := option ++ "".pushn ' ' (28 - option.length)

/-- The line of a flag, if it has a long name. -/
def helpLine (display : Toml → String) (flag : Toml) : Option String := do
  let flag ← flag.asTable
  let long ← ((lastOf flag "long").bind Toml.asStr).or
    (((lastOf flag "aliases").bind Toml.asArray).bind fun aliases => aliases.head?.bind Toml.asStr)
  let short := (lastOf flag "short").bind Toml.asStr
  let valueType := ((lastOf flag "type").bind Toml.asStr).getD "string"
  let option := match short with
    | none => "--" ++ long
    | some short => "-" ++ short ++ ", --" ++ long
  let option := if ["bool","boolean"].contains valueType then option else option ++ " <VALUE>"
  let description := ((lastOf flag "help").bind Toml.asStr).getD ""
  let default := ((lastOf flag "default").map fun value => " [default: " ++ display value ++ "]").getD ""
  return "  " ++ padded option ++ " " ++ description ++ default ++ "\n"

/-- The contract as TOML, or the parser's error, and how TOML writes a value. -/
structure HelpMetadata where
  contract : Except String (List (String × Toml))
  display : Toml → String

def helpTable (help : HelpMetadata) : Except String String := do
  let contract ← help.contract.mapError fun error => "cannot read flags-2-env help metadata: " ++ error
  let flags ← okOr ((lastOf contract "flags").bind Toml.asTable) "flags-2-env contract has no flags table"
  return "Usage: hhm-api [OPTIONS]\n\nOptions:\n" ++
    "".intercalate (flags.filterMap fun flag => helpLine help.display flag.2)

def Sample.help : HelpMetadata where
  contract := .ok [("flags",.table
    [("help",.table [("env",.string "CLI_HELP_REQUESTED"), ("long",.string "help"), ("short",.string "h"),
        ("type",.string "boolean"), ("default",.boolean false), ("help",.string "Print command-line help.")]),
      ("port",.table [("env",.string "PORT"), ("long",.string "port"), ("short",.string "p"), ("type",.string "integer"),
        ("default",.integer 8080), ("help",.string "API listener port.")])])]
  display
    | .integer n => toString n
    | .boolean b => toString b
    | _ => ""

example : helpTable Sample.help = .ok ("Usage: hhm-api [OPTIONS]\n\nOptions:\n" ++
    "  -h, --help                   Print command-line help. [default: false]\n" ++
    "  -p, --port <VALUE>           API listener port. [default: 8080]\n") := by decide +kernel

def processControl (resolved : Except String Lookup) (help : HelpMetadata) : Except String (Option String) := do
  let values ← resolved
  if values "CLI_HELP_REQUESTED" = some "true" then (helpTable help).map some
  else if values "CLI_VERSION_REQUESTED" = some "true" then .ok (some "hhm-api 0.1.0\n")
  else .ok none

end Help

end IntakeApi
