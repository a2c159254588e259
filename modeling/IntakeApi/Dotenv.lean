import IntakeApi.Text
import IntakeApi.Library.Base64
import IntakeApi.Library.ShellWords
import IntakeApi.Library.EscapeTokens
import Mathlib.Data.List.Sort
import Mathlib.Data.String.Basic

/-! `.just/dotenv.py`, which reads decrypted secrets once for every consumer and prints them for
one of them. -/
namespace IntakeApi.Dotenv

open Python

inductive Failure where
  | unicodeDecode
  | unicodeEncode
  | exit (message : String)
  deriving DecidableEq

abbrev Pair := String × Str

def isLetter (c : Char) : Bool := ('A' ≤ c && c ≤ 'Z') || ('a' ≤ c && c ≤ 'z')

/-- `[A-Za-z_][A-Za-z0-9_]*`. -/
def isKey : List Char → Bool
  | [] => false
  | c :: rest => (isLetter c || c == '_') && rest.all fun d => isAlphanumeric d || d == '_'

/-- The two groups of `^([A-Za-z_][A-Za-z0-9_]*)=(.*)$` in a line whose newline is stripped. -/
def matchLine (line : List Char) : Option (String × List Char) :=
  match line.dropWhile (· ≠ '=') with
  | [] => none
  | _ :: v =>
    if isKey (line.takeWhile (· ≠ '=')) ∧ '\n' ∉ v then some (String.ofList (line.takeWhile (· ≠ '=')),v)
    else none

def dropExport (line : List Char) : List Char :=
  if "export ".toList.isPrefixOf line then line.drop "export ".toList.length else line

/-- The key and the value text of a line that is not skipped. -/
def assignment (line : List Char) : Option (String × List Char) :=
  let line := rstripNewline line
  if line.all isSpace || (line.dropWhile isSpace).head? == some '#' then none
  else match matchLine (dropExport line) with
  | none => none
  | some (k,v) => if startsWith "sops_" k then none else some (k,v)

/-- The value that its text stands for. -/
def unquote (names : Names) (v : List Char) : Except Failure Str :=
  if inQuotes '"' v then
    match decodeUnicodeEscape names (asBytes (String.ofList (inside v))) with
    | some value => .ok value
    | none => .error .unicodeDecode
  else if inQuotes ShellWords.apostrophe v then .ok (str (inside v))
  else .ok (str v)

def parse (names : Names) : List (List Char) → Except Failure (List Pair)
  | [] => .ok []
  | line :: stream =>
    match assignment line with
    | none => parse names stream
    | some (k,v) => do
      let value ← unquote names v
      let pairs ← parse names stream
      .ok ((k,value) :: pairs)

structure Output where
  stdout : List Char
  failure : Option Failure
  deriving DecidableEq

def Output.raise (failure : Failure) : Output := ⟨[],some failure⟩

/-- `print` of each text in turn, of which none cannot be encoded. -/
def printAll : List (Option (List Char)) → Output
  | [] => ⟨[],none⟩
  | none :: _ => .raise .unicodeEncode
  | some text :: texts => ⟨text ++ '\n' :: (printAll texts).stdout,(printAll texts).failure⟩

def shellText (k : String) (v : List Char) : List Char :=
  "export".toList ++ ' ' :: (k.toList ++ '=' :: ShellWords.quote v)

def envfileText (k : String) (v : List Char) : List Char := k.toList ++ '=' :: v

def k8sText (k : String) (v : List Char) : List Char :=
  "  ".toList ++ (k.toList ++ ':' :: (" ".toList ++ Base64.encode (asBytes (String.ofList v))))

def k8sHead (name : String) : List Char :=
  ("apiVersion: v1\nkind: Secret\nmetadata:\n  name: " ++ name ++ "\ntype: Opaque\ndata:").toList

/-- The lines of the pairs. Only a value can hold a surrogate. -/
def render (text : String → List Char → List Char) (pairs : List Pair) : List (Option (List Char)) :=
  pairs.map fun pair => (encodable pair.2).map (text pair.1)

/-- Tuples are compared by the key and then by the value. -/
def PairLe (p q : Pair) : Prop := p.1 < q.1 ∨ (p.1 = q.1 ∧ p.2 ≤ q.2)

instance : DecidableRel PairLe := fun p q => inferInstanceAs (Decidable (p.1 < q.1 ∨ (p.1 = q.1 ∧ p.2 ≤ q.2)))

def sorted (pairs : List Pair) : List Pair := pairs.insertionSort PairLe

def isMultiline (v : Str) : Bool := v.contains (.char '\n') || v.contains (.char '\r')

def modes : List String := ["shell", "envfile", "k8s"]

def newlineMessage (bad : List String) : String :=
  "dotenv.py: " ++ ", ".intercalate bad ++ " contain newlines, which docker --env-file cannot\n" ++
  "represent — it would keep the first line and drop the rest.\n" ++
  "Use `just env-run <env> <cmd>` or `just env-k8s-secret <env>`,\n" ++
  "or store the value single-line (e.g. base64)."

/-- What is printed of the pairs in a mode. -/
def print (mode name : String) (pairs : List Pair) : Output :=
  if mode = "shell" then printAll (render shellText pairs)
  else if mode = "envfile" then
    let bad := (pairs.filter fun pair => isMultiline pair.2).map Prod.fst
    if bad ≠ [] then .raise (.exit (newlineMessage bad)) else printAll (render envfileText pairs)
  else printAll (some (k8sHead name) :: render k8sText (sorted pairs))

/-- The lines of `sys.stdin`, which translates no newlines. -/
def stdinLines (stdin : List Char) : List (List Char) := readLines stdin

/-- `argv` is without the name of the script. -/
def main (names : Names) (argv : List String) (stdin : List Char) : Output :=
  let mode := argv.head?.getD "shell"
  if !modes.contains mode then
    .raise (.exit ("dotenv.py: mode must be one of " ++ ", ".intercalate modes))
  else
    let name := argv.tail.head?.getD "app-env"
    match parse names (stdinLines stdin) with
    | .error failure => .raise failure
    | .ok pairs => print mode name pairs

end IntakeApi.Dotenv
