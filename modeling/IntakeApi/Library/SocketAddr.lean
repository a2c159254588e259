import Mathlib.Data.Fin.Basic
import Mathlib.Data.List.TakeWhile

/-! Socket addresses as text, read by the recursive descent of Rust's `SocketAddr::from_str`: an
IPv4 address with a port, or a bracketed IPv6 address with an optional scope and a port. -/
namespace Net

structure Ipv4Addr where
  a : Fin 256
  b : Fin 256
  c : Fin 256
  d : Fin 256
  deriving DecidableEq, Repr

structure Ipv6Addr where
  groups : List (Fin 65536)
  eight : groups.length = 8
  deriving DecidableEq, Repr

inductive SocketAddr where
  | v4 (ip : Ipv4Addr) (port : Fin 65536)
  | v6 (ip : Ipv6Addr) (scope : Fin 4294967296) (port : Fin 65536)
  deriving DecidableEq, Repr

/-- `char::to_digit`. -/
def toDigit (radix : Nat) (c : Char) : Option Nat :=
  (if '0' ≤ c && c ≤ '9' then some (c.toNat - 48)
    else if 'a' ≤ c && c ≤ 'z' then some (c.toNat - 87)
    else if 'A' ≤ c && c ≤ 'Z' then some (c.toNat - 55)
    else none).filter (· < radix)

def isDigit (radix : Nat) (c : Char) : Bool := (toDigit radix c).isSome

def digitsValue (radix : Nat) (digits : List Char) : Nat :=
  digits.foldl (fun n c => radix * n + (toDigit radix c).getD 0) 0

/-- All the digits there are; `zeros` says whether there may be leading ones. -/
def readNumber (radix : Nat) (maxDigits : Option Nat) (zeros : Bool) (bound : Nat) (chars : List Char) :
    Option (Fin bound × List Char) :=
  let digits := chars.takeWhile (isDigit radix)
  if digits.isEmpty || maxDigits.any (· < digits.length) ||
      (!zeros && digits.head? = some '0' && 1 < digits.length) then none
  else if fits : digitsValue radix digits < bound then
    some (⟨digitsValue radix digits,fits⟩,chars.dropWhile (isDigit radix))
  else none

def readChar (c : Char) : List Char → Option (List Char)
  | [] => none
  | first :: rest => if first = c then some rest else none

/-- The first of several items has no separator before it. -/
def readSeparated (separator : Char) (first : Bool) (read : List Char → Option (α × List Char))
    (chars : List Char) : Option (α × List Char) :=
  if first then read chars else (readChar separator chars).bind read

def readOctet (first : Bool) : List Char → Option (Fin 256 × List Char) :=
  readSeparated '.' first (readNumber 10 (some 3) false 256)

def readIpv4 (chars : List Char) : Option (Ipv4Addr × List Char) := do
  let (a,chars) ← readOctet true chars
  let (b,chars) ← readOctet false chars
  let (c,chars) ← readOctet false chars
  let (d,chars) ← readOctet false chars
  return (⟨a,b,c,d⟩,chars)

def wide (high low : Fin 256) : Fin 65536 := ⟨256 * high.val + low.val,by omega⟩

/-- `read_groups`: the groups, whether an IPv4 address ends them, and what is left. -/
def readGroups : (room : Nat) → (first : Bool) → List Char → List (Fin 65536) × Bool × List Char
  | 0, _, chars => ([],false,chars)
  | room + 1, first, chars =>
    match if room = 0 then none else readSeparated ':' first readIpv4 chars with
    | some (ip,rest) => ([wide ip.a ip.b,wide ip.c ip.d],true,rest)
    | none =>
      match readSeparated ':' first (readNumber 16 (some 4) true 65536) chars with
      | none => ([],false,chars)
      | some (group,rest) =>
        let (groups,ended,rest) := readGroups room false rest
        (group :: groups,ended,rest)

theorem readGroups_length (room : Nat) (first : Bool) (chars : List Char) :
    (readGroups room first chars).1.length ≤ room := by
  induction room generalizing first chars with
  | zero => exact Nat.le_refl _
  | succ room ih =>
    rw [readGroups]
    split
    · next found =>
      have more : room ≠ 0 := by
        rintro rfl
        cases found
      simp only [List.length_cons, List.length_nil]
      omega
    · split
      · exact Nat.zero_le _
      · exact Nat.succ_le_succ (ih false _)

/-- The zeros that `::` stands for. -/
def expand (head tail : List (Fin 65536)) (fits : head.length + tail.length ≤ 8) : Ipv6Addr where
  groups := head ++ List.replicate (8 - head.length - tail.length) 0 ++ tail
  eight := by simp only [List.length_append, List.length_replicate]; omega

def readIpv6 (chars : List Char) : Option (Ipv6Addr × List Char) :=
  let head := readGroups 8 true chars
  have front : head.1.length ≤ 8 := readGroups_length 8 true chars
  if whole : head.1.length = 8 then some (⟨head.1,whole⟩,head.2.2)
  else if head.2.1 then none
  else do
    let chars ← readChar ':' head.2.2
    let chars ← readChar ':' chars
    let tail := readGroups (7 - head.1.length) true chars
    have back : tail.1.length ≤ 7 - head.1.length := readGroups_length (7 - head.1.length) true chars
    have fits : head.1.length + tail.1.length ≤ 8 := by omega
    return (expand head.1 tail.1 fits,tail.2.2)

def readPort (chars : List Char) : Option (Fin 65536 × List Char) :=
  (readChar ':' chars).bind (readNumber 10 none true 65536)

def readSocketAddrV4 (chars : List Char) : Option (SocketAddr × List Char) := do
  let (ip,chars) ← readIpv4 chars
  let (port,chars) ← readPort chars
  return (.v4 ip port,chars)

def readScope (chars : List Char) : Fin 4294967296 × List Char :=
  ((readChar '%' chars).bind (readNumber 10 none true 4294967296)).getD (0,chars)

def readSocketAddrV6 (chars : List Char) : Option (SocketAddr × List Char) := do
  let chars ← readChar '[' chars
  let (ip,chars) ← readIpv6 chars
  let (scope,chars) := readScope chars
  let chars ← readChar ']' chars
  let (port,chars) ← readPort chars
  return (.v6 ip scope port,chars)

/-- `SocketAddr::from_str`: nothing may be left over. -/
def SocketAddr.parse (text : String) : Option SocketAddr :=
  match (readSocketAddrV4 text.toList).or (readSocketAddrV6 text.toList) with
  | some (address,[]) => some address
  | _ => none

/-- How an address is written: the decimal octets and the port. -/
def Ipv4Addr.text (ip : Ipv4Addr) (port : Fin 65536) : List Char :=
  Nat.toDigits 10 ip.a ++ '.' :: (Nat.toDigits 10 ip.b ++ '.' :: (Nat.toDigits 10 ip.c ++
    '.' :: (Nat.toDigits 10 ip.d ++ ':' :: Nat.toDigits 10 port)))

section Digits

theorem isDigit_ten {c : Char} (digit : c.isDigit = true) :
    isDigit 10 c = true ∧ (toDigit 10 c).getD 0 = c.toNat - '0'.toNat := by
  simp only [Char.isDigit, Bool.and_eq_true, decide_eq_true_eq] at digit
  have low : '0' ≤ c := digit.1
  have high : c ≤ '9' := digit.2
  have small : c.toNat - 48 < 10 := by
    have bound : c.toNat ≤ 57 := digit.2
    omega
  have value : toDigit 10 c = some (c.toNat - 48) := by
    simp [toDigit, low, high, small]
  exact ⟨by rw [isDigit, value]; rfl,by rw [value]; rfl⟩

theorem digits_isDigit {n : Nat} : ∀ c ∈ Nat.toDigits 10 n, c.isDigit = true :=
  fun _ member => Nat.isDigit_of_mem_toDigits (by decide) (by decide) member

theorem digitsValue_toDigits (n : Nat) : digitsValue 10 (Nat.toDigits 10 n) = n := by
  have same (digits : List Char) (start : Nat) (all : ∀ c ∈ digits, c.isDigit = true) :
      digits.foldl (fun n c => 10 * n + (toDigit 10 c).getD 0) start =
        digits.foldl (fun n c => 10 * n + (c.toNat - '0'.toNat)) start := by
    induction digits generalizing start with
    | nil => rfl
    | cons c digits ih =>
      rw [List.foldl_cons, List.foldl_cons, (isDigit_ten (all c List.mem_cons_self)).2]
      exact ih _ fun d member => all d (List.mem_cons_of_mem _ member)
  rw [digitsValue, same _ _ digits_isDigit, ← Nat.ofDigitChars_eq_foldl, Nat.ofDigitChars_ten_toDigits]

theorem octet_digits : ∀ n : Fin 256, (Nat.toDigits 10 n.val).length ≤ 3 ∧
    ((Nat.toDigits 10 n.val).head? = some '0' → (Nat.toDigits 10 n.val).length ≤ 1) := by decide +kernel

/-- A number is read up to what is no digit. -/
theorem readNumber_toDigits {bound : Nat} (n : Fin bound) {maxDigits : Option Nat} {zeros : Bool} {rest : List Char}
    (short : ∀ most ∈ maxDigits, (Nat.toDigits 10 n).length ≤ most)
    (plain : zeros = false → (Nat.toDigits 10 n.val).head? = some '0' → (Nat.toDigits 10 n.val).length ≤ 1)
    (stops : ∀ c ∈ rest.head?, isDigit 10 c = false) :
    readNumber 10 maxDigits zeros bound (Nat.toDigits 10 n ++ rest) = some (n,rest) := by
  have digits : ∀ c ∈ Nat.toDigits 10 n.val, isDigit 10 c = true :=
    fun c member => (isDigit_ten (digits_isDigit c member)).1
  have taken : (Nat.toDigits 10 n.val ++ rest).takeWhile (isDigit 10) = Nat.toDigits 10 n.val := by
    rw [List.takeWhile_append_of_pos digits]
    cases rest with
    | nil => simp
    | cons c rest => rw [List.takeWhile_cons_of_neg (by simp [stops c rfl]), List.append_nil]
  have dropped : (Nat.toDigits 10 n.val ++ rest).dropWhile (isDigit 10) = rest := by
    rw [List.dropWhile_append_of_pos digits]
    cases rest with
    | nil => rfl
    | cons c rest => rw [List.dropWhile_cons_of_neg (by simp [stops c rfl])]
  have some_digit : (Nat.toDigits 10 n.val).isEmpty = false := by simp [Nat.toDigits_ne_nil]
  have few : maxDigits.any (fun most => decide (most < (Nat.toDigits 10 n.val).length)) = false := by
    cases maxDigits with
    | none => rfl
    | some most => simpa using short most rfl
  have unpadded : (!zeros && decide ((Nat.toDigits 10 n.val).head? = some '0') &&
      decide (1 < (Nat.toDigits 10 n.val).length)) = false := by
    cases zeros with
    | true => rfl
    | false =>
      by_cases zero : (Nat.toDigits 10 n.val).head? = some '0'
      · simpa [zero] using plain rfl zero
      · simp [zero]
  simp only [readNumber, taken, dropped, some_digit, few, unpadded, Bool.or_self, Bool.false_eq_true, if_false,
    digitsValue_toDigits, n.isLt, dif_pos]

end Digits

section RoundTrip

variable (octet : Fin 256) {rest : List Char} (stops : ∀ c ∈ rest.head?, isDigit 10 c = false)

include stops

theorem readOctet_first : readOctet true (Nat.toDigits 10 octet ++ rest) = some (octet,rest) :=
  readNumber_toDigits octet (fun _ most => Option.some.inj most ▸ (octet_digits octet).1)
    (fun _ => (octet_digits octet).2) stops

theorem readOctet_next : readOctet false ('.' :: (Nat.toDigits 10 octet ++ rest)) = some (octet,rest) :=
  readNumber_toDigits octet (fun _ most => Option.some.inj most ▸ (octet_digits octet).1)
    (fun _ => (octet_digits octet).2) stops

omit stops in
/-- What is written is read back. -/
theorem SocketAddr.parse_text (ip : Ipv4Addr) (port : Fin 65536) :
    SocketAddr.parse (String.ofList (ip.text port)) = some (.v4 ip port) := by
  have dot (chars : List Char) : ∀ c ∈ ('.' :: chars).head?, isDigit 10 c = false := by
    rintro c same
    cases same
    decide
  have colon (chars : List Char) : ∀ c ∈ (':' :: chars).head?, isDigit 10 c = false := by
    rintro c same
    cases same
    decide
  have ported : readPort (':' :: Nat.toDigits 10 port) = some (port,[]) := by
    have read := @readNumber_toDigits 65536 port none true [] (fun _ none => nomatch none) (fun no => nomatch no)
      (fun _ none => nomatch none)
    rw [List.append_nil] at read
    exact read
  have addressed : readSocketAddrV4 (ip.text port) = some (.v4 ip port,[]) := by
    rw [readSocketAddrV4, readIpv4, Ipv4Addr.text, readOctet_first ip.a (dot _)]
    simp only [Option.bind_eq_bind, Option.bind_some, readOctet_next ip.b (dot _), readOctet_next ip.c (dot _),
      readOctet_next ip.d (colon _), ported, Option.pure_def]
  rw [SocketAddr.parse, String.toList_ofList, addressed, Option.some_or]

end RoundTrip

theorem readNumber_head {radix bound : Nat} {maxDigits : Option Nat} {zeros : Bool} {chars rest : List Char}
    {n : Fin bound} (read : readNumber radix maxDigits zeros bound chars = some (n,rest)) :
    ∃ c, chars.head? = some c ∧ isDigit radix c = true := by
  cases chars with
  | nil => simp [readNumber] at read
  | cons c chars =>
    refine ⟨c,rfl,?_⟩
    by_contra other
    rw [readNumber, List.takeWhile_cons_of_neg other] at read
    simp at read

/-- No address starts with a letter: names of hosts are none. -/
theorem SocketAddr.parse_head {text : String} {address : SocketAddr} (parsed : SocketAddr.parse text = some address) :
    ∃ c, text.toList.head? = some c ∧ (c = '[' ∨ isDigit 10 c = true) := by
  unfold SocketAddr.parse at parsed
  cases four : readSocketAddrV4 text.toList with
  | some read =>
    obtain ⟨⟨ip,rest⟩,addressed,-⟩ := Option.bind_eq_some_iff.mp four
    obtain ⟨⟨a,rest⟩,octet,-⟩ := Option.bind_eq_some_iff.mp addressed
    obtain ⟨c,head,digit⟩ := readNumber_head octet
    exact ⟨c,head,.inr digit⟩
  | none =>
    cases six : readSocketAddrV6 text.toList with
    | none => rw [four, six] at parsed; cases parsed
    | some read =>
      obtain ⟨rest,bracket,-⟩ := Option.bind_eq_some_iff.mp six
      cases chars : text.toList with
      | nil => rw [chars] at bracket; cases bracket
      | cons c rest =>
        rw [chars, readChar] at bracket
        split at bracket
        · next same => exact ⟨c,rfl,.inl same⟩
        · cases bracket

example : SocketAddr.parse "[2001:db8::1%7]:443" =
    some (.v6 ⟨[0x2001,0xdb8,0,0,0,0,0,1],rfl⟩ 7 443) := by decide +kernel
example : SocketAddr.parse "[::ffff:10.0.0.1]:80" =
    some (.v6 ⟨[0,0,0,0,0,0xffff,0x0a00,1],rfl⟩ 0 80) := by decide +kernel
example : SocketAddr.parse "010.0.0.1:80" = none := by decide +kernel
example : SocketAddr.parse "localhost:8080" = none := by decide +kernel

end Net
