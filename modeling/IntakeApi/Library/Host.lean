import IntakeApi.Library.SocketAddr
import Mathlib.Data.List.Basic

/-! The hosts of origins, in the one text that the URL standard has for each: names in lower case that
are no number, and addresses as they are serialized. Which labels of an internationalized name are
kept is a parameter. -/
namespace Web

open Net (Ipv4Addr Ipv6Addr)

/-- The marks that a host name may have in a URL, an asterisk apart. -/
def hostMarks : List Char := "-._~!$&'()+;=".toList

def isDomainChar (c : Char) : Bool := c.isLower || c.isDigit || hostMarks.contains c

def isHexDigit (c : Char) : Bool := c.isDigit || ('a' ≤ c && c ≤ 'f')

/-- A part of a host that is read as a number, in decimal or octal or behind a `0x`. -/
def isNumber (part : List Char) : Bool :=
  (!part.isEmpty && part.all Char.isDigit) || ("0x".toList.isPrefixOf part && (part.drop 2).all isHexDigit)

/-- A host that is read as an address: its last part, but for an empty one, is a number. -/
def endsInNumber (host : List Char) : Bool :=
  match (host.splitOn '.').reverse with
  | [] :: last :: _ => isNumber last
  | last :: _ => isNumber last
  | [] => false

def serializeIpv4 (ip : Ipv4Addr) : List Char :=
  ['.'].intercalate ([ip.a, ip.b, ip.c, ip.d].map fun octet : Fin 256 => Nat.toDigits 10 octet)

def serializeGroups (groups : List (Fin 65536)) : List Char :=
  [':'].intercalate (groups.map fun group : Fin 65536 => Nat.toDigits 16 group)

def zeros (groups : List (Fin 65536)) (start : Nat) : Nat := ((groups.drop start).takeWhile (·.val == 0)).length

/-- The first of the longest runs of two zeros or more. -/
def compressed (groups : List (Fin 65536)) : Option (Nat × Nat) :=
  let longest := ((List.range groups.length).map (zeros groups)).foldr max 0
  if longest < 2 then none
  else ((List.range groups.length).find? fun start => zeros groups start = longest).map fun start => (start,longest)

def serializeIpv6 (ip : Ipv6Addr) : List Char :=
  match compressed ip.groups with
  | none => serializeGroups ip.groups
  | some (start,length) =>
    serializeGroups (ip.groups.take start) ++ ("::".toList ++ serializeGroups (ip.groups.drop (start + length)))

example : serializeIpv6 ⟨[0x2001, 0xdb8, 0, 0, 1, 0, 0, 1],rfl⟩ = "2001:db8::1:0:0:1".toList := by decide +kernel

/-- A host as it is written in an origin. -/
inductive IsOriginHost (isKept : List Char → Prop) : List Char → Prop where
  | name {host : List Char} : host ≠ [] → (∀ c ∈ host, isDomainChar c = true) → endsInNumber host = false →
      (∀ label ∈ host.splitOn '.', "xn--".toList <+: label → isKept label) → IsOriginHost isKept host
  | ipv4 (ip : Ipv4Addr) : IsOriginHost isKept (serializeIpv4 ip)
  | ipv6 (ip : Ipv6Addr) : IsOriginHost isKept ('[' :: (serializeIpv6 ip ++ [']']))

def isHostChar (c : Char) : Bool := isDomainChar c || c == ':' || c == '[' || c == ']'

theorem digitChar_hex {n : Nat} (small : n < 16) : isHexDigit n.digitChar = true := by
  have table : ∀ n < 16, isHexDigit n.digitChar = true := by decide
  exact table n small

theorem toDigits_hex {n : Nat} {c : Char} (member : c ∈ Nat.toDigits 16 n) : isHexDigit c = true := by
  induction n using Nat.strong_induction_on with
  | _ n ih =>
    rw [Nat.toDigits_eq_if (by decide)] at member
    split at member
    · next small =>
      rw [List.mem_singleton.mp member]
      exact digitChar_hex small
    · next large =>
      rcases List.mem_append.mp member with front | last
      · exact ih (n / 16) (Nat.div_lt_self (by omega) (by decide)) front
      · rw [List.mem_singleton.mp last]
        exact digitChar_hex (Nat.mod_lt n (by decide))

section Chars

variable {isKept : List Char → Prop} {host : List Char} {c : Char}

theorem intercalate_chars {separator : Char} {parts : List (List Char)} (member : c ∈ [separator].intercalate parts) :
    c = separator ∨ ∃ part ∈ parts, c ∈ part := by
  induction parts with
  | nil => cases member
  | cons part parts ih =>
    cases parts with
    | nil =>
      rw [List.intercalate_singleton] at member
      exact .inr ⟨part,List.mem_cons_self,member⟩
    | cons next parts =>
      rw [List.intercalate_cons_cons, List.mem_append, List.mem_append, List.mem_singleton] at member
      rcases member with (inside | rfl) | later
      · exact .inr ⟨part,List.mem_cons_self,inside⟩
      · exact .inl rfl
      · exact (ih later).imp id fun ⟨other,there,inside⟩ => ⟨other,List.mem_cons_of_mem part there,inside⟩

theorem isHostChar_of_domain (name : isDomainChar c = true) : isHostChar c = true := by
  rw [isHostChar, name]
  rfl

theorem isHostChar_of_digit (digit : c.isDigit = true) : isHostChar c = true :=
  isHostChar_of_domain (by rw [isDomainChar, digit, Bool.or_true, Bool.true_or])

theorem isHostChar_of_hex (hex : isHexDigit c = true) : isHostChar c = true := by
  rcases Bool.or_eq_true_iff.mp hex with digit | letter
  · exact isHostChar_of_digit digit
  · have lower : c.isLower = true := by
      have range : c.isLower = (c.val ≥ 'a'.val && c.val ≤ 'z'.val) := rfl
      simp only [Bool.and_eq_true, decide_eq_true_eq, Char.le_def, UInt32.le_iff_toNat_le, Char.reduceVal,
        UInt32.reduceToNat] at letter
      rw [range]
      simp only [Bool.and_eq_true, decide_eq_true_eq, UInt32.le_iff_toNat_le, ge_iff_le, Char.reduceVal,
        UInt32.reduceToNat]
      omega
    exact isHostChar_of_domain (by rw [isDomainChar, lower, Bool.true_or, Bool.true_or])

theorem serializeIpv4_chars {ip : Ipv4Addr} (member : c ∈ serializeIpv4 ip) : isHostChar c = true := by
  rcases intercalate_chars member with rfl | ⟨part,there,inside⟩
  · decide
  · obtain ⟨octet,-,rfl⟩ := List.mem_map.mp there
    exact isHostChar_of_digit (Nat.isDigit_of_mem_toDigits (by decide) (by decide) inside)

theorem serializeGroups_chars {groups : List (Fin 65536)} (member : c ∈ serializeGroups groups) :
    isHostChar c = true := by
  rcases intercalate_chars member with rfl | ⟨part,there,inside⟩
  · decide
  · obtain ⟨group,-,rfl⟩ := List.mem_map.mp there
    exact isHostChar_of_hex (toDigits_hex inside)

theorem serializeIpv6_chars {ip : Ipv6Addr} (member : c ∈ serializeIpv6 ip) : isHostChar c = true := by
  unfold serializeIpv6 at member
  split at member
  · exact serializeGroups_chars member
  · rcases List.mem_append.mp member with front | rest
    · exact serializeGroups_chars front
    rcases List.mem_append.mp rest with colons | back
    · have both : ∀ c ∈ "::".toList, isHostChar c = true := List.forall_iff_forall_mem.mp (by decide)
      exact both c colons
    · exact serializeGroups_chars back

theorem isOriginHost_chars (origin : IsOriginHost isKept host) : ∀ c ∈ host, isHostChar c = true := by
  cases origin with
  | name _ chars => exact fun c member => isHostChar_of_domain (chars c member)
  | ipv4 ip => exact fun c => serializeIpv4_chars
  | ipv6 ip =>
    refine List.forall_mem_cons.mpr ⟨by decide,fun c member => ?_⟩
    rcases List.mem_append.mp member with inside | last
    · exact serializeIpv6_chars inside
    · rw [List.mem_singleton.mp last]
      decide

theorem isOriginHost_ne_nil (origin : IsOriginHost isKept host) : host ≠ [] := by
  cases origin with
  | name some_host => exact some_host
  | ipv4 ip =>
    have some_digit := @Nat.toDigits_ne_nil ip.a 10
    rw [serializeIpv4, List.map_cons, List.map_cons, List.intercalate_cons_cons]
    exact List.append_ne_nil_of_left_ne_nil (List.append_ne_nil_of_left_ne_nil some_digit _) _
  | ipv6 => exact List.cons_ne_nil _ _

theorem IsOriginHost.mono {isKept' : List Char → Prop} (fewer : ∀ label, isKept label → isKept' label)
    (origin : IsOriginHost isKept host) : IsOriginHost isKept' host := by
  cases origin with
  | name some_host chars unnumbered kept =>
    exact .name some_host chars unnumbered fun label member coded => fewer label (kept label member coded)
  | ipv4 ip => exact .ipv4 ip
  | ipv6 ip => exact .ipv6 ip

end Chars

end Web
