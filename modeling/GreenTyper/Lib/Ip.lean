/-
  GreenTyper.Lib.Ip — the text of an IP address (`std::net`).

  An IPv4 address is four octets between dots, without leading zeros; an IPv6 address is
  eight groups of hexadecimal digits between colons, of which `::` stands for one or more
  that are zero, and the last two of which may be an IPv4 address. The text of an IPv4
  address parses to it (`parseIp_ipv4`), and a text in brackets does not parse
  (`parseIp_bracket`).
-/

import GreenTyper.Lib.Text
import Mathlib.Data.Nat.Digits.Lemmas

namespace GreenTyper.Lib

structure Ipv4Addr where
  a : Fin 256
  b : Fin 256
  c : Fin 256
  d : Fin 256
  deriving DecidableEq

/-- Eight groups of 16 bits. -/
structure Ipv6Addr where
  segments : List (Fin 65536)
  eight : segments.length = 8
  deriving DecidableEq

inductive IpAddr where
  | v4 (address : Ipv4Addr)
  | v6 (address : Ipv6Addr)
  deriving DecidableEq

def Ipv4Addr.isLoopback (address : Ipv4Addr) : Bool := address.a == 127

def Ipv6Addr.isLoopback (address : Ipv6Addr) : Bool := address.segments == [0, 0, 0, 0, 0, 0, 0, 1]

def IpAddr.isLoopback : IpAddr → Bool
  | .v4 address => address.isLoopback
  | .v6 address => address.isLoopback

def digit (n : Nat) : Char := Char.ofNat (48 + n)

/-- A number in decimal. -/
def decimal (n : Nat) : List Char := if n = 0 then ['0'] else (Nat.digits 10 n).reverse.map digit

def octetText (n : Fin 256) : List Char :=
  if n.val < 10 then [digit n]
  else if n.val < 100 then [digit (n / 10), digit (n % 10)]
  else [digit (n / 100), digit (n / 10 % 10), digit (n % 10)]

def Ipv4Addr.text (address : Ipv4Addr) : List Char :=
  octetText address.a ++ '.' :: (octetText address.b ++ '.' :: (octetText address.c ++ '.' :: octetText address.d))

/-! ## Parsing -/

def isDigit (c : Char) : Bool := '0' ≤ c && c ≤ '9'

def isHexDigit (c : Char) : Bool := isDigit c || ('a' ≤ c && c ≤ 'f') || ('A' ≤ c && c ≤ 'F')

def hexValue (c : Char) : Nat :=
  if isDigit c then c.toNat - 48 else if 'a' ≤ c then c.toNat - 87 else c.toNat - 55

def valueOf (radix : Nat) (digits : List Char) : Nat := digits.foldl (fun value c => value * radix + hexValue c) 0

def readOctet (cs : List Char) : Option (Fin 256 × List Char) :=
  let digits := cs.takeWhile isDigit
  if digits = [] ∨ 3 < digits.length ∨ (digits.head? = some '0' ∧ 1 < digits.length) then none
  else if h : valueOf 10 digits < 256 then some (⟨valueOf 10 digits, h⟩, cs.dropWhile isDigit)
  else none

def readChar (c : Char) : List Char → Option (List Char)
  | [] => none
  | d :: cs => if d = c then some cs else none

def readIpv4 (cs : List Char) : Option (Ipv4Addr × List Char) := do
  let (a, cs) ← readOctet cs
  let cs ← readChar '.' cs
  let (b, cs) ← readOctet cs
  let cs ← readChar '.' cs
  let (c, cs) ← readOctet cs
  let cs ← readChar '.' cs
  let (d, cs) ← readOctet cs
  return (⟨a, b, c, d⟩, cs)

def readGroup (cs : List Char) : Option (Fin 65536 × List Char) :=
  let digits := cs.takeWhile isHexDigit
  if digits = [] ∨ 4 < digits.length then none
  else if h : valueOf 16 digits < 65536 then some (⟨valueOf 16 digits, h⟩, cs.dropWhile isHexDigit)
  else none

/-- The two groups of an IPv4 address. -/
def Ipv4Addr.groups (address : Ipv4Addr) : List (Fin 65536) :=
  [⟨address.a * 256 + address.b, by omega⟩, ⟨address.c * 256 + address.d, by omega⟩]

/-- Up to `limit` groups, and whether an IPv4 address ended them. Every group but the first has its colon. -/
def readGroups (first : Bool) : Nat → List Char → List (Fin 65536) × Bool × List Char
  | 0, cs => ([], false, cs)
  | limit + 1, cs =>
    let body := if first then some cs else readChar ':' cs
    match (if limit = 0 then none else body.bind readIpv4) with
    | some (address, rest) => (address.groups, true, rest)
    | none =>
      match body.bind readGroup with
      | some (group, rest) =>
        let (groups, ipv4, rest) := readGroups false limit rest
        (group :: groups, ipv4, rest)
      | none => ([], false, cs)

def ipv6Of (segments : List (Fin 65536)) : Option Ipv6Addr :=
  if h : segments.length = 8 then some ⟨segments, h⟩ else none

def readIpv6 (cs : List Char) : Option (Ipv6Addr × List Char) :=
  let (head, headIpv4, cs) := readGroups true 8 cs
  if head.length = 8 then (ipv6Of head).map (·, cs)
  else if headIpv4 then none
  else do
    let cs ← readChar ':' cs
    let cs ← readChar ':' cs
    let (tail, _, cs) := readGroups true (7 - head.length) cs
    let address ← ipv6Of (head ++ List.replicate (8 - head.length - tail.length) 0 ++ tail)
    return (address, cs)

/-- `str::parse::<IpAddr>`. -/
def parseIp (text : String) : Option IpAddr :=
  match readIpv4 text.toList with
  | some (address, []) => some (.v4 address)
  | _ =>
    match readIpv6 text.toList with
    | some (address, []) => some (.v6 address)
    | _ => none

example : parseIp "::1" = some (.v6 ⟨[0, 0, 0, 0, 0, 0, 0, 1], rfl⟩) := by decide +kernel

/-! ## Texts that parse, and texts that do not -/

theorem hexValue_digit : ∀ d, d < 10 → hexValue (digit d) = d := by decide

theorem valueOf_decimal (n : Nat) : valueOf 10 (decimal n) = n := by
  by_cases hn : n = 0
  · rw [hn]
    rfl
  · have hdigit : ∀ ds : List Nat, (∀ d ∈ ds, d < 10) →
        (ds.map digit).foldr (fun c value => value * 10 + hexValue c) 0 = Nat.ofDigits 10 ds := by
      intro ds
      induction ds with
      | nil => intro _; rfl
      | cons d ds ih =>
        intro h
        obtain ⟨hd, hds⟩ := List.forall_mem_cons.mp h
        rw [List.map_cons, List.foldr_cons, ih hds, hexValue_digit d hd, Nat.ofDigits_cons]
        omega
    rw [decimal, if_neg hn, valueOf, List.map_reverse, List.foldl_reverse, hdigit _ fun d => Nat.digits_lt_base (by decide),
      Nat.ofDigits_digits]

theorem decimal_inj {m n : Nat} (h : decimal m = decimal n) : m = n := by
  rw [← valueOf_decimal m, h, valueOf_decimal]

theorem octetText_digits : ∀ n : Fin 256, (octetText n).all isDigit = true := by decide +kernel

theorem octetText_value : ∀ n : Fin 256, valueOf 10 (octetText n) = n.val := by decide +kernel

theorem octetText_shape : ∀ n : Fin 256, ¬ (octetText n = [] ∨ 3 < (octetText n).length ∨
    ((octetText n).head? = some '0' ∧ 1 < (octetText n).length)) := by decide +kernel

theorem takeWhile_octet (n : Fin 256) {cs : List Char} (h : cs.takeWhile isDigit = []) :
    (octetText n ++ cs).takeWhile isDigit = octetText n := by
  rw [List.takeWhile_append_of_pos (List.all_eq_true.mp (octetText_digits n)), h, List.append_nil]

theorem dropWhile_octet (n : Fin 256) {cs : List Char} (h : cs.takeWhile isDigit = []) :
    (octetText n ++ cs).dropWhile isDigit = cs := by
  have hsplit := List.takeWhile_append_dropWhile (p := isDigit) (l := octetText n ++ cs)
  rw [takeWhile_octet n h] at hsplit
  exact List.append_cancel_left hsplit

/-- An octet is read off a text that goes on with no digit. -/
theorem readOctet_text (n : Fin 256) {cs : List Char} (h : cs.takeWhile isDigit = []) :
    readOctet (octetText n ++ cs) = some (n, cs) := by
  have hlt : valueOf 10 (octetText n) < 256 := by
    rw [octetText_value]
    exact n.isLt
  simp only [readOctet, takeWhile_octet n h, dropWhile_octet n h, if_neg (octetText_shape n), dif_pos hlt]
  simp only [octetText_value]

theorem parseIp_ipv4 (address : Ipv4Addr) : parseIp (String.ofList address.text) = some (.v4 address) := by
  have hdot : ∀ cs : List Char, ('.' :: cs).takeWhile isDigit = [] := fun cs => rfl
  have hlast : readOctet (octetText address.d) = some (address.d, []) := by
    have := @readOctet_text address.d [] rfl
    rwa [List.append_nil] at this
  have hread : readIpv4 address.text = some (address, []) := by
    simp only [readIpv4, Ipv4Addr.text, readOctet_text _ (hdot _), readChar, if_true, hlast, Option.bind_eq_bind, Option.bind_some]
    rfl
  rw [parseIp, String.toList_ofList, hread]

theorem readOctet_bracket (cs : List Char) : readOctet ('[' :: cs) = none := by
  simp [readOctet, isDigit]

theorem readGroup_bracket (cs : List Char) : readGroup ('[' :: cs) = none := by
  simp [readGroup, isHexDigit, isDigit]

/-- A text in brackets is no IP address. -/
theorem parseIp_bracket (cs : List Char) : parseIp (String.ofList ('[' :: cs)) = none := by
  have h4 : readIpv4 ('[' :: cs) = none := by simp [readIpv4, readOctet_bracket]
  have hgroups : readGroups true 8 ('[' :: cs) = ([], false, '[' :: cs) := by
    simp [readGroups, h4, readGroup_bracket]
  have h6 : readIpv6 ('[' :: cs) = none := by simp [readIpv6, hgroups, readChar]
  rw [parseIp, String.toList_ofList, h4, h6]

end GreenTyper.Lib
