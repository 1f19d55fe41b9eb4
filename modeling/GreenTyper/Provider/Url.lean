/-
  GreenTyper.Provider.Url — the URL library (`url`), as far as the origin policies use it.

  The library is a parameter: how it parses, and how it writes an IPv6 address. What the
  policies rely on is `UrlLibrary.Lawful`. A URL's origin is its scheme, host and port;
  its text tells them apart (`originText_inj`).
-/

import GreenTyper.Lib.Ip

namespace GreenTyper.Provider

open Lib

inductive Host where
  | domain (name : String)
  | ipv4 (address : Ipv4Addr)
  | ipv6 (address : Ipv6Addr)
  deriving DecidableEq

structure Url where
  scheme : String
  username : String
  password : Option String
  host : Option Host
  port : Option Nat
  path : String
  query : Option String
  fragment : Option String
  deriving DecidableEq

/-- An HTTP(S) URL with a host and none of the parts that an origin must not have. -/
structure Url.Web (url : Url) : Prop where
  scheme : url.scheme = "http" ∨ url.scheme = "https"
  host : url.host ≠ none
  username : url.username = ""
  password : url.password = none
  query : url.query = none
  fragment : url.fragment = none

structure UrlLibrary where
  parse : String → Option Url
  ipv6Text : Ipv6Addr → List Char

/-- Text that the URL parser does not cut: no whitespace around it and no control characters. -/
def Uncut (text : String) : Prop := trim text = text ∧ text.toList.any isControl = false

/-- No character that ends a path or that the parser takes for a slash. -/
def PathText (text : String) : Prop := '?' ∉ text.toList ∧ '#' ∉ text.toList ∧ '\\' ∉ text.toList

/-- What is assumed of the library. After a web URL that names a host, path text goes into
    the path alone, and a slash at the end is not missed. A domain is not an IP address and
    has none of the characters that end a host; an IPv6 address has a text of its own. -/
structure UrlLibrary.Lawful (lib : UrlLibrary) : Prop where
  append : ∀ {text more : String} {url : Url}, lib.parse text = some url → url.Web →
    text.toList.getLast? = some '/' ∨ (Uncut text ∧ more.toList.head? = some '/') → PathText more →
    ∃ path, lib.parse (text ++ more) = some { url with path := path }
  drop : ∀ {text : String} {url : Url}, lib.parse (text ++ "/") = some url → url.Web →
    ∃ path, lib.parse text = some { url with path := path }
  domain : ∀ {text name : String} {url : Url}, lib.parse text = some url → url.host = some (.domain name) →
    parseIp name = none ∧ ':' ∉ name.toList ∧ '[' ∉ name.toList
  ipv6_inj : Function.Injective lib.ipv6Text
  ipv6_closed : ∀ address, ']' ∉ lib.ipv6Text address

/-! ## Hosts -/

/-- `Url::host_str`, of the host. -/
def UrlLibrary.hostStr (lib : UrlLibrary) : Host → String
  | .domain name => name
  | .ipv4 address => String.ofList address.text
  | .ipv6 address => String.ofList ('[' :: (lib.ipv6Text address ++ [']']))

/-- `str::eq_ignore_ascii_case`. -/
def eqIgnoreAsciiCase (left right : String) : Bool := left.toList.map Char.toLower == right.toList.map Char.toLower

/-- A host that a URL of the library can have. -/
def Host.Parsed : Host → Prop
  | .domain name => parseIp name = none ∧ ':' ∉ name.toList ∧ '[' ∉ name.toList
  | _ => True

theorem UrlLibrary.Lawful.parsed {lib : UrlLibrary} (hlib : lib.Lawful) {text : String} {url : Url} {host : Host}
    (h : lib.parse text = some url) (hhost : url.host = some host) : host.Parsed := by
  cases host with
  | domain name => exact hlib.domain h hhost
  | ipv4 | ipv6 => trivial

/-! ## Origins -/

/-- The host of a URL's origin with its scheme and port. -/
structure Origin where
  scheme : String
  host : Host
  port : Nat
  deriving DecidableEq

def defaultPort (scheme : String) : Nat := if scheme = "https" then 443 else 80

/-- `Url::origin`, of a web URL. -/
def Url.origin (url : Url) : Option Origin := url.host.map fun host => ⟨url.scheme, host, url.port.getD (defaultPort url.scheme)⟩

def portText (scheme : String) (port : Nat) : List Char := if port = defaultPort scheme then [] else ':' :: decimal port

/-- `Origin::ascii_serialization`. -/
def UrlLibrary.originText (lib : UrlLibrary) (origin : Origin) : List Char :=
  origin.scheme.toList ++ "://".toList ++ (lib.hostStr origin.host).toList ++ portText origin.scheme origin.port

section Texts

variable {lib : UrlLibrary}

theorem octetText_colon : ∀ n : Fin 256, (octetText n).contains ':' = false := by decide +kernel

theorem octetText_head : ∀ n : Fin 256, ((octetText n).head?.map isDigit) = some true := by decide +kernel

theorem ipv4Text_colon (address : Ipv4Addr) : ':' ∉ address.text := by
  have h : ∀ n : Fin 256, ':' ∉ octetText n := by
    intro n hm
    have := octetText_colon n
    simp [hm] at this
  simp [Ipv4Addr.text, h]

/-- An IPv4 address starts with a digit. -/
theorem ipv4Text_head (address : Ipv4Addr) : ∃ c cs, address.text = c :: cs ∧ isDigit c = true := by
  have h := octetText_head address.a
  cases htext : octetText address.a with
  | nil => simp [htext] at h
  | cons c cs =>
    rw [htext] at h
    exact ⟨c, _, by rw [Ipv4Addr.text, htext]; rfl, by simpa using h⟩

/-- A host other than an IPv6 address has no colon, and does not start with a bracket. -/
theorem hostStr_plain {host : Host} (hparsed : host.Parsed) (h : ∀ address, host ≠ .ipv6 address) :
    ':' ∉ (lib.hostStr host).toList ∧ (lib.hostStr host).toList.head? ≠ some '[' := by
  cases host with
  | domain name =>
    refine ⟨hparsed.2.1, fun hhead => hparsed.2.2 ?_⟩
    exact List.mem_of_mem_head? hhead
  | ipv4 address =>
    refine ⟨by rw [UrlLibrary.hostStr, String.toList_ofList]; exact ipv4Text_colon address, ?_⟩
    obtain ⟨c, cs, htext, hdigit⟩ := ipv4Text_head address
    rw [UrlLibrary.hostStr, String.toList_ofList, htext]
    rintro ⟨⟩
    exact absurd hdigit (by decide)
  | ipv6 address => exact absurd rfl (h address)

theorem hostStr_inj (hlib : lib.Lawful) {host host' : Host} (h : host.Parsed) (h' : host'.Parsed)
    (heq : lib.hostStr host = lib.hostStr host') : host = host' := by
  have hparse : ∀ address : Ipv4Addr, parseIp (lib.hostStr (.ipv4 address)) = some (.v4 address) := parseIp_ipv4
  have hbracket : ∀ address : Ipv6Addr, parseIp (lib.hostStr (.ipv6 address)) = none := fun address => parseIp_bracket _
  have hmem : ∀ address : Ipv6Addr, '[' ∈ (lib.hostStr (.ipv6 address)).toList := by
    intro address
    rw [UrlLibrary.hostStr, String.toList_ofList]
    exact List.mem_cons_self
  have hname : ∀ name : String, (Host.domain name).Parsed →
      parseIp (lib.hostStr (.domain name)) = none ∧ '[' ∉ (lib.hostStr (.domain name)).toList :=
    fun name hparsed => ⟨hparsed.1, hparsed.2.2⟩
  cases host with
  | domain name =>
    obtain ⟨hip, hno⟩ := hname name h
    rw [heq] at hip hno
    cases host' with
    | domain name' => exact congrArg Host.domain heq
    | ipv4 address => simp [hparse address] at hip
    | ipv6 address => exact absurd (hmem address) hno
  | ipv4 address =>
    have hip := hparse address
    rw [heq] at hip
    cases host' with
    | domain name => simp [(hname name h').1] at hip
    | ipv4 address' =>
      rw [hparse address'] at hip
      cases hip
      rfl
    | ipv6 address' => simp [hbracket address'] at hip
  | ipv6 address =>
    cases host' with
    | domain name =>
      have hm := hmem address
      rw [heq] at hm
      exact absurd hm (hname name h').2
    | ipv4 address' =>
      have hip := hbracket address
      rw [heq] at hip
      simp [hparse address'] at hip
    | ipv6 address' =>
      have htext := congrArg String.toList heq
      simp only [UrlLibrary.hostStr, String.toList_ofList, List.cons.injEq, true_and, List.append_cancel_right_eq] at htext
      rw [hlib.ipv6_inj htext]

/-- The host of an origin's text ends where its port begins. -/
theorem hostPort_inj (hlib : lib.Lawful) {host host' : Host} (h : host.Parsed) (h' : host'.Parsed) {port port' : List Char}
    (hport : port = [] ∨ port.head? = some ':') (hport' : port' = [] ∨ port'.head? = some ':')
    (heq : (lib.hostStr host).toList ++ port = (lib.hostStr host').toList ++ port') : host = host' ∧ port = port' := by
  suffices htext : (lib.hostStr host).toList = (lib.hostStr host').toList by
    refine ⟨hostStr_inj hlib h h' (String.toList_injective htext), ?_⟩
    rw [htext] at heq
    exact List.append_cancel_left heq
  have htake : ∀ {text port : List Char}, ':' ∉ text → (port = [] ∨ port.head? = some ':') →
      (text ++ port).takeWhile (· ≠ ':') = text := by
    intro text port hno hport
    have hrest : port.takeWhile (· ≠ ':') = [] := by
      cases port with
      | nil => rfl
      | cons c cs =>
        obtain rfl : c = ':' := by simpa using hport
        rfl
    rw [List.takeWhile_append_of_pos, hrest, List.append_nil]
    intro c hc
    simp only [ne_eq, decide_eq_true_eq]
    rintro rfl
    exact hno hc
  have hhead : ∀ {text port : List Char}, text.head? ≠ some '[' → (port = [] ∨ port.head? = some ':') →
      (text ++ port).head? ≠ some '[' := by
    intro text port hno hport
    cases text with
    | nil =>
      rcases hport with rfl | hport
      · simp
      · simp [hport]
    | cons c cs => exact hno
  by_cases hv6 : ∃ address, host = .ipv6 address
  · obtain ⟨address, rfl⟩ := hv6
    by_cases hv6' : ∃ address', host' = .ipv6 address'
    · obtain ⟨address', rfl⟩ := hv6'
      simp only [UrlLibrary.hostStr, String.toList_ofList, List.cons_append, List.append_assoc, List.nil_append,
        List.cons.injEq, true_and] at heq ⊢
      rw [(append_sep_inj (hlib.ipv6_closed address) (hlib.ipv6_closed address') heq).1]
    · have hplain := (@hostStr_plain lib _ h' fun address' heq' => hv6' ⟨address', heq'⟩).2
      have := hhead hplain hport'
      rw [← heq] at this
      simp [UrlLibrary.hostStr] at this
  · obtain ⟨hno, hplain⟩ := @hostStr_plain lib _ h fun address heq' => hv6 ⟨address, heq'⟩
    by_cases hv6' : ∃ address', host' = .ipv6 address'
    · obtain ⟨address', rfl⟩ := hv6'
      have := hhead hplain hport
      rw [heq] at this
      simp [UrlLibrary.hostStr] at this
    · obtain ⟨hno', _⟩ := @hostStr_plain lib _ h' fun address' heq' => hv6' ⟨address', heq'⟩
      rw [← htake hno hport, heq, htake hno' hport']

theorem portText_head (scheme : String) (port : Nat) :
    portText scheme port = [] ∨ (portText scheme port).head? = some ':' := by
  unfold portText
  split
  · exact .inl rfl
  · exact .inr rfl

theorem portText_inj {scheme : String} {port port' : Nat} (h : portText scheme port = portText scheme port') : port = port' := by
  unfold portText at h
  split at h <;> split at h
  · rename_i hport hport'
    rw [hport, hport']
  · cases h
  · cases h
  · exact decimal_inj (List.cons.inj h).2

/-- The text of a web URL's origin tells it apart. -/
theorem originText_inj (hlib : lib.Lawful) {origin origin' : Origin} (h : origin.host.Parsed) (h' : origin'.host.Parsed)
    (hscheme : origin.scheme = "http" ∨ origin.scheme = "https") (hscheme' : origin'.scheme = "http" ∨ origin'.scheme = "https")
    (heq : lib.originText origin = lib.originText origin') : origin = origin' := by
  obtain ⟨scheme, host, port⟩ := origin
  obtain ⟨scheme', host', port'⟩ := origin'
  have hsame : scheme = scheme' := by
    rcases hscheme with rfl | rfl <;> rcases hscheme' with rfl | rfl
    · rfl
    · simp [UrlLibrary.originText] at heq
    · simp [UrlLibrary.originText] at heq
    · rfl
  subst hsame
  simp only [UrlLibrary.originText, List.append_assoc, List.append_cancel_left_eq] at heq
  obtain ⟨hhost, hport⟩ : host = host' ∧ _ := hostPort_inj hlib h h' (portText_head _ _) (portText_head _ _) heq
  rw [hhost, portText_inj hport]

end Texts

end GreenTyper.Provider
