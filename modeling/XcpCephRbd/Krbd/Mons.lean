import Mathlib.Algebra.Ring.Nat
import XcpCephRbd.Lib.Split
import XcpCephRbd.Lib.Text

/-!
# The monitor addresses of a map

`_normalize_mons` of `rbd_sysfs.py` writes the list of monitor addresses, `ceph_parse_ips` of
libceph reads it. The kernel's `in4_pton` and `in6_pton` are parameters: `Pton` says what the parser
relies on. Whatever the administrator's spelling of a list of addresses, `normalizeMons_text` says
what is written for it, and `parseIps_full` that the kernel reads these addresses from that in this
order, each with its port.
-/

namespace XcpCephRbd.Krbd

open Split

/-- The errors of the parsers. -/
inductive Errno where
  | inval | noparam | nametoolong | range | exist | srch | perm | nomem
  deriving DecidableEq, Repr

/-- `sin_addr` or `sin6_addr`. -/
inductive Ip where
  | v4 (addr : BitVec 32)
  | v6 (addr : BitVec 128)
  deriving DecidableEq, Repr

/-- A `ceph_entity_addr` of type `LEGACY` and nonce 0. -/
structure EntityAddr where
  ip : Ip
  port : Nat
  deriving DecidableEq, Repr

/-- What the parser of addresses calls: `in4_pton` and `in6_pton` with a delimiter (`-1` is `none`),
which give the address and the text from the character that ends it, and the resolver, if there is
one, which gives the text of an address. -/
structure Net where
  in4Pton : List Char → Option Char → Option (BitVec 32 × List Char)
  in6Pton : List Char → Option Char → Option (BitVec 128 × List Char)
  useDns : Bool := false
  dnsQuery : List Char → Option (List Char) := fun _ => none

/-- `CEPH_MON_PORT`. -/
def cephMonPort : Nat := 6789

/-- `ceph_pton`. -/
def cephPton (net : Net) (text : List Char) (delim : Option Char) : Option (Ip × List Char) :=
  match net.in4Pton text delim with
  | some (addr, rest) => some (.v4 addr, rest)
  | none => (net.in6Pton text delim).map fun (addr, rest) => (.v6 addr, rest)

/-- `ceph_dns_resolve_name`: the name ends before the delimiter or the first colon. -/
def cephDnsResolveName (net : Net) (name : List Char) (delim : Char) :
    Except Errno (Ip × List Char) :=
  if net.useDns then
    let host := name.takeWhile fun c => c != delim && c != ':'
    if host = [] then .error .inval
    else
      match net.dnsQuery host with
      | none => .error .srch
      | some ip =>
          match cephPton net ip none with
          | some (addr, _) => .ok (addr, name.drop host.length)
          | none => .error .inval
  else .error .inval

/-- `ceph_parse_server_name`. -/
def cephParseServerName (net : Net) (name : List Char) (delim : Char) :
    Except Errno (Ip × List Char) :=
  match cephPton net name (some delim) with
  | some parsed => .ok parsed
  | none => cephDnsResolveName net name delim

/-- The value of a text of digits. The C code sums it up in an `int`; the texts whose number does
not fit one are none of a port up to 65535, which is all that `Mon.Valid` admits. -/
def decimal (text : List Char) : Nat := text.foldl (fun n c => 10 * n + (c.toNat - 48)) 0

/-- The port behind an address, and the text behind that. -/
def parsePort (text : List Char) : Except Errno (Nat × List Char) :=
  match text with
  | ':' :: rest =>
      let port := decimal (rest.takeWhile Char.isDigit)
      let rest := rest.dropWhile Char.isDigit
      if port = 0 then .ok (cephMonPort, rest)
      else if 65535 < port then .error .inval
      else .ok (port, rest)
  | _ => .ok (cephMonPort, text)

/-- One address of the list: the body of the loop of `ceph_parse_ips`. -/
def parseAddr (net : Net) (delim : Char) (text : List Char) :
    Except Errno (EntityAddr × List Char) := do
  let (addr, rest) ←
    match text with
    | '[' :: inner => do
        let (addr, rest) ← cephParseServerName net inner ']'
        match rest with
        | ']' :: rest => pure (addr, rest)
        | _ => throw .inval
    | _ => cephParseServerName net text delim
  let (port, rest) ← parsePort rest
  pure (⟨addr, port⟩, rest)

/-- `ceph_parse_ips`: the addresses that are stored and the count that is reported, with room for so
many more. -/
def cephParseIps (net : Net) (delim : Char) : Nat → List Char → Except Errno (List EntityAddr × Nat)
  | 0, text => if text = [] then .ok ([], 1) else .error .inval
  | room + 1, text => do
      let (addr, rest) ← parseAddr net delim text
      match rest with
      | [] => pure ([addr], 1)
      | c :: rest =>
          if c = delim then do
            let (addrs, count) ← cephParseIps net delim room rest
            pure (addr :: addrs, count + 1)
          else throw .inval

/-- `_mon_default_port`. -/
def monDefaultPort (msMode : String) : List Char :=
  if Text.lower msMode = "legacy" then "6789".toList else "3300".toList

/-- What `_normalize_mons` makes of one entry of the list. -/
def normalizeMon (port m : List Char) : List Char :=
  if m.head? = some '[' then
    if "]:".toList <:+: m then m else m ++ ':' :: port
  else if m.count ':' = 1 then m
  else if ':' ∈ m then '[' :: m ++ "]:".toList ++ port
  else m ++ ':' :: port

/-- `_normalize_mons`. -/
def normalizeMons (monHost : List Char) (msMode : String) : Except String (List Char) :=
  let out := (((monHost.map fun c => if c = ';' then ',' else c).splitOn ',').map strip).filter
    fun m => !m.isEmpty
  if out = [] then .error "no mon addresses given"
  else .ok ([','].intercalate (out.map (normalizeMon (monDefaultPort msMode))))

/-- What the parser relies on. A literal is a text that is read to its end. An IPv4 literal is read
up to a comma, the delimiter of the list, or a colon, an IPv6 literal in brackets up to the closing
one, and it is not taken for an IPv4 address. -/
structure Pton (net : Net) : Prop where
  chars4 : ∀ {text addr}, net.in4Pton text none = some (addr, []) →
    text ≠ [] ∧ ∀ c ∈ text, c.isDigit = true ∨ c = '.'
  chars6 : ∀ {text addr}, net.in6Pton text none = some (addr, []) →
    2 ≤ text.count ':' ∧ ∀ c ∈ text, c.isAlphanum = true ∨ c = ':' ∨ c = '.'
  stop4 : ∀ {text addr} (rest : List Char), net.in4Pton text none = some (addr, []) →
    (∀ c ∈ rest.head?, c = ':' ∨ c = ',') →
      net.in4Pton (text ++ rest) (some ',') = some (addr, rest)
  stop6 : ∀ {text addr} (rest : List Char), net.in6Pton text none = some (addr, []) →
    net.in4Pton (text ++ ']' :: rest) (some ']') = none ∧
      net.in6Pton (text ++ ']' :: rest) (some ']') = some (addr, ']' :: rest)

/-- An address as it is written: a literal, in brackets or not, and the digits of a port or none. -/
structure Mon where
  ip : Ip
  literal : List Char
  bracket : Bool
  digits : Option (List Char)

namespace Mon

/-- The text of the literal. -/
def host (m : Mon) (bracket : Bool) : List Char :=
  if bracket then '[' :: m.literal ++ [']'] else m.literal

/-- The text of the address. -/
def text (m : Mon) : List Char :=
  m.host m.bracket ++ (m.digits.elim [] fun digits => ':' :: digits)

/-- The address that is meant, where `default` is the port of the mode. -/
def addr (default : Nat) (m : Mon) : EntityAddr := ⟨m.ip, (m.digits.elim default decimal)⟩

/-- The text of the address with brackets and port. -/
def full (port : List Char) (m : Mon) : List Char :=
  m.host (m.ip matches .v6 _) ++ ':' :: m.digits.getD port

/-- The literal is one of the address; a port is a number up to 65535, and an IPv6 address with a
port is in brackets. -/
structure Valid (net : Net) (m : Mon) : Prop where
  literal : match m.ip with
    | .v4 addr => net.in4Pton m.literal none = some (addr, [])
    | .v6 addr => net.in6Pton m.literal none = some (addr, [])
  bracket : match m.ip with
    | .v4 _ => m.bracket = false
    | .v6 _ => m.digits ≠ none → m.bracket = true
  digits : ∀ digits ∈ m.digits, (∀ c ∈ digits, c.isDigit = true) ∧ 0 < decimal digits ∧
    decimal digits ≤ 65535

end Mon

/-- An entry of the list: an address between blanks. -/
structure Entry where
  mon : Mon
  before : List Char := []
  after : List Char := []
  blank : ∀ c ∈ before ++ after, isBlank c = true

/-- The text of an entry. -/
def Entry.text (e : Entry) : List Char := e.before ++ e.mon.text ++ e.after

/-- A list of addresses as it is written: the entries, each but the first behind a `,` or a `;`. -/
structure MonList where
  first : Entry
  rest : List (Char × Entry)
  separators : ∀ p ∈ rest, p.1 = ',' ∨ p.1 = ';'

namespace MonList

/-- The text of the list. -/
def text (l : MonList) : List Char :=
  l.first.text ++ l.rest.flatMap fun (sep, e) => sep :: e.text

/-- The addresses of the list. -/
def mons (l : MonList) : List Mon := l.first.mon :: l.rest.map fun (_, e) => e.mon

end MonList

/-- The characters of addresses. -/
def addrChar (c : Char) : Bool := c.isAlphanum || c == ':' || c == '.' || c == '[' || c == ']'

theorem addrChar_of_isDigit {c : Char} (h : c.isDigit = true) : addrChar c = true := by
  simp [addrChar, Char.isAlphanum, h]

/-- No blank, comma or semicolon is a character of an address. -/
theorem of_addrChar {c : Char} (h : addrChar c = true) :
    isBlank c = false ∧ c ≠ ',' ∧ c ≠ ';' := by
  refine ⟨?_, ?_, ?_⟩
  · have hblanks : ∀ b ∈ blanks, addrChar b = false := by simp [blanks, addrChar]
    rw [isBlank, List.contains_eq_mem, decide_eq_false_iff_not]
    intro hc
    rw [hblanks c hc] at h
    exact absurd h (by decide)
  · rintro rfl
    exact absurd h (by decide)
  · rintro rfl
    exact absurd h (by decide)

/-- A digit is none of the marks of an address. -/
theorem digit_ne {c d : Char} (h : c.isDigit = true) (hd : d.isDigit = false) : c ≠ d := by
  rintro rfl
  exact Bool.false_ne_true (hd.symm.trans h)

namespace Mon

variable {net : Net} {m : Mon}

/-- The characters of a literal. -/
theorem Valid.literal_chars (hnet : Pton net) (h : m.Valid net) :
    m.literal ≠ [] ∧ '[' ∉ m.literal ∧ ']' ∉ m.literal ∧ ∀ c ∈ m.literal, addrChar c = true := by
  have hliteral := h.literal
  cases hip : m.ip with
  | v4 addr =>
      rw [hip] at hliteral
      obtain ⟨hne, hchars⟩ := hnet.chars4 hliteral
      refine ⟨hne, fun hmem => ?_, fun hmem => ?_, fun c hc => ?_⟩
      · exact absurd (hchars _ hmem) (by decide)
      · exact absurd (hchars _ hmem) (by decide)
      · rcases hchars c hc with hdigit | rfl
        · exact addrChar_of_isDigit hdigit
        · decide
  | v6 addr =>
      rw [hip] at hliteral
      obtain ⟨hcount, hchars⟩ := hnet.chars6 hliteral
      refine ⟨fun hnil => ?_, fun hmem => ?_, fun hmem => ?_, fun c hc => ?_⟩
      · rw [hnil, List.count_nil] at hcount
        omega
      · exact absurd (hchars _ hmem) (by decide)
      · exact absurd (hchars _ hmem) (by decide)
      · rcases hchars c hc with halnum | rfl | rfl
        · simp [addrChar, halnum]
        · decide
        · decide

/-- The literal of an IPv4 address has no colon. -/
theorem Valid.count_colon_v4 (hnet : Pton net) (h : m.Valid net) {addr : BitVec 32}
    (hip : m.ip = .v4 addr) : m.literal.count ':' = 0 := by
  have hliteral := h.literal
  rw [hip] at hliteral
  refine List.count_eq_zero.mpr fun hmem => ?_
  exact absurd ((hnet.chars4 hliteral).2 _ hmem) (by decide)

/-- The brackets are characters of addresses. -/
theorem host_chars (hchars : ∀ c ∈ m.literal, addrChar c = true) (bracket : Bool) :
    ∀ c ∈ m.host bracket, addrChar c = true := by
  intro c hc
  cases bracket with
  | true =>
      simp only [host, if_true, List.cons_append, List.mem_cons, List.mem_append,
        List.not_mem_nil, or_false] at hc
      rcases hc with rfl | hc | rfl
      · decide
      · exact hchars c hc
      · decide
  | false => exact hchars c hc

/-- The text of an address is not empty, and its characters are those of addresses. -/
theorem Valid.text_chars (hnet : Pton net) (h : m.Valid net) :
    m.text ≠ [] ∧ ∀ c ∈ m.text, addrChar c = true := by
  obtain ⟨hne, -, -, hchars⟩ := h.literal_chars hnet
  constructor
  · intro hnil
    cases hb : m.bracket with
    | true => simp [text, host, hb] at hnil
    | false => simp [text, host, hb, hne] at hnil
  · intro c hc
    rcases List.mem_append.mp hc with hc | hc
    · exact host_chars hchars _ c hc
    · cases hd : m.digits with
      | none => simp [hd] at hc
      | some digits =>
          rw [hd] at hc
          rcases List.mem_cons.mp hc with rfl | hc
          · decide
          · exact addrChar_of_isDigit ((h.digits digits hd).1 c hc)

/-- What stands between the brackets and behind them has no `]` before a colon but with a port. -/
theorem Valid.bracket_port_iff (hnet : Pton net) (h : m.Valid net) (hb : m.bracket = true) :
    "]:".toList <:+: m.text ↔ m.digits ≠ none := by
  obtain ⟨-, -, hclose, -⟩ := h.literal_chars hnet
  constructor
  · rintro ⟨s, t, hst⟩ hnone
    -- without a port the only `]` is the last character
    have hlast : m.text.dropLast = '[' :: m.literal := by
      rw [text, host, hb, hnone]
      show (('[' :: m.literal ++ [']']) ++ []).dropLast = _
      rw [List.append_nil, List.dropLast_concat]
    have hmem : ']' ∈ m.text.dropLast := by
      have hsplit : m.text = (s ++ [']']) ++ (':' :: t) := by
        rw [← hst]
        simp
      rw [hsplit, List.dropLast_append_of_ne_nil (List.cons_ne_nil _ _)]
      simp
    rw [hlast] at hmem
    rcases List.mem_cons.mp hmem with heq | hin
    · exact absurd heq (by decide)
    · exact hclose hin
  · intro hsome
    obtain ⟨digits, hdigits⟩ := Option.ne_none_iff_exists'.mp hsome
    refine ⟨'[' :: m.literal, digits, ?_⟩
    rw [text, host, hb, hdigits]
    simp

/-- Every spelling of an address is brought into the full one. -/
theorem Valid.normalize (hnet : Pton net) (h : m.Valid net) (port : List Char) :
    normalizeMon port m.text = m.full port := by
  obtain ⟨hne, hopen, -, -⟩ := h.literal_chars hnet
  have hhead : m.bracket = false → m.text.head? ≠ some '[' := by
    intro hb hhead
    obtain ⟨c, tail, hliteral⟩ := List.exists_cons_of_ne_nil hne
    rw [text, host, hb, hliteral] at hhead
    rw [hliteral] at hopen
    obtain rfl : c = '[' := by simpa using hhead
    exact hopen List.mem_cons_self
  have hbracket := h.bracket
  cases hip : m.ip with
  | v4 addr =>
      rw [hip] at hbracket
      have hcolon := h.count_colon_v4 hnet hip
      have hbare : m.host m.bracket = m.literal := by rw [hbracket]; rfl
      rw [normalizeMon, if_neg (hhead hbracket)]
      have hfull : m.full port = m.literal ++ ':' :: m.digits.getD port := by
        rw [full, hip]
        rfl
      cases hd : m.digits with
      | none =>
          have htext : m.text = m.literal := by rw [text, hbare, hd]; exact List.append_nil _
          rw [htext, if_neg (by omega), if_neg (List.count_eq_zero.mp hcolon), hfull, hd]
          rfl
      | some digits =>
          have htext : m.text = m.literal ++ ':' :: digits := by rw [text, hbare, hd]; rfl
          have hdigits : digits.count ':' = 0 :=
            List.count_eq_zero.mpr fun hmem =>
              digit_ne ((h.digits digits hd).1 _ hmem) (by decide) rfl
          -- an IPv4 address with a port has exactly one colon, which is how the code knows it
          have hone : m.text.count ':' = 1 := by
            rw [htext, List.count_append, List.count_cons_self, hcolon, hdigits]
          rw [if_pos hone, hfull, htext, hd]
          rfl
  | v6 addr =>
      rw [hip] at hbracket
      have hliteral := h.literal
      rw [hip] at hliteral
      have hcolon := (hnet.chars6 hliteral).1
      have hfull : m.full port = '[' :: m.literal ++ [']'] ++ ':' :: m.digits.getD port := by
        rw [full, hip]
        rfl
      cases hb : m.bracket with
      | true =>
          have hfirst : m.text.head? = some '[' := by rw [text, host, hb]; rfl
          rw [normalizeMon, if_pos hfirst, hfull]
          cases hd : m.digits with
          | none =>
              rw [if_neg (fun hin => (h.bracket_port_iff hnet hb).mp hin hd), text, host, hb, hd]
              simp
          | some digits =>
              rw [if_pos ((h.bracket_port_iff hnet hb).mpr
                (by rw [hd]; exact Option.some_ne_none _)), text, host, hb, hd]
              simp
      | false =>
          have hd : m.digits = none := by
            by_contra hsome
            exact Bool.false_ne_true (hb.symm.trans (hbracket hsome))
          have htext : m.text = m.literal := by
            rw [text, host, hb, hd]
            exact List.append_nil _
          -- a bare IPv6 address has several colons and cannot have a port
          have hmem : ':' ∈ m.literal := List.count_pos_iff.mp (by omega)
          rw [normalizeMon, if_neg (hhead hb), htext, if_neg (by omega), if_pos hmem, hfull, hd]
          simp

end Mon

/-- The text of a port. -/
structure IsPort (digits : List Char) : Prop where
  digit : ∀ c ∈ digits, c.isDigit = true
  pos : 0 < decimal digits
  le : decimal digits ≤ 65535

theorem isPort_default (msMode : String) : IsPort (monDefaultPort msMode) := by
  unfold monDefaultPort
  split
  · exact ⟨by simp, by decide, by decide⟩
  · exact ⟨by simp, by decide, by decide⟩

/-- A port is read up to the first character that is not a digit. -/
theorem parsePort_digits {digits rest : List Char} (h : IsPort digits)
    (hrest : ∀ c ∈ rest.head?, c.isDigit = false) :
    parsePort (':' :: digits ++ rest) = .ok (decimal digits, rest) := by
  have hstop : rest.takeWhile Char.isDigit = [] ∧ rest.dropWhile Char.isDigit = rest := by
    cases rest with
    | nil => exact ⟨rfl, rfl⟩
    | cons c rest =>
        have hc := hrest c rfl
        exact ⟨List.takeWhile_cons_of_neg (by simp [hc]), List.dropWhile_cons_of_neg (by simp [hc])⟩
  have htake : (digits ++ rest).takeWhile Char.isDigit = digits := by
    rw [List.takeWhile_append_of_pos h.digit, hstop.1, List.append_nil]
  have hdrop : (digits ++ rest).dropWhile Char.isDigit = rest := by
    rw [List.dropWhile_append_of_pos h.digit, hstop.2]
  have hpos := h.pos
  have hle := h.le
  rw [List.cons_append, parsePort]
  simp only [htake, hdrop]
  rw [if_neg (by omega), if_neg (by omega)]

namespace Mon

variable {net : Net} {m : Mon}

/-- The port of an address is one. -/
theorem Valid.isPort (h : m.Valid net) {port : List Char} (hport : IsPort port) :
    IsPort (m.digits.getD port) := by
  cases hd : m.digits with
  | none => exact hport
  | some digits =>
      obtain ⟨hdigit, hpos, hle⟩ := h.digits digits hd
      exact ⟨hdigit, hpos, hle⟩

/-- The full text of an address is not empty, and its characters are those of addresses. -/
theorem Valid.full_chars (hnet : Pton net) (h : m.Valid net) {port : List Char}
    (hport : IsPort port) : m.full port ≠ [] ∧ ∀ c ∈ m.full port, addrChar c = true := by
  obtain ⟨-, -, -, hchars⟩ := h.literal_chars hnet
  refine ⟨by simp [full], fun c hc => ?_⟩
  rcases List.mem_append.mp hc with hc | hc
  · exact host_chars hchars _ c hc
  · rcases List.mem_cons.mp hc with rfl | hc
    · decide
    · exact addrChar_of_isDigit ((h.isPort hport).digit c hc)

/-- The full text of an address is read as the address, up to the separator. -/
theorem Valid.parse (hnet : Pton net) (h : m.Valid net) {port : List Char}
    (hport : IsPort port) (rest : List Char) (hrest : ∀ c ∈ rest.head?, c = ',') :
    parseAddr net ',' (m.full port ++ rest) = .ok (m.addr (decimal port), rest) := by
  have hdigits := h.isPort hport
  have hstop : ∀ c ∈ rest.head?, c.isDigit = false := by
    intro c hc
    rw [hrest c hc]
    decide
  have hread := parsePort_digits hdigits hstop
  have haddr : m.addr (decimal port) = ⟨m.ip, decimal (m.digits.getD port)⟩ := by
    cases hd : m.digits <;> simp [addr, hd]
  have hliteral := h.literal
  obtain ⟨hne, hopen, -, -⟩ := h.literal_chars hnet
  cases hip : m.ip with
  | v4 ip =>
      rw [hip] at hliteral
      obtain ⟨c, tail, hcons⟩ := List.exists_cons_of_ne_nil hne
      have hc : c ≠ '[' := by
        rintro rfl
        exact hopen (hcons ▸ List.mem_cons_self)
      have htext : m.full port ++ rest = m.literal ++ (':' :: m.digits.getD port ++ rest) := by
        rw [full, hip]
        exact List.append_assoc _ _ _
      have hserver : cephParseServerName net (m.full port ++ rest) ',' =
          .ok (.v4 ip, ':' :: m.digits.getD port ++ rest) := by
        have hpton := hnet.stop4 (':' :: m.digits.getD port ++ rest) hliteral
          (fun d hd => .inl (by simpa using hd.symm))
        rw [cephParseServerName, cephPton, htext, hpton]
      have hfirst : ∀ inner, m.full port ++ rest ≠ '[' :: inner := by
        intro inner heq
        rw [htext, hcons] at heq
        exact hc (List.cons.inj heq).1
      rw [parseAddr.eq_2 _ _ _ hfirst, hserver]
      show (parsePort _ >>= fun r => _) = _
      rw [hread, haddr, hip]
      rfl
  | v6 ip =>
      rw [hip] at hliteral
      have htext : m.full port ++ rest =
          '[' :: (m.literal ++ ']' :: (':' :: m.digits.getD port ++ rest)) := by
        rw [full, hip]
        simp [host]
      obtain ⟨hnot, hpton⟩ := hnet.stop6 (':' :: m.digits.getD port ++ rest) hliteral
      have hserver : cephParseServerName net
          (m.literal ++ ']' :: (':' :: m.digits.getD port ++ rest)) ']' =
          .ok (.v6 ip, ']' :: (':' :: m.digits.getD port ++ rest)) := by
        rw [cephParseServerName, cephPton, hnot, hpton]
        rfl
      rw [htext, parseAddr, hserver]
      show (parsePort _ >>= fun r => _) = _
      rw [hread, haddr, hip]
      rfl

end Mon

/-- The kernel reads the full texts of addresses as these addresses, and counts them. -/
theorem parseIps_full {net : Net} (hnet : Pton net) {port : List Char} (hport : IsPort port)
    {mons : List Mon} (hvalid : ∀ m ∈ mons, m.Valid net) (hne : mons ≠ []) {room : Nat}
    (hroom : mons.length ≤ room) :
    cephParseIps net ',' room ([','].intercalate (mons.map (Mon.full port))) =
      .ok (mons.map (Mon.addr (decimal port)), mons.length) := by
  induction mons generalizing room with
  | nil => exact absurd rfl hne
  | cons m mons ih =>
      obtain ⟨room, rfl⟩ : ∃ n, room = n + 1 := ⟨room - 1, by simp at hroom; omega⟩
      have hm := hvalid m List.mem_cons_self
      cases mons with
      | nil =>
          have hparse := hm.parse hnet hport [] (by simp)
          rw [List.append_nil] at hparse
          have htext : [','].intercalate ([m].map (Mon.full port)) = m.full port := by
            simp [List.intercalate]
          rw [htext, cephParseIps, hparse]
          rfl
      | cons next mons =>
          have hparse := hm.parse hnet hport
            (',' :: [','].intercalate ((next :: mons).map (Mon.full port))) (by simp)
          have htail := ih (fun other hother => hvalid other (List.mem_cons_of_mem _ hother))
            (List.cons_ne_nil _ _) (Nat.le_of_succ_le_succ hroom)
          have htext : [','].intercalate ((m :: next :: mons).map (Mon.full port)) =
              m.full port ++ ',' :: [','].intercalate ((next :: mons).map (Mon.full port)) :=
            intercalate_cons_cons _ _ _ _
          rw [htext, cephParseIps, hparse]
          simp only [bind, Except.bind, if_true, htail]
          rfl

/-- The entries of a list. -/
def MonList.entries (l : MonList) : List Entry := l.first :: l.rest.map Prod.snd

/-- An entry has no separator in it, and its address is what is left without the blanks. -/
theorem Entry.of_valid {net : Net} (hnet : Pton net) {e : Entry} (h : e.mon.Valid net) :
    (∀ c ∈ e.text, c ≠ ',' ∧ c ≠ ';') ∧ strip e.text = e.mon.text := by
  obtain ⟨hne, hchars⟩ := h.text_chars hnet
  have hbefore : ∀ c ∈ e.before, isBlank c = true :=
    fun c hc => e.blank c (List.mem_append_left _ hc)
  have hafter : ∀ c ∈ e.after, isBlank c = true :=
    fun c hc => e.blank c (List.mem_append_right _ hc)
  have hblank : ∀ c : Char, isBlank c = true → c ≠ ',' ∧ c ≠ ';' := by
    intro c hc
    constructor
    · rintro rfl
      exact absurd hc (by decide)
    · rintro rfl
      exact absurd hc (by decide)
  constructor
  · intro c hc
    rcases List.mem_append.mp hc with hc | hc
    · rcases List.mem_append.mp hc with hc | hc
      · exact hblank c (hbefore c hc)
      · exact (of_addrChar (hchars c hc)).2
    · exact hblank c (hafter c hc)
  · exact strip_pad hbefore (fun c hc => (of_addrChar (hchars c hc)).1) hne hafter

/-- With every `;` a `,` the list is its entries with commas between them. -/
theorem MonList.text_commas {net : Net} (hnet : Pton net) {l : MonList}
    (hvalid : ∀ m ∈ l.mons, m.Valid net) :
    (l.text.map fun c => if c = ';' then ',' else c) =
      [','].intercalate (l.entries.map Entry.text) := by
  have hkeep : ∀ e : Entry, e.mon.Valid net →
      (e.text.map fun c => if c = ';' then ',' else c) = e.text := by
    intro e he
    have hchars := (Entry.of_valid hnet he).1
    calc e.text.map (fun c => if c = ';' then ',' else c)
        = e.text.map id := List.map_congr_left fun c hc => if_neg (hchars c hc).2
      _ = e.text := List.map_id _
  obtain ⟨first, rest, hseps⟩ := l
  simp only [mons, List.mem_cons, List.mem_map] at hvalid
  rw [MonList.text, List.map_append, hkeep first (hvalid _ (.inl rfl)), entries]
  -- the induction is on the entries behind the first, each with its separator
  have hrest : ∀ e : Entry, e.text ++ (rest.flatMap fun (sep, e) => sep :: e.text).map
      (fun c => if c = ';' then ',' else c) =
        [','].intercalate ((e :: rest.map Prod.snd).map Entry.text) := by
    induction rest with
    | nil => simp [List.intercalate]
    | cons p rest ih =>
        intro e
        have htail := ih (fun q hq => hseps q (List.mem_cons_of_mem _ hq))
          (fun m hm => hvalid m (hm.imp_right fun ⟨q, hq, heq⟩ =>
            ⟨q, List.mem_cons_of_mem _ hq, heq⟩)) p.2
        have hsep : (if p.1 = ';' then ',' else p.1) = ',' := by
          rcases hseps p List.mem_cons_self with h | h <;> rw [h] <;> rfl
        have hp := hkeep p.2 (hvalid _ (.inr ⟨p, List.mem_cons_self, rfl⟩))
        have hjoin : [','].intercalate ((e :: (p :: rest).map Prod.snd).map Entry.text) =
            e.text ++ ',' :: [','].intercalate ((p.2 :: rest.map Prod.snd).map Entry.text) :=
          intercalate_cons_cons _ _ _ _
        rw [hjoin, ← htail, List.flatMap_cons, List.map_append, List.map_cons, hsep, hp]
        rfl
  exact hrest first

/-- What `_normalize_mons` makes of a list of addresses. -/
theorem normalizeMons_text {net : Net} (hnet : Pton net) {l : MonList}
    (hvalid : ∀ m ∈ l.mons, m.Valid net) (msMode : String) :
    normalizeMons l.text msMode =
      .ok ([','].intercalate (l.mons.map (Mon.full (monDefaultPort msMode)))) := by
  have hmons : l.mons = l.entries.map Entry.mon := by
    rw [MonList.mons, MonList.entries, List.map_cons, List.map_map]
    rfl
  have hentries : ∀ e ∈ l.entries, e.mon.Valid net := by
    intro e he
    exact hvalid e.mon (hmons ▸ List.mem_map_of_mem he)
  have hsplit : (l.text.map fun c => if c = ';' then ',' else c).splitOn ',' =
      l.entries.map Entry.text := by
    rw [MonList.text_commas hnet hvalid]
    refine List.splitOn_intercalate ',' ?_ (List.cons_ne_nil _ _)
    intro text htext hmem
    obtain ⟨e, he, rfl⟩ := List.mem_map.mp htext
    exact ((Entry.of_valid hnet (hentries e he)).1 _ hmem).1 rfl
  have hstrip : (l.entries.map Entry.text).map strip = l.mons.map Mon.text := by
    rw [hmons, List.map_map, List.map_map]
    exact List.map_congr_left fun e he => (Entry.of_valid hnet (hentries e he)).2
  have hfilter : (l.mons.map Mon.text).filter (fun m => !m.isEmpty) = l.mons.map Mon.text := by
    refine List.filter_eq_self.mpr fun text htext => ?_
    obtain ⟨m, hm, rfl⟩ := List.mem_map.mp htext
    simpa using ((hvalid m hm).text_chars hnet).1
  have hne : l.mons.map Mon.text ≠ [] := by simp [MonList.mons]
  have hfull : (l.mons.map Mon.text).map (normalizeMon (monDefaultPort msMode)) =
      l.mons.map (Mon.full (monDefaultPort msMode)) := by
    rw [List.map_map]
    exact List.map_congr_left fun m hm => (hvalid m hm).normalize hnet _
  rw [normalizeMons]
  simp only [hsplit, hstrip, hfilter]
  rw [if_neg hne, hfull]

end XcpCephRbd.Krbd
