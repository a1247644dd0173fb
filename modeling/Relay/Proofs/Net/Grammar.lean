import Relay.Proofs.Net.Addresses

namespace Relay.Address

variable {url : String} {a : Address} {cs before after : List Char} {port : Nat}

def schemes : List (String × Protocol) :=
  [("inproc", .inproc), ("tcp", .tcp), ("udp", .udp), ("ipc", .ipc), ("pgm", .pgm), ("epgm", .epgm)]

/-- A port is written in decimal digits, at least one, perhaps with a plus sign before them. -/
def SpellsPort (cs : List Char) (port : Nat) : Prop :=
  ∃ sign digits, cs = sign ++ digits ∧ (sign = [] ∨ sign = ['+']) ∧ digits ≠ [] ∧
    (∀ c ∈ digits, c.isDigit = true) ∧ Nat.ofDigitChars 10 digits 0 = port ∧ 1 ≤ port ∧ port ≤ 65535

/-- A text consists of two parts around the first of its separators. -/
def CutAtFirst (separator cs before after : List Char) : Prop :=
  cs = before ++ (separator ++ after) ∧
    ∀ other rest, cs = other ++ (separator ++ rest) → before.length ≤ other.length

/-- What may stand behind a scheme: a star for a server, or the host of a client in brackets or bare, and
perhaps a port. -/
inductive Located : List Char → (host : String) → (isServer : Bool) → (port : Option (List Char)) → Prop
  | server {port : Option (List Char)} : Located ('*' :: afterColon port) "0.0.0.0" true port
  | bracketed {host : List Char} {port : Option (List Char)} (hne : host ≠ []) (hclosing : ']' ∉ host) :
    Located ('[' :: (host ++ ']' :: afterColon port)) (String.ofList host) false port
  | bare {host : List Char} {port : Option (List Char)} (hne : host ≠ []) (hcolon : ':' ∉ host)
    (hstar : host.head? ≠ some '*') (hopening : host.head? ≠ some '[') :
    Located (host ++ afterColon port) (String.ofList host) false port

theorem mem_schemes_iff {scheme : String} {protocol : Protocol} :
    (scheme, protocol) ∈ schemes ↔ scheme = protocol.scheme := by
  constructor
  · intro h
    simp only [schemes, List.mem_cons, Prod.mk.injEq, List.not_mem_nil, or_false] at h
    obtain h | h | h | h | h | h := h <;> rw [h.1, h.2] <;> rfl
  · rintro rfl
    cases protocol <;> decide

theorem readPort?_eq_some_iff : readPort? cs = some port ↔ SpellsPort cs port := by
  rw [readPort?, Option.filter_eq_some_iff, Text.unsigned?_eq_some_iff, decide_eq_true_iff]
  constructor
  · rintro ⟨⟨sign, digits, hcs, hsign, hdigits, hlimit⟩, hzero⟩
    obtain ⟨hne, hall, hvalue⟩ := Text.natOfDigits?_eq_some_iff.1 hdigits
    exact ⟨sign, digits, hcs, hsign, hne, hall, hvalue, by omega, by omega⟩
  · rintro ⟨sign, digits, hcs, hsign, hne, hall, hvalue, hpos, hlimit⟩
    have hdigits := Text.natOfDigits?_eq_some_iff.2 ⟨hne, hall, hvalue⟩
    exact ⟨⟨sign, digits, hcs, hsign, hdigits, by omega⟩, by omega⟩

theorem cutAtFirst_of_notMem {c : Char} {separator : List Char} (h : c ∉ before) :
    CutAtFirst (c :: separator) (before ++ (c :: separator ++ after)) before after := by
  refine ⟨rfl, fun other rest heq => Nat.le_of_not_lt fun hshorter => ?_⟩
  have hall : before <+: before ++ (c :: separator ++ after) := List.prefix_append _ _
  have hother : other ++ [c] <+: before ++ (c :: separator ++ after) :=
    ⟨separator ++ rest, by simpa using heq.symm⟩
  have hinside : other ++ [c] <+: before := by
    apply List.prefix_of_prefix_length_le hother hall
    rw [List.length_append, List.length_singleton]
    exact hshorter
  exact h (hinside.subset (List.mem_append_right other List.mem_cons_self))

theorem CutAtFirst.unique {separator other rest : List Char} (h : CutAtFirst separator cs before after)
    (hother : CutAtFirst separator cs other rest) : before = other ∧ after = rest := by
  have hlength : before.length = other.length :=
    Nat.le_antisymm (h.2 other rest hother.1) (hother.2 before after h.1)
  obtain ⟨hbefore, hafter⟩ := List.append_inj (h.1.symm.trans hother.1) hlength
  exact ⟨hbefore, List.append_cancel_left hafter⟩

theorem Located.shown {host : String} {isServer : Bool} {portText : Option (List Char)}
    (h : Located cs host isServer portText) :
    ∃ shown, cs = shown ++ afterColon portText ∧ Shown shown host isServer := by
  cases h with
  | server => exact ⟨_, rfl, .star⟩
  | bracketed hne hclosing => exact ⟨_, by simp, .bracketed hne hclosing⟩
  | bare hne hcolon hstar hopening => exact ⟨_, rfl, .plain hne hcolon hstar hopening⟩

theorem Shown.located {host : String} {isServer : Bool} (h : Shown cs host isServer)
    (portText : Option (List Char)) : Located (cs ++ afterColon portText) host isServer portText := by
  cases h with
  | star => exact .server
  | bracketed hne hclosing => simpa using Located.bracketed hne hclosing
  | plain hne hcolon hstar hopening => exact .bare hne hcolon hstar hopening

theorem Located.isServer_iff {host : String} {isServer : Bool} {portText : Option (List Char)}
    (h : Located cs host isServer portText) : isServer = true ↔ cs.head? = some '*' := by
  cases h with
  | server => exact iff_of_true rfl rfl
  | bracketed => exact iff_of_false nofun (by simp)
  | bare hne _ hstar _ => exact iff_of_false nofun (by rwa [head?_append_of_ne_nil hne])

theorem rel_spellsPort_iff {portText : Option (List Char)} {port : Option Nat} :
    Option.Rel SpellsPort portText port ↔ Numbered portText port := by
  have hread : SpellsPort = fun digits n => readPort? digits = some n := by
    funext digits n
    exact propext readPort?_eq_some_iff.symm
  rw [hread]

theorem requiresPort_eq_false_iff {protocol : Protocol} :
    protocol.requiresPort = false ↔ protocol = .inproc ∨ protocol = .ipc := by
  cases protocol <;> decide

theorem parse_eq_ok_iff_located : parse url = .ok a ↔ ∃ scheme rest portText,
    (scheme, a.protocol) ∈ schemes ∧ CutAtFirst "://".toList url.toList scheme.toList rest ∧
    Located rest a.host a.isServer portText ∧ Option.Rel SpellsPort portText a.port ∧
    (a.port = none → a.protocol = .inproc ∨ a.protocol = .ipc) := by
  constructor
  · intro h
    obtain ⟨rest, hurl, hspelled⟩ := parse_eq_ok_iff.1 h
    obtain ⟨hhost, hport, hneeded⟩ := hspelled
    rw [hurl]
    exact ⟨_, _, _, mem_schemes_iff.2 rfl, cutAtFirst_of_notMem (Protocol.colon_notMem_scheme _),
      hhost.located _, rel_spellsPort_iff.2 hport,
      fun hnone => requiresPort_eq_false_iff.1 (hneeded hnone)⟩
  · rintro ⟨scheme, rest, portText, hscheme, hcut, hlocated, hport, hneeded⟩
    obtain ⟨shown, rfl, hshown⟩ := hlocated.shown
    rw [mem_schemes_iff.1 hscheme] at hcut
    exact parse_eq_ok_iff.2 ⟨_, hcut.1, .mk hshown (rel_spellsPort_iff.1 hport)
      fun hnone => requiresPort_eq_false_iff.2 (hneeded hnone)⟩

/-- A text is an address just if it is a scheme before its first separator and, behind that, a star, a host
in brackets, or a bare host, with a port from 1 to 65535 or, for two protocols, without one. The address has
the protocol of the scheme, that port and that host; it is the one of a server, on all interfaces, just if a
star stands behind the separator. The port that a protocol needs is always there. -/
theorem parse_accepts_exactly (url : String) (a : Address) :
    (parse url = .ok a ↔ ∃ scheme rest portText, (scheme, a.protocol) ∈ schemes ∧
      CutAtFirst "://".toList url.toList scheme.toList rest ∧
      Located rest a.host a.isServer portText ∧ Option.Rel SpellsPort portText a.port ∧
      (a.port = none → a.protocol = .inproc ∨ a.protocol = .ipc)) ∧
    (parse url = .ok a → ∀ before rest, CutAtFirst "://".toList url.toList before rest →
      (a.isServer = true ↔ rest.head? = some '*')) ∧
    (parse url = .ok a → a.protocol.requiresPort = true →
      ∃ port, a.port = some port ∧ a.requiredPort = .ok port) := by
  refine ⟨parse_eq_ok_iff_located, fun h before rest hcut => ?_, fun h hrequires => ?_⟩
  · obtain ⟨_, _, _, -, hsame, hlocated, -⟩ := parse_eq_ok_iff_located.1 h
    rw [(hcut.unique hsame).2]
    exact hlocated.isServer_iff
  · obtain ⟨_, _, _, -, -, -, -, hneeded⟩ := parse_eq_ok_iff_located.1 h
    cases hport : a.port with
    | none =>
      rw [requiresPort_eq_false_iff.2 (hneeded hport)] at hrequires
      cases hrequires
    | some port => exact ⟨port, rfl, by rw [requiredPort, hport]⟩

/-- A port may have a sign and leading zeros; a text whose port is out of range is no address. -/
theorem parse_accepts_exactly_signed_port :
    parse "udp://[fe80::1]:+053" = .ok ⟨.udp, "fe80::1", some 53, false⟩ ∧
    (∃ port, requiredPort ⟨.udp, "fe80::1", some 53, false⟩ = .ok port) ∧
    (∀ a, parse "tcp://*:65536" ≠ .ok a) ∧
    ¬∃ scheme rest portText, (scheme, Protocol.tcp) ∈ schemes ∧
      CutAtFirst "://".toList "tcp://*:65536".toList scheme.toList rest ∧
      Located rest "0.0.0.0" true portText ∧ Option.Rel SpellsPort portText (some 65536) ∧
      ((some 65536 : Option Nat) = none → Protocol.tcp = .inproc ∨ Protocol.tcp = .ipc) := by
  have hsigned : parse "udp://[fe80::1]:+053" = .ok ⟨.udp, "fe80::1", some 53, false⟩ := rfl
  have hlarge : parse "tcp://*:65536" = .error (.invalidPort "tcp://*:65536" "65536") := rfl
  have hnone (a : Address) : parse "tcp://*:65536" ≠ .ok a := by
    rw [hlarge]
    exact nofun
  obtain ⟨port, -, hport⟩ := (parse_accepts_exactly _ _).2.2 hsigned rfl
  refine ⟨hsigned, ⟨port, hport⟩, hnone, fun hspelled => hnone ⟨.tcp, "0.0.0.0", some 65536, true⟩ ?_⟩
  exact (parse_accepts_exactly _ _).1.2 hspelled

end Relay.Address
