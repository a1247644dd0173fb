import Relay.Net.Address
import Relay.Proofs.Text.Splitting

namespace Relay

theorem Protocol.ofScheme?_eq_some_iff {scheme : String} {p : Protocol} :
    ofScheme? scheme = some p ↔ scheme = p.scheme := by
  constructor
  · intro h
    have hsame := List.find?_some h
    exact (eq_of_beq hsame).symm
  · rintro rfl
    cases p <;> rfl

theorem Protocol.colon_notMem_scheme (p : Protocol) : ':' ∉ p.scheme.toList := by
  cases p <;> decide

namespace Address

variable {url : String} {protocol : Protocol} {cs host digits : List Char}
  {portText : Option (List Char)} {port : Option Nat} {a b : Address}

theorem head?_ne_some {c : Char} (h : ∀ rest, cs = c :: rest → False) : cs.head? ≠ some c := by
  intro hhead
  obtain ⟨rest, hcs⟩ := List.head?_eq_some_iff.1 hhead
  exact h rest hcs

theorem head?_append_of_ne_nil (hne : host ≠ []) : (host ++ cs).head? = host.head? := by
  obtain ⟨c, rest, rfl⟩ := List.exists_cons_of_ne_nil hne
  rfl

def afterColon : Option (List Char) → List Char
  | none => []
  | some digits => ':' :: digits

theorem splitHost_bracketed (hne : host ≠ []) (hclosing : ']' ∉ host) :
    splitHost ('[' :: (host ++ ']' :: afterColon portText)) = .ok (host, portText) := by
  have hcut : Text.splitAtFirst? [']'] (host ++ ']' :: afterColon portText) =
      some (host, afterColon portText) := Text.splitAtFirst?_append hclosing
  obtain ⟨c, rest, rfl⟩ := List.exists_cons_of_ne_nil hne
  rw [splitHost, hcut]
  cases portText <;> rfl

theorem splitHost_plain (hopening : cs.head? ≠ some '[') (hcs : cs = host ++ afterColon portText)
    (hcolon : ':' ∉ host) (hport : ∀ digits, portText = some digits → ':' ∉ digits) :
    splitHost cs = .ok (host, portText) := by
  rw [splitHost]
  · cases portText with
    | none =>
      rw [afterColon, List.append_nil] at hcs
      subst hcs
      rw [Text.splitAtLast?_eq_none_iff.2 hcolon]
    | some digits =>
      rw [Text.splitAtLast?_eq_some_iff.2 ⟨hcs, hport digits rfl⟩]
      simp [hcolon]
  · rintro rest rfl
    exact hopening rfl

theorem splitHost_eq_ok (h : splitHost cs = .ok (host, portText)) :
    (host ≠ [] ∧ ']' ∉ host ∧ cs = '[' :: (host ++ ']' :: afterColon portText)) ∨
    (cs.head? ≠ some '[' ∧ ':' ∉ host ∧ cs = host ++ afterColon portText) := by
  unfold splitHost at h
  split at h
  · rename_i bracketed
    left
    split at h
    · cases h
    · cases h
    · rename_i hne hcut
      cases h
      obtain ⟨rfl, hclosing⟩ := Text.splitAtFirst?_eq_some_iff.1 hcut
      exact ⟨hne, hclosing, rfl⟩
    · rename_i hne hcut
      cases h
      obtain ⟨rfl, hclosing⟩ := Text.splitAtFirst?_eq_some_iff.1 hcut
      exact ⟨hne, hclosing, rfl⟩
    · cases h
  · rename_i hopening
    have hhead := head?_ne_some hopening
    right
    split at h
    · rename_i hcut
      cases h
      exact ⟨hhead, Text.splitAtLast?_eq_none_iff.1 hcut, (List.append_nil _).symm⟩
    · rename_i hcut
      split at h
      · cases h
      · rename_i hcolon
        cases h
        rw [List.contains_iff_mem] at hcolon
        exact ⟨hhead, hcolon, (Text.splitAtLast?_eq_some_iff.1 hcut).1⟩

/-- What stands for a host: a star for that of a server, and for any other host the host itself, in
brackets or without. -/
inductive Shown : List Char → String → Bool → Prop
  | star : Shown ['*'] anyHost true
  | bracketed {host : List Char} (hne : host ≠ []) (hclosing : ']' ∉ host) :
    Shown ('[' :: (host ++ [']'])) (String.ofList host) false
  | plain {host : List Char} (hne : host ≠ []) (hcolon : ':' ∉ host) (hstar : host.head? ≠ some '*')
    (hopening : host.head? ≠ some '[') : Shown host (String.ofList host) false

/-- Whether a port is the one that is read from a text, or both are missing. -/
abbrev Numbered : Option (List Char) → Option Nat → Prop :=
  Option.Rel fun digits n => readPort? digits = some n

/-- What stands for an address behind its scheme: its host, and behind a colon its port, which some
protocols do without. -/
inductive Spelled : List Char → Address → Prop
  | mk {shown : List Char} {protocol : Protocol} {host : String} {isServer : Bool}
    {portText : Option (List Char)} {port : Option Nat} (hhost : Shown shown host isServer)
    (hport : Numbered portText port) (hneeded : port = none → protocol.requiresPort = false) :
    Spelled (shown ++ afterColon portText) ⟨protocol, host, port, isServer⟩

theorem Spelled.parts (h : Spelled cs a) : ∃ shown portText, Shown shown a.host a.isServer ∧
    Numbered portText a.port ∧ (a.port = none → a.protocol.requiresPort = false) := by
  obtain ⟨hhost, hport, hneeded⟩ := h
  exact ⟨_, _, hhost, hport, hneeded⟩

theorem shown_of_server (h : splitHost cs = .ok ([], portText)) :
    '*' :: cs = ['*'] ++ afterColon portText := by
  obtain ⟨hne, -, -⟩ | ⟨-, -, rfl⟩ := splitHost_eq_ok h
  · exact absurd rfl hne
  · rfl

theorem shown_of_client (h : splitHost cs = .ok (host, portText)) (hne : host ≠ [])
    (hstar : cs.head? ≠ some '*') :
    ∃ shown, cs = shown ++ afterColon portText ∧ Shown shown (String.ofList host) false := by
  obtain ⟨-, hclosing, rfl⟩ | ⟨hopening, hcolon, rfl⟩ := splitHost_eq_ok h
  · exact ⟨_, by simp, .bracketed hne hclosing⟩
  · rw [head?_append_of_ne_nil hne] at hopening hstar
    exact ⟨host, rfl, .plain hne hcolon hstar hopening⟩

theorem spelled_of_parseAfterScheme (h : parseAfterScheme url protocol cs = .ok a) :
    Spelled cs a ∧ a.protocol = protocol := by
  unfold parseAfterScheme at h
  split at h
  rename_i isServer left hleft
  split at h
  · cases h
  · rename_i host portText hsplit
    split at h
    · cases h
    · rename_i hserver
      split at h
      · cases h
      · rename_i hclient
        obtain ⟨shown, rfl, hshown⟩ : ∃ shown, cs = shown ++ afterColon portText ∧
            Shown shown (if isServer then anyHost else String.ofList host) isServer := by
          split at hleft
          · cases hleft
            obtain rfl : host = [] := by simpa using hserver
            exact ⟨_, shown_of_server hsplit, .star⟩
          · rename_i hstar
            cases hleft
            exact shown_of_client hsplit (by simpa using hclient) (head?_ne_some hstar)
        simp only at h
        split at h
        · split at h
          · cases h
          · rename_i hneeded
            cases h
            exact ⟨.mk hshown .none fun _ => eq_false_of_ne_true hneeded, rfl⟩
        · split at h
          · cases h
          · rename_i hport
            cases h
            exact ⟨.mk hshown (.some hport) nofun, rfl⟩

theorem colon_notMem_of_readPort? {n : Nat} (h : readPort? digits = some n) : ':' ∉ digits := by
  intro hmem
  rcases Text.isDigit_of_unsigned? (Option.filter_eq_some_iff.1 h).1 hmem with hplus | hdigit
  · exact absurd hplus (by decide)
  · exact absurd hdigit (by decide)

theorem colon_notMem_of_numbered (h : Numbered portText port) :
    ∀ digits, portText = some digits → ':' ∉ digits := by
  intro digits hdigits
  cases h with
  | none => cases hdigits
  | some hport =>
    cases hdigits
    exact colon_notMem_of_readPort? hport

theorem parseAfterScheme_server (hsplit : splitHost cs = .ok ([], portText))
    (hport : Numbered portText port) (hneeded : port = none → protocol.requiresPort = false)
    (url : String) :
    parseAfterScheme url protocol ('*' :: cs) = .ok ⟨protocol, anyHost, port, true⟩ := by
  simp only [parseAfterScheme, hsplit]
  cases hport with
  | none => simp [hneeded rfl]
  | some hport => simp [hport]

theorem parseAfterScheme_client (hstar : cs.head? ≠ some '*')
    (hsplit : splitHost cs = .ok (host, portText)) (hne : host ≠ [])
    (hport : Numbered portText port) (hneeded : port = none → protocol.requiresPort = false)
    (url : String) :
    parseAfterScheme url protocol cs = .ok ⟨protocol, String.ofList host, port, false⟩ := by
  unfold parseAfterScheme
  split
  rename_i isServer left hleft
  split at hleft
  · exact absurd rfl hstar
  · cases hleft
    simp only [hsplit]
    cases hport with
    | none => simp [hneeded rfl, hne]
    | some hport => simp [hport, hne]

theorem parseAfterScheme_of_spelled (h : Spelled cs a) (url : String) :
    parseAfterScheme url a.protocol cs = .ok a := by
  obtain ⟨hhost, hport, hneeded⟩ := h
  have hcolons := colon_notMem_of_numbered hport
  cases hhost with
  | star =>
    refine parseAfterScheme_server (splitHost_plain ?_ rfl nofun hcolons) hport hneeded url
    cases hport <;> simp [afterColon]
  | bracketed hne hclosing =>
    simp only [List.cons_append, List.append_assoc, List.nil_append]
    exact parseAfterScheme_client (by simp) (splitHost_bracketed hne hclosing) hne hport hneeded url
  | plain hne hcolon hstar hopening =>
    rw [← head?_append_of_ne_nil hne] at hstar hopening
    exact parseAfterScheme_client hstar (splitHost_plain hopening rfl hcolon hcolons) hne hport
      hneeded url

theorem parse_append {cs : List Char}
    (h : url.toList = protocol.scheme.toList ++ ("://".toList ++ cs)) :
    parse url = parseAfterScheme url protocol cs := by
  have hcut : Text.splitAtFirst? "://".toList url.toList = some (protocol.scheme.toList, cs) := by
    rw [h]
    exact Text.splitAtFirst?_append protocol.colon_notMem_scheme
  have hscheme : Protocol.ofScheme? (String.ofList protocol.scheme.toList) = some protocol := by
    rw [Protocol.ofScheme?_eq_some_iff, String.ofList_toList]
  simp only [parse, hcut, hscheme]

theorem parse_eq_ok_iff : parse url = .ok a ↔
    ∃ cs, url.toList = a.protocol.scheme.toList ++ ("://".toList ++ cs) ∧ Spelled cs a := by
  constructor
  · intro h
    unfold parse at h
    split at h
    · cases h
    · rename_i scheme cs hcut
      split at h
      · cases h
      · rename_i protocol hscheme
        obtain ⟨hspelled, rfl⟩ := spelled_of_parseAfterScheme h
        refine ⟨cs, ?_, hspelled⟩
        rw [← Protocol.ofScheme?_eq_some_iff.1 hscheme, String.toList_ofList]
        exact Text.eq_of_splitAtFirst? hcut
  · rintro ⟨cs, hurl, hspelled⟩
    rw [parse_append hurl]
    exact parseAfterScheme_of_spelled hspelled url

theorem parse_text_eq (a : Address) :
    parse a.text = parseAfterScheme a.text a.protocol (a.hostChars ++ a.portChars) := by
  apply parse_append
  rw [text, String.toList_ofList]
  simp

theorem readPort?_toString {n : Nat} (h : readPort? digits = some n) :
    readPort? (toString n).toList = some n := by
  obtain ⟨hread, hpos⟩ := Option.filter_eq_some_iff.1 h
  obtain ⟨-, hlt⟩ := Option.filter_eq_some_iff.1 hread
  rw [readPort?, Text.unsigned?_toString (of_decide_eq_true hlt)]
  exact Option.filter_some_pos hpos

theorem portChars_of_numbered (h : Numbered portText a.port) :
    ∃ printed, a.portChars = afterColon printed ∧ Numbered printed a.port := by
  refine ⟨a.port.map fun n => (toString n).toList, ?_, ?_⟩
  · rw [portChars]
    cases a.port <;> rfl
  · generalize a.port = port at h ⊢
    cases h with
    | none => exact .none
    | some hport => exact .some (readPort?_toString hport)

theorem bracket_notMem_portChars (a : Address) : ']' ∉ a.portChars := by
  rw [portChars]
  split
  · intro hmem
    rcases List.mem_cons.1 hmem with hcolon | hdigit
    · exact absurd hcolon (by decide)
    · exact absurd (Text.isDigit_of_mem_toString hdigit) (by decide)
  · exact List.not_mem_nil

/-- Whether the printed host is read as the host: a colon brings brackets, and without them a star or
an opening bracket at its head is read as something else. -/
def ReadsBack (a : Address) : Prop :=
  a.isServer = true ∨ ':' ∈ a.host.toList ∨
    a.host.toList.head? ≠ some '*' ∧ a.host.toList.head? ≠ some '['

theorem shown_hostChars (h : Shown cs a.host a.isServer) (hclear : a.ReadsBack) :
    Shown a.hostChars a.host a.isServer := by
  simp only [hostChars, ReadsBack] at hclear ⊢
  generalize a.host = host, a.isServer = isServer at h hclear ⊢
  cases h with
  | star => exact .star
  | bracketed hne hclosing =>
    simp only [String.toList_ofList, List.contains_iff_mem, Bool.false_eq_true, false_or,
      if_false] at hclear ⊢
    split
    · exact .bracketed hne hclosing
    · rename_i hcolon
      obtain ⟨hstar, hopening⟩ := hclear.resolve_left hcolon
      exact .plain hne hcolon hstar hopening
  | plain hne hcolon hstar hopening =>
    simp only [String.toList_ofList, List.contains_iff_mem, Bool.false_eq_true, if_false]
    rw [if_neg hcolon]
    exact .plain hne hcolon hstar hopening

theorem afterColon_inj {other : Option (List Char)} (h : afterColon portText = afterColon other) :
    portText = other := by
  cases portText <;> cases other <;> simp_all [afterColon]

theorem numbered_inj {other : Option Nat} (h : Numbered portText port)
    (hother : Numbered portText other) : port = other := by
  cases h with
  | none =>
    cases hother
    rfl
  | some hport =>
    cases hother with
    | some hread => exact hport.symm.trans hread

theorem bracket_notMem_of_not_readsBack (h : Shown cs a.host a.isServer) (hclear : ¬a.ReadsBack) :
    ']' ∉ a.host.toList := by
  simp only [ReadsBack] at hclear
  generalize a.host = host, a.isServer = isServer at h hclear ⊢
  cases h with
  | star => exact absurd (.inl rfl) hclear
  | bracketed _ hclosing =>
    rw [String.toList_ofList]
    exact hclosing
  | plain _ _ hstar hopening =>
    rw [String.toList_ofList] at hclear
    exact absurd (.inr (.inr ⟨hstar, hopening⟩)) hclear

/-- Of the ways to show a host, only a star fits a text whose host begins with a star or an opening
bracket and holds neither a colon nor a closing bracket. -/
theorem eq_star_of_shown {shown name : List Char} {printed : Option (List Char)} {isServer : Bool}
    {host : String} (h : Shown shown host isServer)
    (heq : name ++ afterColon printed = shown ++ afterColon portText)
    (hcolon : ':' ∉ name) (hclosing : ']' ∉ name ++ afterColon printed)
    (hhead : name.head? = some '*' ∨ name.head? = some '[') :
    name = ['*'] ∧ printed = portText ∧ host = anyHost ∧ isServer = true := by
  have hne : name ≠ [] := by
    rintro rfl
    simp at hhead
  cases h with
  | star =>
    obtain ⟨c, rest, rfl⟩ := List.exists_cons_of_ne_nil hne
    obtain ⟨rfl, htail⟩ := List.cons.inj heq
    cases rest with
    | nil => exact ⟨rfl, afterColon_inj htail, rfl, rfl⟩
    | cons d rest =>
      -- A second character would be the colon before the port.
      cases portText with
      | none => cases htail
      | some digits =>
        obtain ⟨rfl, -⟩ := List.cons.inj htail
        simp at hcolon
  | bracketed =>
    rw [heq] at hclosing
    simp at hclosing
  | plain hother _ hstar hopening =>
    rw [← head?_append_of_ne_nil hother, ← heq, head?_append_of_ne_nil hne] at hstar hopening
    exact absurd hhead (not_or.2 ⟨hstar, hopening⟩)

/-- A host that is not read back, but as something else, is a star, and is read as that of a server. -/
theorem eq_server_of_not_readsBack (h : Shown cs a.host a.isServer) (hport : Numbered portText a.port)
    (hclear : ¬a.ReadsBack) (hb : parse a.text = .ok b) :
    a.host = "*" ∧ b = { a with host := anyHost, isServer := true } := by
  have hclosing := bracket_notMem_of_not_readsBack h hclear
  obtain ⟨printed, hprinted, hnumbered⟩ := portChars_of_numbered hport
  simp only [ReadsBack, not_or, Classical.not_and_iff_not_or_not, Classical.not_not] at hclear
  obtain ⟨hclient, hcolon, hhead⟩ := hclear
  have hshown : a.hostChars = a.host.toList := by
    rw [hostChars, if_neg hclient, if_neg (by rwa [List.contains_iff_mem])]
  rw [parse_text_eq, hshown, hprinted] at hb
  obtain ⟨hspelled, hprotocol⟩ := spelled_of_parseAfterScheme hb
  have hnone : ']' ∉ a.host.toList ++ afterColon printed := by
    rw [List.mem_append, not_or, ← hprinted]
    exact ⟨hclosing, a.bracket_notMem_portChars⟩
  generalize heq : a.host.toList ++ afterColon printed = cs at hspelled
  obtain ⟨hother, hread, -⟩ := hspelled
  obtain ⟨hstar, rfl, rfl, rfl⟩ := eq_star_of_shown hother heq hcolon hnone hhead
  refine ⟨String.toList_inj.1 hstar, ?_⟩
  rw [numbered_inj hnumbered hread, ← hprotocol]

theorem parse_text_of_readsBack (h : Shown cs a.host a.isServer) (hport : Numbered portText a.port)
    (hneeded : a.port = none → a.protocol.requiresPort = false) (hclear : a.ReadsBack) :
    parse a.text = .ok a := by
  obtain ⟨printed, hprinted, hnumbered⟩ := portChars_of_numbered hport
  rw [parse_text_eq, hprinted]
  exact parseAfterScheme_of_spelled (.mk (shown_hostChars h hclear) hnumbered hneeded) a.text

/-- Printing an address that was read gives a text that is read as it just if the host is that of a
server, holds a colon, or begins neither with a star nor with an opening bracket. If the text is read as
another address then the host is a star, and the other is that of a server. -/
theorem parse_text_iff (h : parse url = .ok a) :
    (parse a.text = .ok a ↔ a.isServer = true ∨ ':' ∈ a.host.toList ∨
      a.host.toList.head? ≠ some '*' ∧ a.host.toList.head? ≠ some '[') ∧
    ∀ b, parse a.text = .ok b →
      b = a ∨ a.host = "*" ∧ b = { a with host := anyHost, isServer := true } := by
  obtain ⟨cs, -, hspelled⟩ := parse_eq_ok_iff.1 h
  obtain ⟨shown, portText, hshown, hport, hneeded⟩ := hspelled.parts
  by_cases hclear : a.ReadsBack
  · have hsame := parse_text_of_readsBack hshown hport hneeded hclear
    exact ⟨iff_of_true hsame hclear, fun b hb => .inl (Except.ok.inj (hb.symm.trans hsame))⟩
  · have hother {b : Address} (hb : parse a.text = .ok b) :=
      eq_server_of_not_readsBack hshown hport hclear hb
    refine ⟨iff_of_false (fun hsame => ?_) hclear, fun b hb => .inr (hother hb)⟩
    exact hclear (.inl (congrArg isServer (hother hsame).2))

/-- A host in brackets is printed as it was written; one that begins with a bracket of its own is printed
as a text that stands for no address. -/
theorem parse_text_iff_brackets :
    parse "tcp://[::1]:7000" = .ok ⟨.tcp, "::1", some 7000, false⟩ ∧
    parse (text ⟨.tcp, "::1", some 7000, false⟩) = .ok ⟨.tcp, "::1", some 7000, false⟩ ∧
    parse "tcp://[[a]:80" = .ok ⟨.tcp, "[a", some 80, false⟩ ∧
    ∀ b, parse (text ⟨.tcp, "[a", some 80, false⟩) ≠ .ok b := by
  have hloopback : parse "tcp://[::1]:7000" = .ok ⟨.tcp, "::1", some 7000, false⟩ := rfl
  have hopening : parse "tcp://[[a]:80" = .ok ⟨.tcp, "[a", some 80, false⟩ := rfl
  obtain ⟨hnever, hothers⟩ := parse_text_iff hopening
  refine ⟨hloopback, (parse_text_iff hloopback).1.2 (.inr (.inl (by decide))), hopening, ?_⟩
  intro b hb
  obtain rfl | ⟨hstar, -⟩ := hothers b hb
  · exact absurd (hnever.1 hb) (by decide)
  · exact absurd hstar (by decide)

/-- Brackets make a star the host of a client, which is printed as the address of a server. -/
theorem bracketed_star_printed_as_server :
    parse "tcp://[*]:80" = .ok ⟨.tcp, "*", some 80, false⟩ ∧
    text ⟨.tcp, "*", some 80, false⟩ = "tcp://*:80" ∧
    parse "tcp://*:80" = .ok ⟨.tcp, anyHost, some 80, true⟩ ∧
    ¬∀ url a, parse url = .ok a → parse a.text = .ok a := by
  have hclient : parse "tcp://[*]:80" = .ok ⟨.tcp, "*", some 80, false⟩ := rfl
  have hprinted : text ⟨.tcp, "*", some 80, false⟩ = "tcp://*:80" := rfl
  have hserver : parse "tcp://*:80" = .ok ⟨.tcp, anyHost, some 80, true⟩ := rfl
  refine ⟨hclient, hprinted, hserver, fun h => ?_⟩
  have hback := h _ _ hclient
  rw [hprinted, hserver] at hback
  exact nomatch congrArg isServer (Except.ok.inj hback)

end Address

end Relay
