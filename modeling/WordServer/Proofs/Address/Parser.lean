import Mathlib.Data.List.Basic
import Mathlib.Tactic.Tauto
import WordServer.Address.Parser
import WordServer.Proofs.Text.Numeral

/-!
# How an address is taken apart

Behind a scheme in any letter case stands the rest of the address, which is settled by the kind alone
(`parse_of_scheme`). The rest of a network address names a place (`PlaceText`): a host, which may be in
brackets and has to be if it holds a colon, a port, or both with a colon between. The parser gives back
the host and the port of a place, and nothing for what is not there (`PlaceText.splitHostPort`).

Blanks around an address make no difference (`parse_append_blanks`).
-/

namespace WordServer.Address

/-! ## Schemes -/

theorem lower_name (kind : TransportKind) : Text.lower kind.name.toList = kind.name.toList := by
  cases kind <;> decide

section Scheme

variable {scheme : List Char} {kind : TransportKind} (hscheme : Text.lower scheme = kind.name.toList)

include hscheme

theorem not_mem_scheme {c : Char} (hc : c.toLower = c)
    (hname : ∀ kind : TransportKind, c ∉ kind.name.toList) : c ∉ scheme :=
  Text.not_mem_of_lower hscheme hc (hname kind)

theorem isBlank_scheme : ∀ c ∈ scheme, Text.isBlank c = false := by
  have hname : kind.name.toList.all (!Text.isBlank ·) = true := by
    cases kind <;> decide
  refine Text.isBlank_eq_false_of_lower hscheme fun c hc => ?_
  simpa using List.all_eq_true.1 hname c hc

theorem splitScheme_of_lower (rest : List Char) :
    splitScheme (scheme ++ ':' :: rest) = (kind, (Text.afterStart ['/', '/'] rest).getD rest) := by
  have hcolon : ':' ∉ scheme := by
    refine not_mem_scheme hscheme (by decide) fun kind => ?_
    cases kind <;> decide
  have hnot : ¬ Text.caselessEq (scheme ++ ':' :: rest) "stdio".toList = true := by
    intro heq
    have hmem : ':' ∉ scheme ++ ':' :: rest :=
      Text.not_mem_of_lower (beq_iff_eq.1 heq) (by decide) (by decide)
    exact hmem (List.mem_append_right _ List.mem_cons_self)
  rw [splitScheme, if_neg hnot, Text.cutFirst_append hcolon]
  simp only [hscheme, String.ofList_toList, TransportKind.ofName?_name]

end Scheme

/-! ## Places -/

theorem readPort?_eq_some_iff {text : List Char} {port : UInt16} :
    readPort? text = some port ↔ Text.IsNumeral text port.toNat := by
  have hsize : 0 < UInt16.size := by decide
  unfold readPort?
  rw [Option.map_eq_some_iff]
  constructor
  · rintro ⟨n, hread, rfl⟩
    obtain ⟨hnumeral, hlt⟩ := (Text.readBelow_eq_some_iff hsize).1 hread
    rwa [UInt16.toNat_ofNat_of_lt' hlt]
  · intro h
    exact ⟨port.toNat, (Text.readBelow_eq_some_iff hsize).2 ⟨h, port.toNat_lt⟩,
      UInt16.ofNat_toNat⟩

/-- How a host is written: as it is, or in brackets. -/
inductive HostText (host : List Char) : List Char → Prop
  | bare (hcolon : ':' ∉ host) (hopen : '[' ∉ host) : HostText host host
  | bracketed (hclose : ']' ∉ host) : HostText host ('[' :: (host ++ [']']))

/-- What a text behind the scheme of a network address names: a host, a port, or both. -/
inductive PlaceText : Option String → Option UInt16 → List Char → Prop
  | host {host text : List Char} (hne : host ≠ []) (hslash : '/' ∉ host) (h : HostText host text) :
      PlaceText (some (String.ofList host)) none text
  | port {port : UInt16} {text : List Char} (h : Text.IsNumeral text port.toNat) :
      PlaceText none (some port) (':' :: text)
  | both {host text digits : List Char} {port : UInt16} (hne : host ≠ []) (h : HostText host text)
      (hport : Text.IsNumeral digits port.toNat) :
      PlaceText (some (String.ofList host)) (some port) (text ++ ':' :: digits)

theorem HostText.eq_or_mem {host text : List Char} (h : HostText host text) :
    ∀ c ∈ text, c ∈ host ∨ c ∈ ['[', ']'] := by
  intro c hc
  cases h with
  | bare => exact Or.inl hc
  | bracketed =>
    simp only [List.mem_cons, List.mem_append, List.not_mem_nil, or_false] at hc ⊢
    tauto

/-- The characters of a place are those of its host, the marks around it, and those of a port. -/
theorem PlaceText.mem {host : Option String} {port : Option UInt16} {place : List Char}
    (h : PlaceText host port place) :
    ∀ c ∈ place, (∃ s ∈ host, c ∈ s.toList) ∨ c ∈ ['[', ']', ':', '+'] ∨ c.isDigit = true := by
  have hport : ∀ {digits : List Char} {n : Nat}, Text.IsNumeral digits n →
      ∀ c ∈ ':' :: digits, c ∈ ['[', ']', ':', '+'] ∨ c.isDigit = true := by
    intro digits n hdigits c hc
    rcases List.mem_cons.1 hc with rfl | hc
    · exact Or.inl (by simp)
    · rcases hdigits.eq_plus_or_isDigit c hc with rfl | hdigit
      · exact Or.inl (by simp)
      · exact Or.inr hdigit
  have hhost : ∀ {host text : List Char}, HostText host text → ∀ c ∈ text,
      (∃ s ∈ some (String.ofList host), c ∈ s.toList) ∨
        c ∈ ['[', ']', ':', '+'] ∨ c.isDigit = true := by
    intro host text htext c hc
    rcases htext.eq_or_mem c hc with hc | hc
    · exact Or.inl ⟨_, rfl, by rwa [String.toList_ofList]⟩
    · exact Or.inr (Or.inl (List.mem_append_left [':', '+'] hc))
  intro c hc
  cases h with
  | host hne hslash htext => exact hhost htext c hc
  | port hdigits => exact Or.inr (hport hdigits c hc)
  | both hne htext hdigits =>
    rcases List.mem_append.1 hc with hc | hc
    · exact hhost htext c hc
    · exact Or.inr (hport hdigits c hc)

theorem PlaceText.host_ne {host : Option String} {port : Option UInt16} {place : List Char}
    (h : PlaceText host port place) : host ≠ some "" := by
  have hne : ∀ {cs : List Char}, cs ≠ [] → some (String.ofList cs) ≠ some "" := by
    intro cs hcs heq
    have hempty := congrArg String.toList (Option.some.inj heq)
    rw [String.toList_ofList] at hempty
    exact hcs hempty
  cases h with
  | host hhost => exact hne hhost
  | port => exact nofun
  | both hhost => exact hne hhost

theorem splitHost_of_not_open {rest : List Char} (h : ∀ inner, rest ≠ '[' :: inner) :
    splitHost rest =
      match Text.cutLast ':' rest with
      | some (host, port) => .ok (host, some port)
      | none => .ok (rest, none) := by
  unfold splitHost
  split
  · rename_i inner
    exact absurd rfl (h inner)
  · rfl

theorem HostText.splitHost {host text : List Char} (h : HostText host text) :
    splitHost text = .ok (host, none) := by
  cases h with
  | bare hcolon hopen =>
    have hhead : ∀ inner, host ≠ '[' :: inner := by
      rintro inner rfl
      exact hopen List.mem_cons_self
    rw [splitHost_of_not_open hhead, Text.cutLast_eq_none_iff.2 hcolon]
  | bracketed hclose =>
    simp only [Address.splitHost, Text.cutFirst_append hclose]

theorem HostText.splitHost_port {host text port : List Char} (h : HostText host text)
    (hport : ':' ∉ port) : Address.splitHost (text ++ ':' :: port) = .ok (host, some port) := by
  cases h with
  | bare hcolon hopen =>
    have hhead : ∀ inner, host ++ ':' :: port ≠ '[' :: inner := by
      intro inner heq
      cases host with
      | nil => cases heq
      | cons c rest =>
        obtain rfl := (List.cons.inj heq).1
        exact hopen List.mem_cons_self
    rw [splitHost_of_not_open hhead, Text.cutLast_append hport]
  | bracketed hclose =>
    rw [List.cons_append, List.append_assoc]
    simp only [Address.splitHost, List.cons_append, List.nil_append, Text.cutFirst_append hclose]

/-- A place is not cut at its end. -/
theorem PlaceText.dropEndWhile {host : Option String} {port : Option UInt16} {text : List Char}
    (h : PlaceText host port text) : Text.dropEndWhile (· == '/') text = text := by
  refine Text.dropEndWhile_eq_self fun c hc => beq_eq_false_iff_ne.2 ?_
  have hslash : ∀ {cs : List Char} {n : Nat}, Text.IsNumeral cs n → '/' ∉ ':' :: cs := by
    intro cs n hcs hmem
    rcases List.mem_cons.1 hmem with heq | hmem
    · exact absurd heq (by decide)
    · exact hcs.not_mem (by decide) (by decide) hmem
  rintro rfl
  cases h with
  | host hne hnot htext =>
    cases htext with
    | bare => exact hnot (List.mem_of_getLast? hc)
    | bracketed =>
      rw [← List.cons_append, Option.mem_def, List.getLast?_concat] at hc
      cases hc
  | port hport => exact hslash hport (List.mem_of_getLast? hc)
  | both hne htext hport =>
    rw [Option.mem_def, List.getLast?_append_cons] at hc
    exact hslash hport (List.mem_of_getLast? hc)

/-- **A place gives its host and its port**, each if it is there. -/
theorem PlaceText.splitHostPort {host : Option String} {port : Option UInt16} {text : List Char}
    (h : PlaceText host port text) : splitHostPort text = .ok (host, port) := by
  rw [Address.splitHostPort, h.dropEndWhile]
  have hcolon : ∀ {cs : List Char} {n : Nat}, Text.IsNumeral cs n → ':' ∉ cs :=
    fun hcs => hcs.not_mem (by decide) (by decide)
  cases h with
  | host hne hslash htext =>
    rw [htext.splitHost]
    simp only [bind, Except.bind, List.isEmpty_iff, if_neg hne]
    rfl
  | @port port text hport =>
    have hempty : HostText [] [] := .bare List.not_mem_nil List.not_mem_nil
    have hsplit : splitHost (':' :: text) = .ok ([], some text) := hempty.splitHost_port (hcolon hport)
    rw [hsplit]
    simp only [bind, Except.bind, readPort?_eq_some_iff.2 hport]
    rfl
  | both hne htext hport =>
    rw [htext.splitHost_port (hcolon hport)]
    simp only [bind, Except.bind, List.isEmpty_iff, if_neg hne, readPort?_eq_some_iff.2 hport]
    rfl

/-! ## Whole addresses -/

theorem validate_of_isTcp {address : Address} (h : address.kind.isTcp = true) :
    address.validate =
      if isBare address.host then .error (.missingHost address.kind)
      else if address.port.isNone then .error (.missingPort address.kind)
      else .ok () := by
  obtain ⟨kind, host, port, path, options⟩ := address
  cases kind with
  | stdio => cases h
  | unix => cases h
  | _ => rfl

theorem isBare_eq_false_iff {text : Option String} :
    isBare text = false ↔ ∃ s, text = some s ∧ s ≠ "" := by
  unfold isBare
  cases text with
  | none => simp
  | some s => simp

/-- **Blanks around an address make no difference.** -/
theorem parse_append_blanks {before after : List Char} (hbefore : ∀ c ∈ before, Text.isBlank c = true)
    (hafter : ∀ c ∈ after, Text.isBlank c = true) (text : List Char) :
    parse (before ++ text ++ after) = parse text := by
  rw [parse, parse, Text.trim_append_blanks hbefore hafter]

/-- **An address is what its kind makes of the rest**, once that is checked. -/
theorem parse_of_scheme {scheme : List Char} {kind : TransportKind}
    (hscheme : Text.lower scheme = kind.name.toList) {rest : List Char} (hquery : '?' ∉ rest)
    (hlast : ∀ c ∈ rest.getLast?, Text.isBlank c = false) {address : Address}
    (h : ofParts kind ((Text.afterStart ['/', '/'] rest).getD rest) = .ok address) :
    parse (scheme ++ ':' :: rest) = address.validate.map fun _ => address := by
  have hquery' : '?' ∉ scheme ++ ':' :: rest := by
    have hnot : '?' ∉ scheme := by
      refine not_mem_scheme hscheme (by decide) fun kind => ?_
      cases kind <;> decide
    simp [hnot, hquery]
  have htrim : Text.trim (scheme ++ ':' :: rest) = scheme ++ ':' :: rest := by
    refine Text.trim_eq_self (fun c hc => ?_) fun c hc => ?_
    · cases scheme with
      | nil =>
        cases hc
        decide
      | cons first others =>
        obtain rfl : first = c := Option.some.inj hc
        exact isBlank_scheme hscheme first List.mem_cons_self
    · rw [Option.mem_def, List.getLast?_append_cons] at hc
      cases rest with
      | nil =>
        cases hc
        decide
      | cons first others =>
        rw [List.getLast?_cons_cons] at hc
        exact hlast c hc
  have hne : (scheme ++ ':' :: rest).isEmpty = false := by
    cases scheme <;> rfl
  have hbody : ofBody (scheme ++ ':' :: rest) [] = .ok address := by
    rw [ofBody, splitScheme_of_lower hscheme]
    simp only [h]
    rfl
  rw [parse, htrim, Text.cutFirst_eq_none_iff.2 hquery']
  simp only [hne, hbody, Bool.false_eq_true, if_false]
  cases hvalid : address.validate with
  | error fault => simp only [bind, Except.bind, Except.mapError, hvalid, Except.map]
  | ok _ =>
    simp only [bind, Except.bind, Except.mapError, hvalid, Except.map]
    rfl

theorem afterStart_slashes (place : List Char) :
    (Text.afterStart ['/', '/'] ('/' :: '/' :: place)).getD ('/' :: '/' :: place) = place := by
  have hafter : Text.afterStart ['/', '/'] ('/' :: '/' :: place) = some place :=
    Text.afterStart_append ['/', '/'] place
  rw [hafter, Option.getD_some]

/-- Two slashes may stand between the scheme and the rest. -/
theorem parse_of_slashes {scheme : List Char} {kind : TransportKind}
    (hscheme : Text.lower scheme = kind.name.toList) {place : List Char} (hquery : '?' ∉ place)
    (hlast : ∀ c ∈ place.getLast?, Text.isBlank c = false) {address : Address}
    (h : ofParts kind place = .ok address) :
    parse (scheme ++ ':' :: '/' :: '/' :: place) = address.validate.map fun _ => address := by
  rw [← afterStart_slashes place] at h
  refine parse_of_scheme hscheme (by simp [hquery]) (fun c hc => ?_) h
  cases place with
  | nil =>
    cases hc
    decide
  | cons first others => exact hlast c hc

/-- A network address is a scheme and a place. -/
theorem parse_of_placeText {scheme : List Char} {kind : TransportKind}
    (hscheme : Text.lower scheme = kind.name.toList) (htcp : kind.isTcp = true)
    {host : Option String} {port : Option UInt16} {text : List Char}
    (htext : PlaceText host port text) (hquery : '?' ∉ text)
    (hlast : ∀ c ∈ text.getLast?, Text.isBlank c = false) :
    parse (scheme ++ ':' :: '/' :: '/' :: text) =
      (validate { kind, host, port }).map fun _ => { kind, host, port } := by
  refine parse_of_slashes hscheme hquery hlast ?_
  cases kind with
  | stdio => cases htcp
  | unix => cases htcp
  | _ =>
    simp only [ofParts, htext.splitHostPort]
    rfl

end WordServer.Address
