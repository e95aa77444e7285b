import WordServer.Command.Serve
import WordServer.Proofs.Address.Parser

/-!
# Options in place of the parts of an address

The server's address may be given as a text that names a place (`Spells`), of which options replace the
host, the port or both (`NamesPart`). Such a text is read as an address only if it names a host and a
port (`baseAddress?_of_spells`). Then the options replace exactly what they name. Otherwise the text
counts for nothing: the kind is `tcp`, the host is the option or the default one, and the port has to
be an option (`resolveAddress_of_spells`).
-/

namespace WordServer.Command.Serve

open Address (HostText PlaceText)

/-- A text is the scheme of a kind and a place, whose host holds no blank, slash, question mark or
bracket. -/
structure Spells (text : String) (kind : TransportKind) (host : Option String)
    (port : Option UInt16) : Prop where
  isTcp : kind.isTcp = true
  place : ∃ place, text.toList = kind.name.toList ++ ':' :: '/' :: '/' :: place ∧
    PlaceText host port place
  plain : ∀ h ∈ host, ∀ c ∈ h.toList, Text.isBlank c = false ∧ c ∉ ['/', '?', '[', ']']

/-- Options that name a host or a port and no path. -/
structure NamesPart (options : ServeOptions) : Prop where
  noPath : options.path = none
  isSome : options.host.isSome ∨ options.port.isSome
  notEmpty : options.host ≠ some ""

variable {options : ServeOptions} {text : String} {kind : TransportKind} {host : Option String}
  {port : Option UInt16}

/-! ## The address that a place makes -/

theorem parse_of_spells (h : Spells text kind host port) :
    Address.parse text.toList =
      (Address.validate { kind, host, port }).map fun _ => { kind, host, port } := by
  obtain ⟨place, htext, hplace⟩ := h.place
  have hchars : ∀ c ∈ place, Text.isBlank c = false ∧ c ≠ '?' := by
    intro c hc
    rcases hplace.mem c hc with ⟨s, hs, hc⟩ | hc | hdigit
    · obtain ⟨hblank, hnot⟩ := h.plain s hs c hc
      exact ⟨hblank, by rintro rfl; simp at hnot⟩
    · simp only [List.mem_cons, List.not_mem_nil, or_false] at hc
      rcases hc with rfl | rfl | rfl | rfl <;> decide
    · refine ⟨Text.isBlank_eq_false_of_isDigit hdigit, ?_⟩
      rintro rfl
      cases hdigit
  rw [htext]
  exact Address.parse_of_placeText (Address.lower_name kind) h.isTcp hplace (fun hc => (hchars _ hc).2 rfl)
    fun c hc => (hchars c (List.mem_of_getLast? hc)).1

/-- **A place is an address if it has a host and a port.** -/
theorem baseAddress?_of_spells (h : Spells text kind host port) :
    baseAddress? text =
      match host, port with
      | some host, some port => some (.tcp kind host port)
      | _, _ => none := by
  obtain ⟨place, -, hplace⟩ := h.place
  unfold baseAddress?
  rw [parse_of_spells h, Address.validate_of_isTcp h.isTcp]
  cases host with
  | none => rfl
  | some host =>
    have hbare : Address.isBare (some host) = false :=
      Address.isBare_eq_false_iff.2 ⟨host, rfl, fun hempty => hplace.host_ne (congrArg some hempty)⟩
    cases port with
    | none => simp [hbare, Except.map, Except.toOption]
    | some port => simp [hbare, Except.map, Except.toOption, h.isTcp, Address.tcp]

/-! ## The address with its parts replaced -/

theorem resolveAddress_of_namesPart (h : NamesPart options) :
    resolveAddress options = overriddenAddress options := by
  have hsome : (options.host.isNone && options.port.isNone) = false := by
    rcases h.isSome with hhost | hport
    · rw [Option.isNone_eq_false_iff.2 hhost, Bool.false_and]
    · rw [Option.isNone_eq_false_iff.2 hport, Bool.and_false]
  simp only [resolveAddress, h.noPath, hsome, Bool.false_eq_true, if_false]

/-- With a port, the address is that of the kind, the host and the port that were found. -/
theorem overriddenAddress_of_port {base : Option Address} (hbase : baseAddress? options.address = base)
    {kind : TransportKind} (hkind : (base.map Address.kind).getD .tcp = kind)
    (htcp : kind.isTcp = true) {host : String}
    (hhost : (options.host <|> base.bind Address.host).getD defaultHost = host) (hne : host ≠ "")
    {port : UInt16} (hport : (options.port <|> base.bind Address.port) = some port) :
    overriddenAddress options = .ok (.tcp kind host port) := by
  have hvalid : (Address.tcp kind host port).validate = .ok () := by
    rw [Address.validate_of_isTcp htcp, Address.tcp, Address.isBare_eq_false_iff.2 ⟨host, rfl, hne⟩]
    rfl
  unfold overriddenAddress
  simp only [hbase, hkind, hhost, hport, hvalid]
  rfl

theorem overriddenAddress_of_no_port (hbase : baseAddress? options.address = none)
    (hport : options.port = none) :
    overriddenAddress options = .error (.plain "--host needs a port (--port or ADDRESS)") := by
  unfold overriddenAddress
  simp only [hbase, hport]
  rfl

/-- Where the text is no address, only the options and the default host count. -/
theorem resolveAddress_of_base_none (h : NamesPart options)
    (hbase : baseAddress? options.address = none) :
    resolveAddress options =
      match options.port with
      | some port => .ok (.tcp .tcp (options.host.getD defaultHost) port)
      | none => .error (.plain "--host needs a port (--port or ADDRESS)") := by
  rw [resolveAddress_of_namesPart h]
  cases hport : options.port with
  | none => exact overriddenAddress_of_no_port hbase hport
  | some port =>
    refine overriddenAddress_of_port hbase rfl rfl ?_ ?_ ?_
    · cases options.host <;> rfl
    · cases hhost : options.host with
      | none => decide
      | some host =>
        rintro rfl
        exact h.notEmpty hhost
    · rw [hport]
      rfl

/-- Where the text has a host and a port, the options replace what they name. -/
theorem resolveAddress_of_base_some (h : NamesPart options) {host : String} (hne : host ≠ "")
    {port : UInt16} (htcp : kind.isTcp = true)
    (hbase : baseAddress? options.address = some (.tcp kind host port)) :
    resolveAddress options =
      .ok (.tcp kind (options.host.getD host) (options.port.getD port)) := by
  rw [resolveAddress_of_namesPart h]
  refine overriddenAddress_of_port hbase rfl htcp ?_ ?_ ?_
  · cases options.host <;> rfl
  · cases hhost : options.host with
    | none => exact hne
    | some other =>
      rintro rfl
      exact h.notEmpty hhost
  · cases options.port <;> rfl

/-- **Options replace the parts of a text that has a host and a port**, and of any other text nothing
is kept: then the kind is `tcp`, the host is the option or the default one, and without a port among
the options there is no address. So where the options complete what the text leaves open, the result
is the completed address only if nothing was to be kept: the port is an option, the kind is `tcp`, and
the host is an option or the default one. -/
theorem resolveAddress_of_spells (h : NamesPart options)
    (hspells : Spells options.address kind host port) :
    (∀ ownHost ownPort, host = some ownHost → port = some ownPort →
      resolveAddress options =
        .ok (.tcp kind (options.host.getD ownHost) (options.port.getD ownPort))) ∧
    (host = none ∨ port = none →
      resolveAddress options =
        match options.port with
        | some newPort => .ok (.tcp .tcp (options.host.getD defaultHost) newPort)
        | none => .error (.plain "--host needs a port (--port or ADDRESS)")) ∧
    ∀ found foundPort, (options.host <|> host) = some found →
      (options.port <|> port) = some foundPort →
        (resolveAddress options = .ok (.tcp kind found foundPort) ↔
          (host.isSome ∧ port.isSome) ∨
            (options.port.isSome ∧ kind = .tcp ∧ options.host.getD defaultHost = found)) := by
  have hbase := baseAddress?_of_spells hspells
  obtain ⟨place, -, hplace⟩ := hspells.place
  have hkept : ∀ ownHost ownPort, host = some ownHost → port = some ownPort →
      resolveAddress options =
        .ok (.tcp kind (options.host.getD ownHost) (options.port.getD ownPort)) := by
    rintro ownHost ownPort rfl rfl
    exact resolveAddress_of_base_some h (fun hempty => hplace.host_ne (congrArg some hempty))
      hspells.isTcp hbase
  have hlost : host = none ∨ port = none → baseAddress? options.address = none := by
    rintro (rfl | rfl)
    · exact hbase
    · rw [hbase]
      cases host <;> rfl
  refine ⟨hkept, fun hnone => resolveAddress_of_base_none h (hlost hnone), ?_⟩
  intro found foundPort hfound hfoundPort
  by_cases hboth : host.isSome ∧ port.isSome
  · refine iff_of_true ?_ (Or.inl hboth)
    obtain ⟨ownHost, rfl⟩ := Option.isSome_iff_exists.1 hboth.1
    obtain ⟨ownPort, rfl⟩ := Option.isSome_iff_exists.1 hboth.2
    rw [hkept ownHost ownPort rfl rfl]
    have hhost : options.host.getD ownHost = found := by
      cases hoption : options.host <;> simpa [hoption] using hfound
    have hport : options.port.getD ownPort = foundPort := by
      cases hoption : options.port <;> simpa [hoption] using hfoundPort
    rw [hhost, hport]
  · have hnone : host = none ∨ port = none := by
      cases host with
      | none => exact Or.inl rfl
      | some ownHost =>
        cases port with
        | none => exact Or.inr rfl
        | some ownPort => exact absurd ⟨rfl, rfl⟩ hboth
    rw [resolveAddress_of_base_none h (hlost hnone)]
    cases hoption : options.port with
    | none => simp [hboth]
    | some newPort =>
      obtain rfl : newPort = foundPort := by simpa [hoption] using hfoundPort
      simp only [hboth, Address.tcp, Except.ok.injEq, Address.mk.injEq, Option.some.injEq, and_true,
        Option.isSome_some, false_or, true_and]
      exact and_congr_left' eq_comm

/-- A new port for an address whose host is in brackets. -/
theorem resolveAddress_of_spells_new_port :
    let options : ServeOptions := { address := "tcp6://[::1]:80", port := some 81 }
    NamesPart options ∧ Spells options.address .tcp6 (some "::1") (some 80) ∧
      resolveAddress options = .ok (.tcp .tcp6 "::1" 81) := by
  intro options
  have hnames : NamesPart options := ⟨rfl, Or.inr rfl, nofun⟩
  have hhost : HostText "::1".toList "[::1]".toList := .bracketed (by decide)
  have hplace : PlaceText (some "::1") (some 80) "[::1]:80".toList :=
    .both (by decide) hhost (Text.isNumeral_decimal 80)
  have hspells : Spells options.address .tcp6 (some "::1") (some 80) := by
    refine ⟨rfl, ⟨_, by decide, hplace⟩, fun h hh => ?_⟩
    obtain rfl : "::1" = h := Option.some.inj hh
    have hchars : "::1".toList = [':', ':', '1'] := by decide
    simp only [hchars, List.forall_mem_cons, List.not_mem_nil, false_imp_iff, implies_true, and_true]
    decide
  exact ⟨hnames, hspells, (resolveAddress_of_spells hnames hspells).1 "::1" 80 rfl rfl⟩

/-- It is not so that options replace only what they name: a text with a port and no host is lost, with
its port, where the host is an option. -/
theorem not_forall_parts_replaced :
    ¬ ∀ (options : ServeOptions) (kind : TransportKind) (host : Option String)
        (port : Option UInt16), NamesPart options → Spells options.address kind host port →
      ∀ found foundPort, (options.host <|> host) = some found →
        (options.port <|> port) = some foundPort →
          resolveAddress options = .ok (.tcp kind found foundPort) := by
  intro hall
  let options : ServeOptions := { address := "tcp4://:9000", host := some "::1" }
  have hnames : NamesPart options := ⟨rfl, Or.inl rfl, by decide⟩
  have hspells : Spells options.address .tcp4 none (some 9000) :=
    ⟨rfl, ⟨_, by decide, .port (Text.isNumeral_decimal 9000)⟩, nofun⟩
  have hlost : resolveAddress options =
      .error (.plain "--host needs a port (--port or ADDRESS)") := by decide
  have hkept := hall options .tcp4 none (some 9000) hnames hspells "::1" 9000 rfl rfl
  rw [hlost] at hkept
  cases hkept

end WordServer.Command.Serve
