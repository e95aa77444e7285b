import WordServer.Proofs.Address.Parser

/-!
# Canonical addresses

The canonical text of an address is its scheme, a colon, and what its kind needs: nothing, a place
with its host in brackets if that holds a colon, or a path. An address can be told from this text if
it is valid, has no value in a field that its kind ignores (`OwnFields`), and holds nothing for which
the syntax has another use (`Expressible`). Then the text reads back as the address without its
options, also in another letter case of the scheme and with blanks around it (`parse_display`).
-/

namespace WordServer.Address

/-- There is no value in a field that the kind ignores. -/
structure OwnFields (address : Address) : Prop where
  hostPort : address.kind.isTcp = false → address.host = none ∧ address.port = none
  path : address.kind ≠ .unix → address.path = none

/-- The host holds no question mark and no bracket, and the path no question mark and no blank at its
end. -/
structure Expressible (address : Address) : Prop where
  host : ∀ host ∈ address.host, '?' ∉ host.toList ∧ '[' ∉ host.toList ∧ ']' ∉ host.toList
  path : ∀ path ∈ address.path,
    '?' ∉ path.toList ∧ ∀ c ∈ path.toList.getLast?, Text.isBlank c = false

/-- The addresses of the standard streams, of a host and a port, and of a path. -/
inductive Complete : Address → Prop
  | stdio (options : Entries (List String)) : Complete { kind := .stdio, options }
  | tcp {kind : TransportKind} (hkind : kind.isTcp = true) {host : String} (hne : host ≠ "")
      (port : UInt16) (options : Entries (List String)) :
      Complete { kind, host := some host, port := some port, options }
  | unix {path : String} (hne : path ≠ "") (options : Entries (List String)) :
      Complete { kind := .unix, path := some path, options }

/-- A valid address with its own fields only has all of them. -/
theorem OwnFields.complete {address : Address} (hown : address.OwnFields)
    (hvalid : address.validate = .ok ()) : Complete address := by
  obtain ⟨kind, host, port, path, options⟩ := address
  cases hkind : kind.isTcp with
  | true =>
    have hunix : kind ≠ .unix := by
      rintro rfl
      cases hkind
    obtain rfl := hown.path hunix
    rw [validate_of_isTcp hkind] at hvalid
    split at hvalid
    · cases hvalid
    · rename_i hhost
      obtain ⟨host, rfl, hne⟩ := isBare_eq_false_iff.1 (Bool.eq_false_iff.2 hhost)
      cases port with
      | none => cases hvalid
      | some port => exact .tcp hkind hne port options
  | false =>
    obtain ⟨rfl, rfl⟩ := hown.hostPort hkind
    cases kind with
    | stdio =>
      obtain rfl := hown.path nofun
      exact .stdio options
    | unix =>
      simp only [validate] at hvalid
      split at hvalid
      · cases hvalid
      · rename_i hpath
        obtain ⟨path, rfl, hne⟩ := isBare_eq_false_iff.1 (Bool.eq_false_iff.2 hpath)
        exact .unix hne options
    | _ => cases hkind

/-! ## The text of each kind -/

theorem toList_ne_nil {s : String} (h : s ≠ "") : s.toList ≠ [] :=
  fun hnil => h (String.toList_eq_nil_iff.1 hnil)

theorem hostText_bracketed {host : String} (hopen : '[' ∉ host.toList) (hclose : ']' ∉ host.toList) :
    HostText host.toList (bracketed host).toList := by
  unfold bracketed
  split
  · have htext : ("[" ++ host ++ "]").toList = '[' :: (host.toList ++ [']']) := by
      simp only [String.toList_append]
      rfl
    rw [htext]
    exact .bracketed hclose
  · rename_i hcolon
    exact .bare hcolon hopen

theorem display_tcp {kind : TransportKind} (hkind : kind.isTcp = true) (host : String)
    (port : UInt16) (options : Entries (List String)) :
    (display { kind, host := some host, port := some port, options }).toList =
      kind.name.toList ++
        ':' :: '/' :: '/' :: ((bracketed host).toList ++ ':' :: Text.decimal port.toNat) := by
  have hslashes : "://".toList = [':', '/', '/'] := by decide
  have hcolon : ":".toList = [':'] := by decide
  cases kind with
  | stdio => cases hkind
  | unix => cases hkind
  | _ => simp only [display, String.toList_append, Option.getD_some, String.toList_ofList, hslashes,
      hcolon, List.append_assoc, List.cons_append, List.nil_append]

theorem display_unix (path : String) (options : Entries (List String)) :
    (display { kind := .unix, path := some path, options }).toList =
      TransportKind.unix.name.toList ++ ':' :: '/' :: '/' :: path.toList := by
  have hscheme : "unix://".toList = TransportKind.unix.name.toList ++ [':', '/', '/'] := by decide
  simp only [display, String.toList_append, Option.getD_some, hscheme, List.append_assoc,
    List.cons_append, List.nil_append]

/-- **What stands behind the scheme reads back**, whatever the letter case of the scheme. -/
theorem Complete.exists_rest {address : Address} (h : Complete address)
    (hexpressible : address.Expressible) :
    ∃ rest, address.display.toList = address.kind.name.toList ++ ':' :: rest ∧
      ∀ scheme, Text.lower scheme = address.kind.name.toList →
        parse (scheme ++ ':' :: rest) = .ok { address with options := [] } := by
  cases h with
  | stdio options =>
    have hdisplay : "stdio:".toList = "stdio".toList ++ [':'] := by decide
    have hparts : ofParts .stdio ((Text.afterStart ['/', '/'] []).getD []) = .ok .stdio := rfl
    refine ⟨[], hdisplay, fun scheme hscheme => ?_⟩
    rw [parse_of_scheme hscheme List.not_mem_nil nofun hparts]
    rfl
  | @tcp kind hkind host hne port options =>
    obtain ⟨hquery, hopen, hclose⟩ := hexpressible.host host rfl
    have hdigits := Text.isNumeral_decimal port.toNat
    have hplace := PlaceText.both (toList_ne_nil hne) (hostText_bracketed hopen hclose) hdigits
    rw [String.ofList_toList] at hplace
    have hquery' : '?' ∉ (bracketed host).toList ++ ':' :: Text.decimal port.toNat := by
      have hhost : '?' ∉ (bracketed host).toList := by
        intro hmem
        unfold bracketed at hmem
        split at hmem
        · simp [String.toList_append, hquery] at hmem
        · exact hquery hmem
      have hport : '?' ∉ Text.decimal port.toNat := hdigits.not_mem (by decide) (by decide)
      simp [hhost, hport]
    have hlast : ∀ c ∈ ((bracketed host).toList ++ ':' :: Text.decimal port.toNat).getLast?,
        Text.isBlank c = false := by
      intro c hc
      rw [Option.mem_def, List.getLast?_append_cons] at hc
      rcases List.mem_cons.1 (List.mem_of_getLast? hc) with rfl | hc
      · decide
      · exact hdigits.isBlank_eq_false c hc
    refine ⟨_, display_tcp hkind host port options, fun scheme hscheme => ?_⟩
    rw [parse_of_placeText hscheme hkind hplace hquery' hlast, validate_of_isTcp hkind,
      isBare_eq_false_iff.2 ⟨host, rfl, hne⟩]
    rfl
  | @unix path hne options =>
    obtain ⟨hquery, hlast⟩ := hexpressible.path path rfl
    have hparts : ofParts .unix path.toList = .ok (.unix path) := by
      rw [ofParts, String.ofList_toList]
    refine ⟨_, display_unix path options, fun scheme hscheme => ?_⟩
    rw [parse_of_slashes hscheme hquery hlast hparts]
    simp only [Address.unix, validate, isBare_eq_false_iff.2 ⟨path, rfl, hne⟩]
    rfl

/-- **Canonical addresses read back.** A valid address without values in ignored fields, whose text
the syntax can express, is read from its canonical text without its options, and also where the
scheme is in another letter case and blanks stand around. -/
theorem parse_display {address : Address} (hvalid : address.validate = .ok ())
    (hown : address.OwnFields) (hexpressible : address.Expressible) :
    parse address.display.toList = .ok { address with options := [] } ∧
      ∃ tail, address.display.toList = address.kind.name.toList ++ tail ∧
        ∀ scheme before after, Text.lower scheme = address.kind.name.toList →
          (∀ c ∈ before, Text.isBlank c = true) → (∀ c ∈ after, Text.isBlank c = true) →
            parse (before ++ (scheme ++ tail) ++ after) = .ok { address with options := [] } := by
  obtain ⟨rest, hdisplay, hparse⟩ := (hown.complete hvalid).exists_rest hexpressible
  refine ⟨?_, ':' :: rest, hdisplay, ?_⟩
  · rw [hdisplay]
    exact hparse _ (lower_name address.kind)
  · intro scheme before after hscheme hbefore hafter
    rw [parse_append_blanks hbefore hafter]
    exact hparse scheme hscheme

/-- A host that begins like an address of its own, in brackets because of its colon. -/
theorem parse_display_tcp6 :
    let address : Address :=
      { kind := .tcp6, host := some "/tcp://h", port := some 65535, options := [("k", ["v"])] }
    address.validate = .ok () ∧ address.OwnFields ∧ address.Expressible ∧
      parse "tcp6://[/tcp://h]:65535".toList = .ok (.tcp .tcp6 "/tcp://h" 65535) ∧
      parse "\tTCP6://[/tcp://h]:65535 ".toList = .ok (.tcp .tcp6 "/tcp://h" 65535) := by
  intro address
  have hvalid : address.validate = .ok () := by decide
  have hown : address.OwnFields := ⟨nofun, fun _ => rfl⟩
  have hexpressible : address.Expressible := by
    refine ⟨fun host hhost => ?_, nofun⟩
    obtain rfl : "/tcp://h" = host := Option.some.inj hhost
    decide
  obtain ⟨hparse, tail, htail, hcased⟩ := parse_display hvalid hown hexpressible
  have hdisplay : address.display.toList = "tcp6".toList ++ "://[/tcp://h]:65535".toList := by decide
  obtain rfl : "://[/tcp://h]:65535".toList = tail :=
    List.append_cancel_left (hdisplay.symm.trans htail)
  refine ⟨hvalid, hown, hexpressible, ?_, ?_⟩
  · have htext : address.display.toList = "tcp6://[/tcp://h]:65535".toList := by decide
    rw [← htext]
    exact hparse
  · have htext : "\tTCP6://[/tcp://h]:65535 ".toList =
        ['\t'] ++ ("TCP6".toList ++ "://[/tcp://h]:65535".toList) ++ [' '] := by decide
    have htab : ∀ c ∈ ['\t'], Text.isBlank c = true := List.forall_mem_singleton.2 rfl
    have hspace : ∀ c ∈ [' '], Text.isBlank c = true := List.forall_mem_singleton.2 rfl
    rw [htext]
    exact hcased "TCP6".toList ['\t'] [' '] (by decide) htab hspace

end WordServer.Address
