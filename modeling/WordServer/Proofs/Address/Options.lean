import Mathlib.Data.List.Induction
import WordServer.Proofs.Address.Parser
import WordServer.Proofs.Entries

/-!
# The options of an address

Behind the first question mark of an address stand its options. They make a multimap: a key has the
values that its options give, in their order (`lookup_gather`). What stands before the question mark
is read and checked without a look at them (`ofBody_eq`, `validate_withOptions`), so they change
nothing else of the address, nor whether there is one (`parse_with_query`).
-/

namespace WordServer

/-- The same fault, found in another text. -/
def TransportFault.about (text : String) : TransportFault → TransportFault
  | .invalid _ message => .invalid text message
  | fault => fault

namespace Address

/-! ## Pieces -/

/-- The options in a text: what stands between ampersands, where that is anything. -/
def pieces (query : List Char) : List (List Char) :=
  (query.splitOn '&').filter (· ≠ [])

/-- What stands before the first equals sign of an option. -/
def keyOf (piece : List Char) : String :=
  String.ofList (piece.takeWhile (· ≠ '='))

/-- What stands behind the first equals sign of an option. -/
def valueOf (piece : List Char) : String :=
  String.ofList ((piece.dropWhile (· ≠ '=')).drop 1)

/-- The values that the options in a text give for a key, in order. -/
def valuesOf (key : String) (query : List Char) : List String :=
  ((pieces query).filter (keyOf · = key)).map valueOf

theorem optionOf_eq (piece : List Char) : optionOf piece = (keyOf piece, valueOf piece) := by
  have hall : ∀ {cs : List Char}, '=' ∉ cs → ∀ c ∈ cs, decide (c ≠ '=') = true := by
    intro cs hnot c hc
    exact decide_eq_true fun heq => hnot (heq ▸ hc)
  unfold optionOf keyOf valueOf
  cases hcut : Text.cutFirst '=' piece with
  | none =>
    have hnot := Text.cutFirst_eq_none_iff.1 hcut
    have htake : (piece ++ []).takeWhile (· ≠ '=') = piece ++ [] :=
      List.takeWhile_append_of_pos (hall hnot)
    have hdrop : (piece ++ []).dropWhile (· ≠ '=') = [] := List.dropWhile_append_of_pos (hall hnot)
    rw [List.append_nil] at htake hdrop
    rw [htake, hdrop]
    rfl
  | some parts =>
    obtain ⟨rfl, hnot⟩ := Text.cutFirst_eq_some hcut
    rw [List.takeWhile_append_of_pos (hall hnot), List.dropWhile_append_of_pos (hall hnot)]
    simp

theorem optionsOf_eq (query : List Char) :
    optionsOf query = (pieces query).map fun piece => (keyOf piece, valueOf piece) := by
  have hkeep : (fun piece : List Char => !piece.isEmpty) = fun piece => decide (piece ≠ []) := by
    funext piece
    cases piece <;> rfl
  rw [optionsOf, pieces, hkeep, funext optionOf_eq]

/-! ## The multimap -/

def addValue (options : Entries (List String)) (pair : String × String) : Entries (List String) :=
  Entries.put pair.1 ((Entries.lookup pair.1 options).getD [] ++ [pair.2]) options

/-- The multimap of pairs. -/
def gather (pairs : List (String × String)) : Entries (List String) :=
  pairs.foldl addValue []

theorem gather_concat (pairs : List (String × String)) (pair : String × String) :
    gather (pairs ++ [pair]) = addValue (gather pairs) pair := by
  unfold gather
  rw [List.foldl_append]
  rfl

theorem ordered_gather (pairs : List (String × String)) : Entries.Ordered (gather pairs) := by
  induction pairs using List.reverseRecOn with
  | nil => exact List.Pairwise.nil
  | append_singleton pairs pair ih =>
    rw [gather_concat]
    exact ih.put pair.1 _

/-- **A key has the values of its pairs, in order**, and is not there without one. -/
theorem lookup_gather (pairs : List (String × String)) (key : String) :
    Entries.lookup key (gather pairs) =
      let values := (pairs.filter (·.1 = key)).map Prod.snd
      if values = [] then none else some values := by
  -- from the back, because a value goes behind those that its key has
  induction pairs using List.reverseRecOn with
  | nil => rfl
  | append_singleton pairs pair ih =>
    rw [gather_concat, addValue, Entries.lookup_put, List.filter_append]
    by_cases hkey : pair.1 = key
    · rw [if_pos hkey, hkey, ih]
      by_cases hnone : (pairs.filter (·.1 = key)).map Prod.snd = []
      · simp [hkey, List.map_eq_nil_iff.1 hnone]
      · simp only [if_neg hnone]
        simp [hkey]
    · have hlast : [pair].filter (·.1 = key) = [] := by
        simp [hkey]
      rw [if_neg hkey, ih, hlast, List.append_nil]

theorem lookup_gather_optionsOf (query : List Char) (key : String) :
    Entries.lookup key (gather (optionsOf query)) =
      if valuesOf key query = [] then none else some (valuesOf key query) := by
  have hvalues : ((optionsOf query).filter (·.1 = key)).map Prod.snd = valuesOf key query := by
    rw [optionsOf_eq, List.filter_map, List.map_map]
    rfl
  rw [lookup_gather, hvalues]

theorem option?_eq_head? {address : Address} {query : List Char}
    (h : address.options = gather (optionsOf query)) (key : String) :
    address.option? key = (valuesOf key query).head? := by
  rw [option?, h, lookup_gather_optionsOf]
  split
  · rename_i hnone
    rw [hnone]
    rfl
  · rfl

/-! ## Options and the rest of an address -/

theorem foldl_addOption (address : Address) (pairs : List (String × String)) :
    pairs.foldl (fun address (key, value) => address.addOption key value) address =
      { address with options := pairs.foldl addValue address.options } := by
  induction pairs generalizing address with
  | nil => rfl
  | cons pair pairs ih =>
    rw [List.foldl_cons, ih]
    rfl

theorem options_of_ofParts {kind : TransportKind} {rest : List Char} {address : Address}
    (h : ofParts kind rest = .ok address) : address.options = [] := by
  cases kind with
  | stdio =>
    simp only [ofParts] at h
    split at h
    · cases h
      rfl
    · cases h
  | unix =>
    cases h
    rfl
  | _ =>
    simp only [ofParts] at h
    cases hsplit : splitHostPort rest with
    | error message =>
      rw [hsplit] at h
      cases h
    | ok parts =>
      rw [hsplit] at h
      cases h
      rfl

/-- **The text before the options is read without them.** -/
theorem ofBody_eq (body : List Char) (pairs : List (String × String)) :
    ofBody body pairs =
      (ofParts (splitScheme body).1 (splitScheme body).2).map
        fun address => { address with options := gather pairs } := by
  unfold ofBody
  cases hparts : ofParts (splitScheme body).1 (splitScheme body).2 with
  | error message =>
    simp only [hparts]
    rfl
  | ok address =>
    simp only [hparts, foldl_addOption, bind, Except.bind, options_of_ofParts hparts]
    rfl

theorem validate_withOptions (address : Address) (options : Entries (List String)) :
    validate { address with options } = address.validate := by
  obtain ⟨kind, host, port, path, others⟩ := address
  cases kind <;> rfl

theorem about_of_validate {address : Address} {fault : TransportFault}
    (h : address.validate = .error fault) (text : String) : fault.about text = fault := by
  unfold validate at h
  repeat' split at h
  all_goals
    cases h
    try rfl

/-- What is found of a text that is an address before its first question mark and pairs behind
it. -/
def assembled (text body : List Char) (pairs : List (String × String)) :
    Except TransportFault Address := do
  let address ← (ofBody body pairs).mapError (.invalid (String.ofList text))
  address.validate
  return address

/-- Other pairs change the options, and the text only where it is named. -/
theorem assembled_eq (text other body : List Char) (pairs : List (String × String)) :
    assembled text body pairs =
      ((assembled other body []).map fun address =>
        { address with options := gather pairs }).mapError (.about (String.ofList text)) := by
  unfold assembled
  rw [ofBody_eq, ofBody_eq]
  cases ofParts (splitScheme body).1 (splitScheme body).2 with
  | error message => rfl
  | ok address =>
    simp only [Except.map, Except.mapError, bind, Except.bind, validate_withOptions]
    cases hvalid : address.validate with
    | error fault => simp only [about_of_validate hvalid]
    | ok _ => rfl

section Query

variable {body : List Char} (hne : body ≠ []) (hquery : '?' ∉ body)
  (hhead : ∀ c ∈ body.head?, Text.isBlank c = false)

include hne hquery hhead

theorem parse_of_body (hlast : ∀ c ∈ body.getLast?, Text.isBlank c = false) :
    parse body = assembled body body [] := by
  have hfull : body.isEmpty = false := by simpa using hne
  rw [parse, Text.trim_eq_self hhead hlast, Text.cutFirst_eq_none_iff.2 hquery]
  simp only [hfull, Bool.false_eq_true, if_false]
  rfl

theorem parse_of_query (query : List Char) :
    parse (body ++ '?' :: query) =
      assembled (body ++ '?' :: Text.dropEndWhile Text.isBlank query) body
        (optionsOf (Text.dropEndWhile Text.isBlank query)) := by
  have htrim : Text.trim (body ++ '?' :: query) =
      body ++ '?' :: Text.dropEndWhile Text.isBlank query := by
    have hstart : ∀ c ∈ (body ++ '?' :: query).head?, Text.isBlank c = false := by
      rwa [List.head?_append_of_ne_nil _ hne]
    unfold Text.trim Text.dropEdgesWhile
    rw [Text.dropWhile_eq_self_of_head hstart]
    exact Text.dropEndWhile_append_cons (by decide) body query
  have hfull : (body ++ '?' :: Text.dropEndWhile Text.isBlank query).isEmpty = false := by
    simp
  rw [parse, htrim, Text.cutFirst_append hquery]
  simp only [hfull, Bool.false_eq_true, if_false]
  rfl

end Query

/-- **Options change nothing else of an address, and none is lost.** A text that holds no question
mark and has no blank at its edges is an address exactly if it is one with a question mark and a
query behind it, of the same kind and with the same host, port and path; otherwise both are refused
for the same reason. In the options of the address each key has the values that the query without
the blanks at its end gives for it, in order and as often as it does, and no other key is there; the
value of an option is the first of them. -/
theorem parse_with_query {body : List Char} (hne : body ≠ []) (hquery : '?' ∉ body)
    (hhead : ∀ c ∈ body.head?, Text.isBlank c = false)
    (hlast : ∀ c ∈ body.getLast?, Text.isBlank c = false) (query : List Char) :
    let text := Text.dropEndWhile Text.isBlank query
    (∀ address, parse body = .ok address →
      ∃ full, parse (body ++ '?' :: query) = .ok full ∧
        full.kind = address.kind ∧ full.host = address.host ∧ full.port = address.port ∧
        full.path = address.path ∧ Entries.Ordered full.options ∧
        ∀ key,
          Entries.lookup key full.options =
            (if valuesOf key text = [] then none else some (valuesOf key text)) ∧
          full.option? key = (valuesOf key text).head?) ∧
    ∀ fault, parse body = .error fault →
      parse (body ++ '?' :: query) =
        .error (fault.about (String.ofList (body ++ '?' :: text))) := by
  intro text
  have hfull := parse_of_query hne hquery hhead query
  rw [assembled_eq _ body, ← parse_of_body hne hquery hhead hlast] at hfull
  constructor
  · intro address haddress
    rw [haddress] at hfull
    refine ⟨_, hfull, rfl, rfl, rfl, rfl, ordered_gather _, fun key => ?_⟩
    exact ⟨lookup_gather_optionsOf text key, option?_eq_head? rfl key⟩
  · intro fault hfault
    rw [hfault] at hfull
    exact hfull

/-- Values that hold the separators, an option without a value, one without a key, and an empty
piece. -/
theorem parse_with_query_tags :
    let body := "tcp6://[::1]:9000".toList
    let query := "tag=a=b&&tag&=x&tag=?\t ".toList
    body ≠ [] ∧ '?' ∉ body ∧ (∀ c ∈ body.head?, Text.isBlank c = false) ∧
      (∀ c ∈ body.getLast?, Text.isBlank c = false) ∧
      ∃ full, parse (body ++ '?' :: query) = .ok full ∧ full.kind = .tcp6 ∧
        full.host = some "::1" ∧ full.port = some 9000 ∧ full.path = none ∧
        Entries.lookup "tag" full.options = some ["a=b", "", "?"] ∧
        full.option? "" = some "x" ∧ full.option? "host" = none := by
  intro body query
  have hne : body ≠ [] := by decide
  have hquery : '?' ∉ body := by decide
  have hhead : ∀ c ∈ body.head?, Text.isBlank c = false := by
    intro c hc
    obtain rfl : 't' = c := Option.some.inj hc
    decide
  have hlast : ∀ c ∈ body.getLast?, Text.isBlank c = false := by
    intro c hc
    obtain rfl : '0' = c := Option.some.inj hc
    decide
  have hparse : parse body = .ok (.tcp .tcp6 "::1" 9000) := by decide +kernel
  obtain ⟨full, hfull, hkind, hhost, hport, hpath, -, hoptions⟩ :=
    (parse_with_query hne hquery hhead hlast query).1 _ hparse
  have htags : valuesOf "tag" (Text.dropEndWhile Text.isBlank query) = ["a=b", "", "?"] := by
    decide +kernel
  have hempty : valuesOf "" (Text.dropEndWhile Text.isBlank query) = ["x"] := by decide +kernel
  have hnone : valuesOf "host" (Text.dropEndWhile Text.isBlank query) = [] := by decide +kernel
  refine ⟨hne, hquery, hhead, hlast, full, hfull, hkind, hhost, hport, hpath, ?_, ?_, ?_⟩
  · rw [(hoptions "tag").1, htags]
    rfl
  · rw [(hoptions "").2, hempty]
    rfl
  · rw [(hoptions "host").2, hnone]
    rfl

end Address

end WordServer
