import WordServer.Proofs.Entries
import WordServer.Proofs.Json.Scalar

/-!
# Written values read back

What is written in either layout reads back (`read?_write`), for values without binary64 numbers
that nest no deeper than the reader goes. The two layouts are one writer with different gaps between
the tokens (`Spacing.spell`), and the reader passes over gaps, so there is one induction over the
value: `value_spell`, with `moreItems_spellItems` and `moreItems_spellMembers` for what stands
between brackets. The reader puts members in order of their names (`sorted`); a value that is in
order already is read as it is (`sorted_eq_self`).
-/

namespace WordServer.Json

/-! ## Values inside a value -/

mutual

/-- Whether a test holds of a value and of all values inside it. -/
def all (test : Json → Bool) : Json → Bool
  | .arr items => test (.arr items) && allItems test items
  | .obj members => test (.obj members) && allMembers test members
  | value => test value

def allItems (test : Json → Bool) : List Json → Bool
  | [] => true
  | item :: rest => item.all test && allItems test rest

def allMembers (test : Json → Bool) : List (String × Json) → Bool
  | [] => true
  | (_, value) :: rest => value.all test && allMembers test rest

end

mutual

/-- How deep arrays and objects nest. -/
def depth : Json → Nat
  | .arr items => depthItems items + 1
  | .obj members => depthMembers members + 1
  | _ => 0

def depthItems : List Json → Nat
  | [] => 0
  | item :: rest => max item.depth (depthItems rest)

def depthMembers : List (String × Json) → Nat
  | [] => 0
  | (_, value) :: rest => max value.depth (depthMembers rest)

end

mutual

/-- The value with the members of all its objects in order of their names. -/
def sorted : Json → Json
  | .arr items => .arr (sortedItems items)
  | .obj members => .object (sortedMembers members)
  | value => value

def sortedItems : List Json → List Json
  | [] => []
  | item :: rest => item.sorted :: sortedItems rest

def sortedMembers : List (String × Json) → List (String × Json)
  | [] => []
  | (name, value) :: rest => (name, value.sorted) :: sortedMembers rest

end

def isExactHere : Json → Bool
  | .float _ => false
  | .int n => decide (HasBits64 n)
  | _ => true

/-- Every number is an integer of 64 bits, signed or unsigned. -/
def isExact (value : Json) : Bool := value.all isExactHere

def inOrderHere : Json → Bool
  | .obj members => decide (Entries.Ordered members)
  | _ => true

/-- Every object has its members in order of their names. -/
def inOrder (value : Json) : Bool := value.all inOrderHere

theorem allItems_eq (test : Json → Bool) (items : List Json) :
    allItems test items = items.all (all test) := by
  induction items with
  | nil => rfl
  | cons item rest ih => rw [allItems, ih, List.all_cons]

theorem allMembers_eq (test : Json → Bool) (members : List (String × Json)) :
    allMembers test members = members.all fun member => member.2.all test := by
  induction members with
  | nil => rfl
  | cons member rest ih => rw [allMembers, ih, List.all_cons]

theorem isExact_int {n : Int} : (int n).isExact = true ↔ HasBits64 n := by
  simp [isExact, all, isExactHere]

theorem isExact_obj {members : List (String × Json)} :
    (obj members).isExact = true ↔ ∀ member ∈ members, member.2.isExact = true := by
  simp [isExact, all, isExactHere, allMembers_eq]

/-- The value that a name has is put in order by itself. -/
theorem lookup_sortedMembers (name : String) (members : List (String × Json)) :
    Entries.lookup name (sortedMembers members) = (Entries.lookup name members).map sorted := by
  induction members with
  | nil => rfl
  | cons member rest ih =>
    rw [sortedMembers, Entries.lookup, Entries.lookup, ih]
    split <;> rfl

theorem names_sortedMembers (members : List (String × Json)) :
    Entries.names (sortedMembers members) = Entries.names members := by
  induction members with
  | nil => rfl
  | cons member rest ih =>
    rw [sortedMembers, Entries.names, List.map_cons]
    exact congrArg (member.1 :: ·) ih

/-- In an object whose names differ, the members stay under their names. -/
theorem exists_sorted_obj {members : List (String × Json)} (h : (Entries.names members).Nodup) :
    ∃ entries : Entries Json, (obj members).sorted = .obj entries ∧
      ∀ name, Entries.lookup name entries = (Entries.lookup name members).map sorted := by
  refine ⟨Entries.ofList (sortedMembers members), rfl, ?_⟩
  intro name
  rw [Entries.lookup_ofList (by rwa [names_sortedMembers]), lookup_sortedMembers]

mutual

/-- A value whose objects are in order is not changed by putting them in order. -/
theorem sorted_eq_self : (value : Json) → value.inOrder = true → value.sorted = value
  | .null, _ | .bool _, _ | .int _, _ | .float _, _ | .str _, _ => rfl
  | .arr items, h => by
    have hitems : allItems inOrderHere items = true := by
      simpa [inOrder, all, inOrderHere] using h
    rw [sorted, sortedItems_eq_self items hitems]
  | .obj members, h => by
    have hparts : Entries.Ordered members ∧ allMembers inOrderHere members = true := by
      simpa [inOrder, all, inOrderHere] using h
    rw [sorted, sortedMembers_eq_self members hparts.2, object, Entries.ofList_eq_self hparts.1]

theorem sortedItems_eq_self : (items : List Json) → allItems inOrderHere items = true →
    sortedItems items = items
  | [], _ => rfl
  | item :: rest, h => by
    have hparts : item.inOrder = true ∧ allItems inOrderHere rest = true := by
      simpa [allItems, inOrder] using h
    rw [sortedItems, sorted_eq_self item hparts.1, sortedItems_eq_self rest hparts.2]

theorem sortedMembers_eq_self : (members : List (String × Json)) →
    allMembers inOrderHere members = true → sortedMembers members = members
  | [], _ => rfl
  | (name, value) :: rest, h => by
    have hparts : value.inOrder = true ∧ allMembers inOrderHere rest = true := by
      simpa [allMembers, inOrder] using h
    rw [sortedMembers, sorted_eq_self value hparts.1, sortedMembers_eq_self rest hparts.2]

end

/-! ## Layouts as gaps between tokens -/

/-- What stands before an item or a closing bracket at a level, and behind a colon. -/
structure Spacing where
  line : Nat → List Char
  colon : List Char
  isGap_line : ∀ level, ∀ c ∈ line level, isGap c = true
  isGap_colon : ∀ c ∈ colon, isGap c = true

namespace Spacing

/-- No gaps. -/
def tight : Spacing where
  line _ := []
  colon := []
  isGap_line := by simp
  isGap_colon := by simp

/-- A line for each item. -/
def lined : Spacing where
  line := newLine
  colon := [' ']
  isGap_line level c hc := by
    rcases List.mem_cons.1 hc with rfl | hblank
    · decide
    · rw [List.eq_of_mem_replicate hblank]
      decide
  isGap_colon c hc := by
    rw [List.mem_singleton.1 hc]
    decide

variable (spacing : Spacing)

mutual

/-- The text of a value that stands at a level. -/
def spell (level : Nat) : Json → List Char
  | .null => compact .null
  | .bool b => compact (.bool b)
  | .int n => compact (.int n)
  | .float x => compact (.float x)
  | .str s => compact (.str s)
  | .arr [] => compact (.arr [])
  | .arr (item :: rest) =>
    '[' :: (spacing.line (level + 1) ++ (spell (level + 1) item ++ spellItems level rest))
  | .obj [] => compact (.obj [])
  | .obj ((name, value) :: rest) =>
    '\x7b' :: (spacing.line (level + 1) ++ (quote name ++
      ':' :: (spacing.colon ++ (spell (level + 1) value ++ spellMembers level rest))))

/-- The items after the first, and the closing bracket. -/
def spellItems (level : Nat) : List Json → List Char
  | [] => spacing.line level ++ [']']
  | item :: rest =>
    ',' :: (spacing.line (level + 1) ++ (spell (level + 1) item ++ spellItems level rest))

/-- The members after the first, and the closing brace. -/
def spellMembers (level : Nat) : List (String × Json) → List Char
  | [] => spacing.line level ++ ['\x7d']
  | (name, value) :: rest =>
    ',' :: (spacing.line (level + 1) ++ (quote name ++
      ':' :: (spacing.colon ++ (spell (level + 1) value ++ spellMembers level rest))))

end

mutual

theorem spell_tight (level : Nat) : (value : Json) → tight.spell level value = value.compact
  | .null | .bool _ | .int _ | .float _ | .str _ | .arr [] | .obj [] => by simp only [spell]
  | .arr (item :: rest) => by
    rw [spell, compact, spell_tight (level + 1) item, spellItems_tight level rest]
    rfl
  | .obj ((name, value) :: rest) => by
    rw [spell, compact, spell_tight (level + 1) value, spellMembers_tight level rest]
    rfl

theorem spellItems_tight (level : Nat) : (items : List Json) →
    tight.spellItems level items = compactItems items
  | [] => rfl
  | item :: rest => by
    rw [spellItems, compactItems, spell_tight (level + 1) item, spellItems_tight level rest]
    rfl

theorem spellMembers_tight (level : Nat) : (members : List (String × Json)) →
    tight.spellMembers level members = compactMembers members
  | [] => rfl
  | (name, value) :: rest => by
    rw [spellMembers, compactMembers, spell_tight (level + 1) value, spellMembers_tight level rest]
    rfl

end

mutual

theorem spell_lined (level : Nat) : (value : Json) → lined.spell level value = value.indented level
  | .null | .bool _ | .int _ | .float _ | .str _ | .arr [] | .obj [] => by
    simp only [spell, indented]
  | .arr (item :: rest) => by
    rw [spell, indented, spell_lined (level + 1) item, spellItems_lined level rest]
    rfl
  | .obj ((name, value) :: rest) => by
    rw [spell, indented, spell_lined (level + 1) value, spellMembers_lined level rest]
    rfl

theorem spellItems_lined (level : Nat) : (items : List Json) →
    lined.spellItems level items = indentedItems level items
  | [] => rfl
  | item :: rest => by
    rw [spellItems, indentedItems, spell_lined (level + 1) item, spellItems_lined level rest]
    rfl

theorem spellMembers_lined (level : Nat) : (members : List (String × Json)) →
    lined.spellMembers level members = indentedMembers level members
  | [] => rfl
  | (name, value) :: rest => by
    rw [spellMembers, indentedMembers, spell_lined (level + 1) value, spellMembers_lined level rest]
    rfl

end

end Spacing

/-- The gaps of a layout. -/
def Layout.spacing : Layout → Spacing
  | .compact => .tight
  | .indented => .lined

theorem write_eq_spell (layout : Layout) (value : Json) :
    value.write layout = layout.spacing.spell 0 value := by
  cases layout with
  | compact => exact (Spacing.spell_tight 0 value).symm
  | indented => exact (Spacing.spell_lined 0 value).symm

/-! ## Tokens and gaps -/

/-- The text begins with a token, which is not `close`. -/
def Opens (close : Char) (text : List Char) : Prop :=
  ∃ c rest, text = c :: rest ∧ isGap c = false ∧ c ≠ close

theorem skipGap_append {gap : List Char} (hgap : ∀ c ∈ gap, isGap c = true) {c : Char}
    (hc : isGap c = false) (rest : List Char) : skipGap (gap ++ c :: rest) = c :: rest := by
  unfold skipGap
  rw [List.dropWhile_append_of_pos hgap, List.dropWhile_cons_of_neg (by simp [hc])]

theorem not_isDigit_of_isGap {c : Char} (h : isGap c = true) :
    c.isDigit = false ∧ c ≠ '.' ∧ c ≠ 'e' ∧ c ≠ 'E' := by
  simp only [isGap, Bool.or_eq_true, beq_iff_eq] at h
  rcases h with ((rfl | rfl) | rfl) | rfl <;> decide

theorem endsNumber_cons {c : Char} (hc : c.isDigit = false ∧ c ≠ '.' ∧ c ≠ 'e' ∧ c ≠ 'E')
    (rest : List Char) : EndsNumber (c :: rest) := by
  rintro d hd
  cases hd
  exact hc

/-- A number ends at a gap, or at a token that is no part of a number. -/
theorem endsNumber_append {gap : List Char} (hgap : ∀ c ∈ gap, isGap c = true) {c : Char}
    (hc : c.isDigit = false ∧ c ≠ '.' ∧ c ≠ 'e' ∧ c ≠ 'E') (rest : List Char) :
    EndsNumber (gap ++ c :: rest) := by
  cases gap with
  | nil => exact endsNumber_cons hc rest
  | cons g gap => exact endsNumber_cons (not_isDigit_of_isGap (hgap g List.mem_cons_self)) _

section Items

variable {α : Type} {item : Text.Reads α} {close : Char} {gap text tail rest : List Char} {x : α}
  {xs : List α} (hgap : ∀ c ∈ gap, isGap c = true)

include hgap

theorem moreItems_close (hclose : isGap close = false) {room : List Char} (hroom : 0 < room.length)
    (done : List α) (rest : List Char) :
    moreItems item close room done (gap ++ close :: rest) = some (done.reverse, rest) := by
  cases room with
  | nil => simp at hroom
  | cons _ room =>
    rw [moreItems, skipGap_append hgap hclose]
    simp

/-- One more item is read behind a comma, and the others in a room that is one smaller. -/
theorem moreItems_comma (hclose : close ≠ ',') (htext : Opens close text)
    (hitem : item text = some (x, tail)) {room : List Char} {done : List α}
    (hmore : moreItems item close room (x :: done) tail = some (xs, rest)) (r : Char) :
    moreItems item close (r :: room) done (',' :: (gap ++ text)) = some (xs, rest) := by
  obtain ⟨c, cs, rfl, hc, -⟩ := htext
  have hcomma : skipGap (',' :: (gap ++ c :: cs)) = ',' :: (gap ++ c :: cs) := rfl
  rw [moreItems, hcomma]
  simp [Ne.symm hclose, skipGap_append hgap hc, hitem, hmore]

/-- The first item is read, and the others in the room of the text behind it. -/
theorem items_first (htext : Opens close text) (hitem : item text = some (x, tail))
    (hmore : moreItems item close tail [x] tail = some (xs, rest)) :
    items item close (gap ++ text) = some (xs, rest) := by
  obtain ⟨c, cs, rfl, hc, hclose⟩ := htext
  rw [items, skipGap_append hgap hc]
  simp [hclose, hitem, hmore]

end Items

/-! ## Values -/

theorem opens_quote (name : String) (rest : List Char) : Opens '\x7d' (quote name ++ rest) :=
  ⟨_, _, rfl, by decide, by decide⟩

/-- A member reads back if its value does. -/
theorem memberOf_spelled {value : Text.Reads Json} (name : String) {gap text rest : List Char}
    (hgap : ∀ c ∈ gap, isGap c = true) {close : Char} (htext : Opens close text) {v : Json}
    (hvalue : value text = some (v, rest)) :
    memberOf value (quote name ++ ':' :: (gap ++ text)) = some ((name, v), rest) := by
  obtain ⟨c, cs, rfl, hc, -⟩ := htext
  have hname := stringRest_escaped name.toList [] (':' :: (gap ++ c :: cs))
  have hcolon : skipGap (':' :: (gap ++ c :: cs)) = ':' :: (gap ++ c :: cs) := rfl
  have hquote : quote name ++ ':' :: (gap ++ c :: cs) =
      '"' :: (name.toList.flatMap escapedChar ++ '"' :: ':' :: (gap ++ c :: cs)) := by
    simp [quote, quoteChars]
  rw [hquote, memberOf]
  simp [hname, hcolon, skipGap_append hgap hc, hvalue]

/-- A text that opens no bracket is read as a scalar at any depth. -/
theorem value_eq_scalar {cs : List Char} (hopen : '[' ∉ cs.head? ∧ '\x7b' ∉ cs.head?)
    (depth : Nat) : value depth cs = scalar cs := by
  cases depth with
  | zero => rfl
  | succ depth =>
    simp only [value]
    split
    · exact absurd rfl hopen.1
    · exact absurd rfl hopen.2
    · rfl

theorem value_null (depth : Nat) (rest : List Char) :
    value depth (compact .null ++ rest) = some (.null, rest) := by
  rw [value_eq_scalar (by simp [compact])]
  simp [compact, scalar, word]

theorem value_bool (depth : Nat) (b : Bool) (rest : List Char) :
    value depth (compact (.bool b) ++ rest) = some (.bool b, rest) := by
  cases b with
  | false =>
    rw [value_eq_scalar (by simp [compact])]
    simp [compact, scalar, word]
  | true =>
    rw [value_eq_scalar (by simp [compact])]
    simp [compact, scalar, word]

theorem value_str (depth : Nat) (s : String) (rest : List Char) :
    value depth (compact (.str s) ++ rest) = some (.str s, rest) := by
  have hread := stringRest_escaped s.toList [] rest
  have htext : compact (.str s) ++ rest = '"' :: (s.toList.flatMap escapedChar ++ '"' :: rest) := by
    simp [compact, quote, quoteChars]
  rw [htext, value_eq_scalar (by simp), scalar]
  simp [hread, Json.text]

/-- The first character of an integer is no other than a minus sign or a digit. -/
theorem exists_cons_signedDecimal (n : Int) :
    ∃ c cs, Text.signedDecimal n = c :: cs ∧ ∀ d : Char, d ≠ '-' → d.isDigit = false → c ≠ d := by
  cases n with
  | ofNat n =>
    obtain ⟨c, cs, htext, hdigit⟩ := Text.exists_cons_decimal n
    refine ⟨c, cs, htext, ?_⟩
    rintro d - hd rfl
    rw [hdigit] at hd
    cases hd
  | negSucc n => exact ⟨'-', Text.decimal (n + 1), rfl, fun d hminus _ => Ne.symm hminus⟩

theorem value_int (depth : Nat) {n : Int} (h : HasBits64 n) {rest : List Char}
    (hrest : EndsNumber rest) :
    value depth (compact (.int n) ++ rest) = some (.int n, rest) := by
  have hread := number_signedDecimal h hrest
  obtain ⟨c, cs, htext, hother⟩ := exists_cons_signedDecimal n
  have hopen : '[' ∉ (c :: cs ++ rest).head? ∧ '\x7b' ∉ (c :: cs ++ rest).head? := by
    simp [hother '[' (by decide) (by decide), hother '\x7b' (by decide) (by decide)]
  rw [compact, htext, value_eq_scalar hopen]
  rw [htext, List.cons_append] at hread
  rw [List.cons_append, scalar, if_neg (hother 'n' (by decide) (by decide)),
    if_neg (hother 't' (by decide) (by decide)), if_neg (hother 'f' (by decide) (by decide)),
    if_neg (hother '"' (by decide) (by decide)), hread]

section Spelled

variable (spacing : Spacing)

/-- The text of a value begins with a token, which does not close an array. -/
theorem opens_spell (level : Nat) (v : Json) (h : v.isExact = true) (rest : List Char) :
    Opens ']' (spacing.spell level v ++ rest) := by
  match v with
  | .null | .bool true | .bool false | .str _ | .arr [] | .arr (_ :: _) | .obj []
  | .obj ((_, _) :: _) => exact ⟨_, _, rfl, by decide, by decide⟩
  | .float _ => simp [isExact, all, isExactHere] at h
  | .int n =>
    obtain ⟨c, cs, htext, hother⟩ := exists_cons_signedDecimal n
    refine ⟨c, cs ++ rest, ?_, ?_, hother ']' (by decide) (by decide)⟩
    · rw [Spacing.spell, compact, htext, List.cons_append]
    · simp [isGap, hother ' ' (by decide) (by decide), hother '\n' (by decide) (by decide),
        hother '\t' (by decide) (by decide), hother '\r' (by decide) (by decide)]

theorem endsNumber_spellItems (level : Nat) (items : List Json) (rest : List Char) :
    EndsNumber (spacing.spellItems level items ++ rest) := by
  cases items with
  | nil =>
    rw [Spacing.spellItems, List.append_assoc]
    exact endsNumber_append (spacing.isGap_line level) (by decide) rest
  | cons item items => exact endsNumber_cons (by decide) _

theorem endsNumber_spellMembers (level : Nat) (members : List (String × Json)) (rest : List Char) :
    EndsNumber (spacing.spellMembers level members ++ rest) := by
  cases members with
  | nil =>
    rw [Spacing.spellMembers, List.append_assoc]
    exact endsNumber_append (spacing.isGap_line level) (by decide) rest
  | cons member members => exact endsNumber_cons (by decide) _

/-- There is more text than there are items, so the room that the reader starts with suffices. -/
theorem length_lt_spellItems (level : Nat) (items : List Json) (rest : List Char) :
    items.length < (spacing.spellItems level items ++ rest).length := by
  induction items with
  | nil =>
    simp only [Spacing.spellItems, List.length_nil, List.length_append, List.length_singleton]
    omega
  | cons item items ih =>
    simp only [Spacing.spellItems, List.length_cons, List.length_append] at ih ⊢
    omega

theorem length_lt_spellMembers (level : Nat) (members : List (String × Json)) (rest : List Char) :
    members.length < (spacing.spellMembers level members ++ rest).length := by
  induction members with
  | nil =>
    simp only [Spacing.spellMembers, List.length_nil, List.length_append, List.length_singleton]
    omega
  | cons member members ih =>
    simp only [Spacing.spellMembers, List.length_cons, List.length_append] at ih ⊢
    omega

mutual

/-- **A spelled value reads back** with its members in order, whatever follows that does not go on
with a number. -/
theorem value_spell (level : Nat) : (v : Json) → v.isExact = true → (depth : Nat) →
    v.depth ≤ depth → (rest : List Char) → EndsNumber rest →
    value depth (spacing.spell level v ++ rest) = some (v.sorted, rest)
  | .null, _, depth, _, rest, _ => value_null depth rest
  | .bool b, _, depth, _, rest, _ => value_bool depth b rest
  | .int n, hexact, depth, _, rest, hrest =>
    value_int depth (isExact_int.1 hexact) hrest
  | .float _, hexact, _, _, _, _ => by simp [isExact, all, isExactHere] at hexact
  | .str s, _, depth, _, rest, _ => value_str depth s rest
  | .arr [], _, depth, hdepth, rest, _ => by
    rw [Json.depth] at hdepth
    obtain ⟨depth, rfl⟩ := Nat.exists_eq_succ_of_ne_zero (n := depth) (by omega)
    rfl
  | .arr (item :: items), hexact, depth, hdepth, rest, _ => by
    have hparts : item.isExact = true ∧ allItems isExactHere items = true := by
      simpa [isExact, all, allItems, isExactHere] using hexact
    rw [Json.depth, depthItems] at hdepth
    obtain ⟨depth, rfl⟩ := Nat.exists_eq_succ_of_ne_zero (n := depth) (by omega)
    have hitem := value_spell (level + 1) item hparts.1 depth (by omega)
      (spacing.spellItems level items ++ rest) (endsNumber_spellItems spacing level items rest)
    have hmore := moreItems_spellItems level items hparts.2 depth (by omega)
      (spacing.spellItems level items ++ rest) (length_lt_spellItems spacing level items rest)
      [item.sorted] rest
    have hitems := items_first (spacing.isGap_line (level + 1))
      (opens_spell spacing (level + 1) item hparts.1 _) hitem hmore
    simp only [Spacing.spell, value, List.cons_append, List.append_assoc]
    rw [hitems]
    rfl
  | .obj [], _, depth, hdepth, rest, _ => by
    rw [Json.depth] at hdepth
    obtain ⟨depth, rfl⟩ := Nat.exists_eq_succ_of_ne_zero (n := depth) (by omega)
    rfl
  | .obj ((name, v) :: members), hexact, depth, hdepth, rest, _ => by
    have hparts : v.isExact = true ∧ allMembers isExactHere members = true := by
      simpa [isExact, all, allMembers, isExactHere] using hexact
    rw [Json.depth, depthMembers] at hdepth
    obtain ⟨depth, rfl⟩ := Nat.exists_eq_succ_of_ne_zero (n := depth) (by omega)
    have hvalue := value_spell (level + 1) v hparts.1 depth (by omega)
      (spacing.spellMembers level members ++ rest)
      (endsNumber_spellMembers spacing level members rest)
    have hmore := moreItems_spellMembers level members hparts.2 depth (by omega)
      (spacing.spellMembers level members ++ rest)
      (length_lt_spellMembers spacing level members rest)
      [(name, v.sorted)] rest
    have hmember := memberOf_spelled name spacing.isGap_colon
      (opens_spell spacing (level + 1) v hparts.1 _) hvalue
    have hitems := items_first (spacing.isGap_line (level + 1)) (opens_quote name _) hmember hmore
    simp only [Spacing.spell, value, List.cons_append, List.append_assoc]
    rw [hitems]
    rfl

theorem moreItems_spellItems (level : Nat) : (items : List Json) →
    allItems isExactHere items = true → (depth : Nat) → depthItems items ≤ depth →
    (room : List Char) → items.length < room.length → (done : List Json) → (rest : List Char) →
    moreItems (value depth) ']' room done (spacing.spellItems level items ++ rest) =
      some (done.reverse ++ sortedItems items, rest)
  | [], _, depth, _, room, hroom, done, rest => by
    rw [Spacing.spellItems, List.append_assoc, List.singleton_append,
      moreItems_close (spacing.isGap_line level) (by decide) hroom, sortedItems, List.append_nil]
  | item :: items, hexact, depth, hdepth, room, hroom, done, rest => by
    have hparts : item.isExact = true ∧ allItems isExactHere items = true := by
      simpa [isExact, allItems] using hexact
    rw [depthItems] at hdepth
    obtain ⟨r, room, rfl⟩ := List.exists_cons_of_length_pos (Nat.zero_lt_of_lt hroom)
    have hitem := value_spell (level + 1) item hparts.1 depth (by omega)
      (spacing.spellItems level items ++ rest) (endsNumber_spellItems spacing level items rest)
    have hmore := moreItems_spellItems level items hparts.2 depth (by omega) room
      (Nat.lt_of_succ_lt_succ hroom) (item.sorted :: done) rest
    have hnext := moreItems_comma (spacing.isGap_line (level + 1)) (by decide)
      (opens_spell spacing (level + 1) item hparts.1 _) hitem hmore r
    rw [Spacing.spellItems, sortedItems]
    simpa using hnext

theorem moreItems_spellMembers (level : Nat) : (members : List (String × Json)) →
    allMembers isExactHere members = true → (depth : Nat) → depthMembers members ≤ depth →
    (room : List Char) → members.length < room.length → (done : List (String × Json)) →
    (rest : List Char) →
    moreItems (memberOf (value depth)) '}' room done (spacing.spellMembers level members ++ rest) =
      some (done.reverse ++ sortedMembers members, rest)
  | [], _, depth, _, room, hroom, done, rest => by
    rw [Spacing.spellMembers, List.append_assoc, List.singleton_append,
      moreItems_close (spacing.isGap_line level) (by decide) hroom, sortedMembers, List.append_nil]
  | (name, v) :: members, hexact, depth, hdepth, room, hroom, done, rest => by
    have hparts : v.isExact = true ∧ allMembers isExactHere members = true := by
      simpa [isExact, allMembers] using hexact
    rw [depthMembers] at hdepth
    obtain ⟨r, room, rfl⟩ := List.exists_cons_of_length_pos (Nat.zero_lt_of_lt hroom)
    have hvalue := value_spell (level + 1) v hparts.1 depth (by omega)
      (spacing.spellMembers level members ++ rest)
      (endsNumber_spellMembers spacing level members rest)
    have hmore := moreItems_spellMembers level members hparts.2 depth (by omega) room
      (Nat.lt_of_succ_lt_succ hroom) ((name, v.sorted) :: done) rest
    have hmember := memberOf_spelled name spacing.isGap_colon
      (opens_spell spacing (level + 1) v hparts.1 _) hvalue
    have hnext := moreItems_comma (spacing.isGap_line (level + 1)) (by decide) (opens_quote name _)
      hmember hmore r
    rw [Spacing.spellMembers, sortedMembers]
    simpa using hnext

end

end Spelled

/-- **What is written reads back** in either layout: the value, with its members in order. -/
theorem read?_write (layout : Layout) {v : Json} (hexact : v.isExact = true)
    (hdepth : v.depth ≤ greatestDepth) : read? (v.write layout) = some v.sorted := by
  have hend : EndsNumber [] := by simp [EndsNumber]
  have hvalue := value_spell layout.spacing 0 v hexact greatestDepth hdepth [] hend
  obtain ⟨c, cs, htext, hc, -⟩ := opens_spell layout.spacing 0 v hexact []
  rw [List.append_nil] at hvalue htext
  have hskip : skipGap (c :: cs) = c :: cs := skipGap_append (List.forall_mem_nil _) hc cs
  rw [read?, write_eq_spell, htext, hskip, ← htext, hvalue]
  rfl

end WordServer.Json
