import WordServer.Proofs.Text.Split
import WordServer.Wire.MediaType

/-!
# Normal media types

Of a header value only its pieces count, each in lower case and without the blanks at its edges
(`ofText_eq`), so neither letter case nor outer blanks of the value matter. `Chooses` says which
charset the parameters choose: the first that is not empty. What comes of it is `Normal`: not empty,
in lower case, and without what the syntax has another use for. So a media type is read back from its
essence and its charset, unless the charset has blanks at its edges (`ofText_of_normal`); that is
possible, because quotes are removed after blanks.
-/

namespace WordServer.Wire.MediaType

open Text (trim lower dropEdgesWhile)

/-! ## Pieces -/

/-- A piece of a header value in lower case, without the blanks at its edges. -/
def tidy (piece : List Char) : List Char :=
  lower (trim piece)

/-- The media type of tidy pieces: the essence, and behind it the parameters. -/
def ofTidy : List (List Char) → MediaType
  | [] => default
  | first :: parameters =>
    { essence := if first.isEmpty then defaultEssence else String.ofList first
      charset := String.ofList (canonicalCharset (firstCharset parameters)) }

theorem trim_tidy (piece : List Char) : trim (tidy piece) = tidy piece := by
  rw [tidy, Text.trim_lower, Text.trim_trim]

theorem firstCharset_map_trim (parameters : List (List Char)) :
    firstCharset (parameters.map trim) = firstCharset parameters := by
  have hsame : charsetOf? ∘ trim = charsetOf? := by
    funext parameter
    simp only [Function.comp_apply, charsetOf?, Text.trim_trim]
  rw [firstCharset, List.filterMap_map, hsame, firstCharset]

/-- **A media type depends on the tidy pieces.** -/
theorem ofText_eq (value : List Char) : ofText value = ofTidy ((value.splitOn ';').map tidy) := by
  have hpieces : ((lower (trim value)).splitOn ';').map trim = (value.splitOn ';').map tidy := by
    rw [← Text.trim_lower, Text.map_trim_splitOn (by decide), Text.splitOn_lower (by decide), List.map_map]
    exact List.map_congr_left fun piece _ => Text.trim_lower piece
  rw [← hpieces, ofText]
  split
  · rename_i hempty
    rw [List.isEmpty_iff.1 hempty]
    rfl
  · rcases hsplit : (lower (trim value)).splitOn ';' with _ | ⟨first, parameters⟩
    · rfl
    · simp only [List.map_cons, ofTidy, firstCharset_map_trim]

/-! ## The charset that is chosen -/

abbrev isQuote (c : Char) : Bool := c == '"'

/-- A parameter names a charset, in any letter case, with blanks at its edges, and with blanks and
then quotes around the name. -/
def NamesCharset (parameter value : List Char) : Prop :=
  ∃ key rest, trim parameter = key ++ '=' :: rest ∧ lower key = "charset".toList ∧
    value = lower (dropEdgesWhile isQuote (trim rest))

/-- The charset that parameters choose: the first that is named and not empty, where one name stands
for another, or the default. -/
inductive Chooses : List (List Char) → String → Prop
  | named {before after : List (List Char)} {parameter value : List Char}
      (hnames : NamesCharset parameter value) (hne : value ≠ [])
      (hbefore : ∀ other ∈ before, ∀ value, NamesCharset other value → value = []) :
      Chooses (before ++ parameter :: after)
        (if value = "utf8".toList then "utf-8" else String.ofList value)
  | unnamed {parameters : List (List Char)}
      (hnone : ∀ other ∈ parameters, ∀ value, NamesCharset other value → value = []) :
      Chooses parameters "utf-8"

theorem charsetOf?_eq_some_iff {parameter value : List Char} :
    charsetOf? parameter = some value ↔
      ∃ rest, trim parameter = "charset=".toList ++ rest ∧
        value = dropEdgesWhile isQuote (trim rest) := by
  unfold charsetOf?
  rw [Option.map_eq_some_iff]
  constructor
  · rintro ⟨rest, hrest, rfl⟩
    exact ⟨rest, Text.afterStart_eq_some_iff.1 hrest, rfl⟩
  · rintro ⟨rest, hrest, rfl⟩
    exact ⟨rest, Text.afterStart_eq_some_iff.2 hrest, rfl⟩

theorem isQuote_toLower (c : Char) : isQuote c.toLower = isQuote c := by
  have hquote : c.toLower = '"' ↔ c = '"' := Text.toLower_eq_iff (by decide)
  rw [Bool.eq_iff_iff, beq_iff_eq, beq_iff_eq, hquote]

/-- The value that is read from a tidy parameter is the one that the parameter names. -/
theorem charsetOf?_tidy_iff {parameter value : List Char} :
    charsetOf? (tidy parameter) = some value ↔ NamesCharset parameter value := by
  have hvalue : ∀ rest, dropEdgesWhile isQuote (trim (lower rest)) =
      lower (dropEdgesWhile isQuote (trim rest)) := by
    intro rest
    rw [Text.trim_lower, Text.dropEdgesWhile_lower isQuote_toLower]
  rw [charsetOf?_eq_some_iff, trim_tidy]
  constructor
  · rintro ⟨rest, hparameter, rfl⟩
    obtain ⟨start, behind, htrim, hstart, rfl⟩ := List.map_eq_append_iff.1 hparameter
    obtain ⟨key, sign, rfl, hkey, hsign⟩ :=
      List.map_eq_append_iff.1 (hstart.trans (rfl : _ = "charset".toList ++ ['=']))
    obtain ⟨c, none, rfl, hc, hnone⟩ := List.map_eq_cons_iff.1 hsign
    obtain rfl : c = '=' := (Text.toLower_eq_iff (by decide)).1 hc
    obtain rfl : none = [] := List.map_eq_nil_iff.1 hnone
    refine ⟨key, behind, ?_, hkey, hvalue behind⟩
    rw [htrim, List.append_assoc]
    rfl
  · rintro ⟨key, rest, htrim, hkey, rfl⟩
    refine ⟨lower rest, ?_, (hvalue rest).symm⟩
    rw [tidy, htrim, lower, List.map_append, List.map_cons]
    rw [lower] at hkey
    rw [hkey]
    rfl

theorem Chooses.cons {parameter : List Char} {parameters : List (List Char)} {charset : String}
    (h : Chooses parameters charset) (hempty : ∀ value, NamesCharset parameter value → value = []) :
    Chooses (parameter :: parameters) charset := by
  cases h with
  | @named before after other value hnames hne hbefore =>
    have hskipped := List.forall_mem_cons.2 ⟨hempty, hbefore⟩
    exact @Chooses.named (parameter :: before) after other value hnames hne hskipped
  | unnamed hnone => exact .unnamed (List.forall_mem_cons.2 ⟨hempty, hnone⟩)

theorem firstCharset_cons (parameter : List Char) (parameters : List (List Char)) :
    firstCharset (parameter :: parameters) =
      match charsetOf? parameter with
      | some (c :: value) => c :: value
      | _ => firstCharset parameters := by
  unfold firstCharset
  cases hread : charsetOf? parameter with
  | none => rw [List.filterMap_cons_none hread]
  | some value =>
    rw [List.filterMap_cons_some hread]
    cases value <;> rfl

theorem ofList_canonicalCharset (value : List Char) :
    String.ofList (canonicalCharset value) =
      if value = "utf8".toList then "utf-8" else String.ofList value := by
  unfold canonicalCharset
  split
  · rfl
  · rfl

/-- **The first parameter that names a charset is chosen**, if the name is not empty. -/
theorem chooses_firstCharset (parameters : List (List Char)) :
    Chooses parameters (String.ofList (canonicalCharset (firstCharset (parameters.map tidy)))) := by
  induction parameters with
  | nil => exact .unnamed (List.forall_mem_nil _)
  | cons parameter parameters ih =>
    rw [List.map_cons, firstCharset_cons]
    cases hread : charsetOf? (tidy parameter) with
    | none =>
      refine ih.cons fun value hnames => ?_
      rw [charsetOf?_tidy_iff.2 hnames] at hread
      cases hread
    | some value =>
      have hnamed := charsetOf?_tidy_iff.1 hread
      cases value with
      | nil =>
        refine ih.cons fun value hnames => ?_
        rw [charsetOf?_tidy_iff.2 hnames] at hread
        exact Option.some.inj hread
      | cons c value =>
        have hchosen := @Chooses.named [] parameters parameter (c :: value) hnamed
          (List.cons_ne_nil c value) (List.forall_mem_nil _)
        rwa [← ofList_canonicalCharset] at hchosen

/-! ## Normal media types -/

/-- A text that can stand in a header value as one piece, in lower case. -/
structure Plain (text : List Char) : Prop where
  nonempty : text ≠ []
  noSeparator : ';' ∉ text
  noCapital : ∀ c ∈ text, c.isUpper = false

/-- A media type in which nothing is left to be removed or replaced. -/
structure Normal (type : MediaType) : Prop where
  essence : Plain type.essence.toList
  charset : Plain type.charset.toList
  trimmed : trim type.essence.toList = type.essence.toList
  unquoted : dropEdgesWhile isQuote type.charset.toList = type.charset.toList
  noAlias : type.charset.toList ≠ "utf8".toList

theorem Plain.of_sublist {text other : List Char} (h : Plain text) (hsub : List.Sublist other text)
    (hne : other ≠ []) : Plain other :=
  ⟨hne, fun hmem => h.noSeparator (hsub.mem hmem), fun c hc => h.noCapital c (hsub.mem hc)⟩

theorem plain_tidy {piece : List Char} (hseparator : ';' ∉ piece) (hne : tidy piece ≠ []) :
    Plain (tidy piece) := by
  refine ⟨hne, fun hmem => ?_, fun c hc => Text.isUpper_of_mem_lower hc⟩
  have htrim : ';' ∈ trim piece := (Text.mem_lower_iff (by decide)).1 hmem
  exact hseparator ((Text.dropEdgesWhile_sublist Text.isBlank piece).mem htrim)

theorem plain_of_all {text : List Char} (hne : text ≠ [])
    (h : text.all (fun c => c != ';' && !c.isUpper) = true) : Plain text := by
  have hall : ∀ c ∈ text, c ≠ ';' ∧ c.isUpper = false := by
    simpa using List.all_eq_true.1 h
  exact ⟨hne, fun hmem => (hall ';' hmem).1 rfl, fun c hc => (hall c hc).2⟩

theorem plain_defaultCharset : Plain defaultCharset.toList :=
  plain_of_all (by decide) (by decide)

theorem plain_charsetOf? {parameter value : List Char} (hseparator : ';' ∉ parameter)
    (h : charsetOf? (tidy parameter) = some value) (hne : value ≠ []) :
    Plain value ∧ dropEdgesWhile isQuote value = value := by
  obtain ⟨rest, hparameter, rfl⟩ := charsetOf?_eq_some_iff.1 h
  rw [trim_tidy] at hparameter
  have hrest : List.Sublist rest (tidy parameter) := by
    rw [hparameter]
    exact List.sublist_append_right _ rest
  have hvalue := (Text.dropEdgesWhile_sublist isQuote (trim rest)).trans
    ((Text.dropEdgesWhile_sublist Text.isBlank rest).trans hrest)
  have htidy : tidy parameter ≠ [] := by
    rw [hparameter]
    simp
  exact ⟨(plain_tidy hseparator htidy).of_sublist hvalue hne, Text.dropEdgesWhile_idem isQuote _⟩

theorem plain_firstCharset {parameters : List (List Char)}
    (hseparator : ∀ parameter ∈ parameters, ';' ∉ parameter) :
    Plain (firstCharset (parameters.map tidy)) ∧
      dropEdgesWhile isQuote (firstCharset (parameters.map tidy)) =
        firstCharset (parameters.map tidy) := by
  induction parameters with
  | nil => exact ⟨plain_defaultCharset, by decide⟩
  | cons parameter parameters ih =>
    obtain ⟨hfirst, hothers⟩ := List.forall_mem_cons.1 hseparator
    rw [List.map_cons, firstCharset_cons]
    split
    · rename_i c value hread
      exact plain_charsetOf? hfirst hread (List.cons_ne_nil c value)
    · exact ih hothers

theorem plain_essence {first : List Char} (hseparator : ';' ∉ first)
    (parameters : List (List Char)) :
    let essence := (ofTidy (tidy first :: parameters)).essence.toList
    Plain essence ∧ trim essence = essence := by
  simp only [ofTidy]
  split
  · exact ⟨plain_of_all (by decide) (by decide), by decide⟩
  · rename_i hne
    rw [String.toList_ofList, trim_tidy]
    exact ⟨plain_tidy hseparator fun hnil => hne (List.isEmpty_iff.2 hnil), rfl⟩

theorem plain_charset {parameters : List (List Char)}
    (hseparator : ∀ parameter ∈ parameters, ';' ∉ parameter) (first : List Char) :
    let charset := (ofTidy (first :: parameters.map tidy)).charset.toList
    Plain charset ∧ dropEdgesWhile isQuote charset = charset ∧ charset ≠ "utf8".toList := by
  simp only [ofTidy, canonicalCharset, String.toList_ofList]
  split
  · exact ⟨plain_defaultCharset, by decide, by decide⟩
  · rename_i hother
    obtain ⟨hplain, hunquoted⟩ := plain_firstCharset hseparator
    exact ⟨hplain, hunquoted, hother⟩

/-- **What is read from a header value is normal.** -/
theorem normal_ofText (value : List Char) : Normal (ofText value) := by
  have hseparator : ∀ piece ∈ value.splitOn ';', ';' ∉ piece :=
    fun _ => Text.not_mem_of_mem_splitOn
  rw [ofText_eq]
  rcases hsplit : value.splitOn ';' with _ | ⟨first, parameters⟩
  · exact absurd hsplit (List.splitOn_ne_nil ';' value)
  · rw [hsplit] at hseparator
    obtain ⟨hfirst, hothers⟩ := List.forall_mem_cons.1 hseparator
    obtain ⟨hessence, htrimmed⟩ := plain_essence hfirst (parameters.map tidy)
    obtain ⟨hcharset, hunquoted, hother⟩ := plain_charset hothers (tidy first)
    exact ⟨hessence, hcharset, htrimmed, hunquoted, hother⟩

theorem tidy_parameter {charset : List Char} (hplain : Plain charset)
    (htrim : trim charset = charset) :
    tidy (" charset=".toList ++ charset) = "charset=".toList ++ charset := by
  have hblank : ∀ c ∈ [' '], Text.isBlank c = true := List.forall_mem_singleton.2 rfl
  have hbare := Text.trim_append_blanks hblank (List.forall_mem_nil _) ("charset=".toList ++ charset)
  rw [List.append_nil] at hbare
  have hlast : ∀ c ∈ ("charset=".toList ++ charset).getLast?, Text.isBlank c = false := by
    intro c hc
    obtain ⟨last, hsome⟩ := Option.isSome_iff_exists.1 (List.getLast?_isSome.2 hplain.nonempty)
    rw [List.getLast?_append, hsome, Option.some_or] at hc
    obtain rfl : last = c := Option.some.inj hc
    rw [← htrim] at hsome
    exact Text.getLast?_dropEdgesWhile Text.isBlank charset last hsome
  have hhead : ∀ c ∈ ("charset=".toList ++ charset).head?, Text.isBlank c = false := by
    intro c hc
    obtain rfl : 'c' = c := Option.some.inj hc
    decide
  have hlower : lower ("charset=".toList ++ charset) = "charset=".toList ++ charset := by
    have hname : Plain "charset=".toList := plain_of_all (by decide) (by decide)
    refine Text.lower_eq_self fun c hc => ?_
    rcases List.mem_append.1 hc with hkey | hvalue
    · exact hname.noCapital c hkey
    · exact hplain.noCapital c hvalue
  have htidy : tidy ([' '] ++ ("charset=".toList ++ charset)) = "charset=".toList ++ charset := by
    rw [tidy, hbare, Text.trim_eq_self hhead hlast, hlower]
  exact htidy

/-- **A normal media type is read back** from its essence and its charset, if the charset has no
blanks at its edges. -/
theorem ofText_of_normal {type : MediaType} (h : type.Normal)
    (htrim : trim type.charset.toList = type.charset.toList) :
    ofText (type.essence.toList ++ "; charset=".toList ++ type.charset.toList) = type := by
  have hparameter : ';' ∉ " charset=".toList ++ type.charset.toList := by
    simp [h.charset.noSeparator]
  have hsplit : (type.essence.toList ++ "; charset=".toList ++ type.charset.toList).splitOn ';' =
      [type.essence.toList, " charset=".toList ++ type.charset.toList] := by
    rw [List.append_assoc]
    exact (List.splitOn_append_cons_self_of_not_mem h.essence.noSeparator _).trans
      (congrArg _ (List.splitOn_eq_singleton hparameter))
  have hessence : tidy type.essence.toList = type.essence.toList := by
    rw [tidy, h.trimmed, Text.lower_eq_self h.essence.noCapital]
  have hcharset : charsetOf? ("charset=".toList ++ type.charset.toList) =
      some type.charset.toList := by
    rw [← tidy_parameter h.charset htrim, charsetOf?_eq_some_iff, trim_tidy]
    refine ⟨type.charset.toList, tidy_parameter h.charset htrim, ?_⟩
    rw [htrim, h.unquoted]
  have hfirst : firstCharset ["charset=".toList ++ type.charset.toList] = type.charset.toList := by
    obtain ⟨c, value, hvalue⟩ := List.exists_cons_of_ne_nil h.charset.nonempty
    rw [firstCharset_cons, hcharset, hvalue]
  have hne : type.essence.toList.isEmpty = false := by
    simpa using h.essence.nonempty
  rw [ofText_eq, hsplit, List.map_cons, List.map_singleton, hessence,
    tidy_parameter h.charset htrim, ofTidy, hfirst, canonicalCharset, if_neg h.noAlias]
  simp only [hne, Bool.false_eq_true, if_false, String.ofList_toList]

/-- **Media types are normalised.** Essence and charset of a header value are not empty, hold no
semicolon and no capital letter, and the charset is not the other name of the default. Neither the
letter case of the value nor blanks around it make a difference. The charset is the one that the
parameters choose, and the essence is the first piece, or the default where that is blank. A charset
without blanks at its edges gives, behind the essence as the only parameter, the same media type
again. -/
theorem ofHeader_normal (value : String) :
    let type := ofHeader (some value)
    (type.essence ≠ "" ∧ ';' ∉ type.essence.toList ∧
      ∀ c ∈ type.essence.toList, c.isUpper = false) ∧
    (type.charset ≠ "" ∧ ';' ∉ type.charset.toList ∧
      (∀ c ∈ type.charset.toList, c.isUpper = false) ∧ type.charset ≠ "utf8") ∧
    (∀ other : String, lower other.toList = lower value.toList → ofHeader (some other) = type) ∧
    (∀ before after : String, (∀ c ∈ before.toList, Text.isBlank c = true) →
      (∀ c ∈ after.toList, Text.isBlank c = true) →
      ofHeader (some (before ++ value ++ after)) = type) ∧
    (∃ first parameters, value.toList.splitOn ';' = first :: parameters ∧
      type.essence = (if trim first = [] then defaultEssence else
        String.ofList (lower (trim first))) ∧
      Chooses parameters type.charset) ∧
    (trim type.charset.toList = type.charset.toList →
      ofHeader (some (type.essence ++ "; charset=" ++ type.charset)) = type) := by
  intro type
  have hnormal : type.Normal := normal_ofText value.toList
  have hne : ∀ text : String, text.toList ≠ [] → text ≠ "" := by
    rintro text hnonempty rfl
    exact hnonempty rfl
  refine ⟨⟨hne _ hnormal.essence.nonempty, hnormal.essence.noSeparator, hnormal.essence.noCapital⟩,
    ⟨hne _ hnormal.charset.nonempty, hnormal.charset.noSeparator, hnormal.charset.noCapital, ?_⟩,
    ?_, ?_, ?_, ?_⟩
  · intro halias
    exact hnormal.noAlias (congrArg String.toList halias)
  · intro other hother
    have htext : lower (trim other.toList) = lower (trim value.toList) := by
      rw [← Text.trim_lower, hother, Text.trim_lower]
    simp only [type, ofHeader, ofText, htext]
  · intro before after hbefore hafter
    have htext : trim (before ++ value ++ after).toList = trim value.toList := by
      rw [String.toList_append, String.toList_append, Text.trim_append_blanks hbefore hafter]
    simp only [type, ofHeader, ofText, htext]
  · have htype : type = ofTidy ((value.toList.splitOn ';').map tidy) := ofText_eq value.toList
    rcases hsplit : value.toList.splitOn ';' with _ | ⟨first, parameters⟩
    · exact absurd hsplit (List.splitOn_ne_nil ';' value.toList)
    · rw [hsplit] at htype
      rw [htype]
      refine ⟨first, parameters, rfl, ?_, chooses_firstCharset parameters⟩
      simp only [List.map_cons, ofTidy, tidy, lower, List.isEmpty_map, List.isEmpty_iff]
  · intro htrim
    have hback := ofText_of_normal hnormal htrim
    rw [← String.toList_append, ← String.toList_append] at hback
    exact hback

/-- Blanks inside the quotes are part of the charset, and are lost where it stands without them. -/
example :
    (ofHeader (some "text; Charset=\" UTF8\"")).charset = " utf8" ∧
      (ofHeader (some "text; charset= utf8")).charset = "utf-8" := by decide

end WordServer.Wire.MediaType
