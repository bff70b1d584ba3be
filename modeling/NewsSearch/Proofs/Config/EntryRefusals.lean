import NewsSearch.Command.Program
import NewsSearch.Proofs.Config.AcceptedSettings
import NewsSearch.Proofs.Query.Refusals

/-!
How an entry of the list of searches can be refused.

An entry is refused for one of many reasons, by checks of its own and by all that is checked when
its search is built: names, values of fields, modifiers, filters, a whole document.  Whoever wrote
the configuration should be told which entry it was.  So nearly every refusal is one that the
program reports as a wrong use, with a wording that starts with the path of the entry (`Reported`).

The path gets there in two ways.  The checks of the entry itself know it and put it in front.  What
goes wrong in building the search does not know it, and is given the path afterwards (`atEntry`),
provided that it is a fault of the query or of a type (`Caught`).  The file follows the two ways.

1. A wording starts with the path of the entry when it starts with any path below it
   (`startsWith_trans`), and every fault of a setting starts with the path that it names
   (`SettingFault.message_startsWith`).
2. Each check of an entry refuses with such a fault only, with one lemma for each function, from a
   single value (`single_refuses`) up to all fields (`fieldParams_refuses`).  These say what can go
   wrong, and `RefusesOnly` puts them together along the binds of the program.
3. Building a search from fields refuses with caught faults only (`ofAllParams_refuses`).  Here one
   thing has to be known of the values: that they can be quoted in a message (`Quotable`).  They
   can, since the checks of the entry let through scalars only (`quotable_of_fieldParams`).
4. Building a search from a document refuses with caught faults or as reading the document does
   (`ofExplicit_refuses`), which is known from the reader of documents.
5. What remains are faults of a document that are not caught.  They leave the entry as they are
   (`Gap`), and there are three kinds: a document that is given as an object may have a key that is
   no text, it may have a value that is too long to be quoted where a count is expected, and a
   document that is given as a text may hold an integer of too many digits.

Main statement: `readEntry_refuses`.
-/

namespace NewsSearch.Config

open Command (isUsage)

/-! ## What starts with a path

A path below another one is written by adding to it, so that starting with a path is all that has to
be known of a wording. -/

theorem startsWith_self (s : String) : s.startsWith s = true :=
  String.startsWith_string_iff.mpr List.prefix_rfl

/-- What follows makes no difference. -/
theorem startsWith_append {s key : String} (h : s.startsWith key = true) (rest : String) :
    (s ++ rest).startsWith key = true := by
  rw [String.startsWith_string_iff] at h ⊢
  rw [String.toList_append]
  exact h.trans (List.prefix_append _ _)

/-- A path starts with what it is below. -/
theorem startsWith_member (key name : String) : (s!"{key}.{name}").startsWith key = true :=
  startsWith_append (startsWith_append (startsWith_self key) _) _

/-- What starts with a longer path starts with the shorter one. -/
theorem startsWith_trans {s path key : String} (h : s.startsWith path = true)
    (hpath : path.startsWith key = true) : s.startsWith key = true := by
  rw [String.startsWith_string_iff] at h hpath ⊢
  exact hpath.trans h

end NewsSearch.Config

namespace NewsSearch.SettingFault

/-- The path with which the wording of a fault starts.  The other faults do not start with one; they
    are about sections and checks, and no entry is refused with them. -/
def place? : SettingFault → Option String
  | shape key _ | keys key | fieldNames key | blank key | negative key | notPositive key => some key
  | queryType key _ | mixedQuery key _ | emptyQuery key | query key _ => some key
  | fieldObject key | emptyGroup key => some key
  | _ => none

/-- The wording of a fault of a setting starts with the path that the fault names. -/
theorem message_startsWith {f : SettingFault} {key : String} (h : f.place? = some key) :
    f.message.startsWith key = true := by
  open Config in
  cases f with
  | shape _ _ | queryType _ _ | mixedQuery _ _ | query _ _ =>
    cases h
    exact startsWith_append (startsWith_append (startsWith_self _) _) _
  | keys _ | fieldNames _ | blank _ | negative _ | notPositive _ | emptyQuery _ | fieldObject _
  | emptyGroup _ =>
    cases h
    exact startsWith_append (startsWith_self _) _
  | _ => cases h

end NewsSearch.SettingFault

namespace NewsSearch.Config

open Command (isUsage)

/-! ## Faults of an entry -/

/-- **Reported**: the fault is shown as a wrong use of the program, and its wording starts with the
    key. -/
structure Reported (key : String) (fault : Fault) : Prop where
  usage : isUsage fault = true
  named : fault.message.startsWith key = true

/-- Every fault of a setting is a wrong use. -/
theorem isUsage_setting (f : SettingFault) : isUsage (.setting f) = true := by
  rw [isUsage, Fault.kind]
  split <;> rfl

/-- A fault of a setting below the key is reported. -/
theorem Reported.setting {f : SettingFault} {place key : String} (hplace : f.place? = some place)
    (hkey : place.startsWith key = true) : Reported key (.setting f) :=
  ⟨isUsage_setting f, startsWith_trans (SettingFault.message_startsWith hplace) hkey⟩

/-- What is reported below a key is reported under the key. -/
theorem Reported.mono {place key : String} (hkey : place.startsWith key = true) {fault : Fault}
    (h : Reported place fault) : Reported key fault :=
  ⟨h.usage, startsWith_trans h.named hkey⟩

/-- A fault that is given the path of the entry: one of the query, or of a type. -/
def Caught (fault : Fault) : Prop := fault.isQueryFault = true ∨ fault.kind = .type

/-- A fault that is caught is reported under the path of the entry.  A fault of a type keeps its
    wording when that starts with the path already, and otherwise the path is put in front. -/
theorem atEntry_caught {fault : Fault} (h : Caught fault) (key : String) :
    Reported key (atEntry key fault) := by
  have hquery : Reported key (.setting (.query key fault.message)) :=
    .setting rfl (startsWith_self key)
  unfold atEntry
  split
  · exact hquery
  · next hother =>
    have hkind : fault.kind = .type := h.resolve_left (by simpa using hother)
    rw [hkind]
    simp only []
    split
    · next hnamed => exact ⟨by rw [isUsage, hkind]; rfl, hnamed⟩
    · exact hquery

/-- Other faults stay as they are. -/
theorem atEntry_uncaught {fault : Fault} (h : ¬ Caught fault) (key : String) :
    atEntry key fault = fault := by
  obtain ⟨hquery, hkind⟩ := not_or.mp h
  unfold atEntry
  rw [if_neg hquery]
  split
  · next htype => exact absurd htype hkind
  · rfl

/-- A fault that is reported under the path of the entry remains so. -/
theorem Reported.atEntry {key : String} {fault : Fault} (h : Reported key fault) :
    Reported key (Config.atEntry key fault) := by
  by_cases hcaught : Caught fault
  · exact atEntry_caught hcaught key
  · rw [atEntry_uncaught hcaught]
    exact h

/-! ## Values of fields

Each function that reads a part of an entry refuses with reported faults only.  The proofs go along
the functions: a bind refuses as one of its two parts does, and what is refused under a path below
the one of the entry is reported under that of the entry. -/

section Fields

variable (key : String)

/-- A single value is refused as a wrong shape. -/
theorem single_refuses (value : Argument) : RefusesOnly (Reported key) (single value key) := by
  have hshape : Reported key (wrongShape key .scalar) := .setting rfl (startsWith_self key)
  unfold single
  split
  · exact .error hshape
  · exact .error hshape
  · exact .ok _
  · exact .error hshape

/-- Several values are refused as one of them is, under the path of its place in the list. -/
theorem singlesFrom_refuses (values : List Argument) (i : Nat) :
    RefusesOnly (Reported key) (singlesFrom key i values) := by
  induction values generalizing i with
  | nil => exact .ok _
  | cons value rest ih =>
    have hplace : (s!"{key}[{Number.natText i}]").startsWith key = true :=
      startsWith_append (startsWith_append (startsWith_append (startsWith_self key) _) _) _
    refine .bind ((single_refuses _ value).mono fun _ h => h.mono hplace) fun _ _ => ?_
    exact .bind (ih (i + 1)) fun _ _ => .ok _

/-- Values under the way in which they combine are refused when the way is not known, when there are
    no values, or as one of them is. -/
theorem combined_refuses (entries : List (Scalar × Argument)) :
    RefusesOnly (Reported key) (combined entries key) := by
  have hobject : Reported key (.setting (.fieldObject key)) := .setting rfl (startsWith_self key)
  unfold combined
  split
  · next word items =>
    have hword := startsWith_member key word
    have hgroup : Reported key (.setting (.emptyGroup s!"{key}.{word}")) := .setting rfl hword
    split
    · exact .error hobject
    · split
      · exact .error hgroup
      · exact .error hgroup
      · next values hne _ =>
        refine .bind ((singlesFrom_refuses _ values 0).mono fun _ h => h.mono hword) ?_
        intro as has
        -- there is a value, so that there is something to wrap
        obtain rfl := singlesFrom_eq has
        cases as with
        | nil => exact absurd rfl hne
        | cons a rest => exact .ok _
  · exact .error hobject

/-- What stands under a field is refused in one of these ways. -/
theorem fieldArgument_refuses (value : Argument) :
    RefusesOnly (Reported key) (fieldArgument value key) := by
  unfold fieldArgument
  split
  · exact combined_refuses key _
  · split
    · exact (singlesFrom_refuses key _ 0).map
    · exact single_refuses key value

/-- So are the fields of an entry, each under its own path; a name that is no text is refused under
    the path of the entry. -/
theorem fieldParams_refuses (entries : List (Scalar × Argument)) :
    RefusesOnly (Reported key) (fieldParams key entries) := by
  induction entries with
  | nil => exact .ok _
  | cons entry rest ih =>
    obtain ⟨field, value⟩ := entry
    by_cases htext : ∃ name, field = .text name
    · obtain ⟨name, rfl⟩ := htext
      have hplace := startsWith_member key name
      rw [fieldParams]
      split
      · exact ih
      · refine .bind ((fieldArgument_refuses _ value).mono fun _ h => h.mono hplace) fun _ _ => ?_
        exact .bind ih fun _ _ => .ok _
    · rw [fieldParams]
      · exact .error (.setting rfl (startsWith_self key))
      · intro name given h
        exact absurd ⟨name, (Prod.mk.inj h).1⟩ htext

/-! ## Entries -/

/-- What should be a text and is not is refused. -/
theorem entryText_refuses (value : Argument) :
    RefusesOnly (Reported key) (entryText value key) := by
  have hshape : Reported key (wrongShape key .text) := .setting rfl (startsWith_self key)
  unfold entryText
  split
  · unfold text
    split
    · exact .ok _
    · exact .error hshape
  · exact .error hshape

/-- The name of a search is refused when it is no text. -/
theorem entryName_refuses (entries : List (Scalar × Argument)) :
    RefusesOnly (Reported key) (entryName entries key) := by
  have hplace := startsWith_member key nameKey
  unfold entryName
  split
  · exact .ok _
  · exact .bind ((entryText_refuses _ _).mono fun _ h => h.mono hplace) fun _ _ => .ok _

/-- What is searched for is refused when it is no text, or none of the known words. -/
theorem entrySubject_refuses (entries : List (Scalar × Argument)) :
    RefusesOnly (Reported key) (entrySubject entries key) := by
  have hplace := startsWith_member key subjectKey
  refine .bind ((entryText_refuses _ _).mono fun _ h => h.mono hplace) fun word _ => ?_
  simp only []
  split
  · exact .ok _
  · exact .error (.setting rfl (startsWith_self key))

end Fields

/-! ## Building the search of an entry

The search is built by functions that know nothing of entries.  What they refuse is caught, if only
every value can be quoted where a message quotes it. -/

/-- Faults of expressions are caught. -/
theorem Caught.expression (fault : ExpressionFault) : Caught (.expression fault) := .inl rfl

/-- Every value of the argument can be quoted in a message, or need not be since it is an
    integer. -/
def Quotable (a : Argument) : Prop := ∀ v ∈ a.values, ¬ v.Unquotable

/-- A single value is a scalar and no tuple, and nothing else can hold an integer without being
    one. -/
theorem scalar_of_single {value a : Argument} {key : String} (h : single value key = .ok a) :
    (∃ s, a = .data (.scalar s)) ∧ ¬ a.Unquotable := by
  unfold single at h
  split at h
  · cases h
  · cases h
  · next s htuple _ =>
    cases h
    refine ⟨⟨s, rfl⟩, ?_⟩
    rintro ⟨hlong, hother⟩
    cases s with
    | int n => exact hother n rfl
    | tuple items => exact htuple items rfl
    | _ => cases hlong
  · cases h

/-- So are several single values. -/
theorem not_unquotable_of_singlesFrom {values as : List Argument} {key : String} {i : Nat}
    (h : singlesFrom key i values = .ok as) : ∀ a ∈ as, ¬ a.Unquotable := by
  induction values generalizing i as with
  | nil =>
    cases h
    exact fun a ha => absurd ha List.not_mem_nil
  | cons value rest ih =>
    simp only [singlesFrom, bind_eq_ok_iff] at h
    obtain ⟨a, ha, others, hothers, has⟩ := h
    cases has
    exact List.forall_mem_cons.mpr ⟨(scalar_of_single ha).2, ih hothers⟩

/-- What a field is given as is one single value or several, so all of it can be quoted. -/
theorem quotable_of_fieldArgument {value a : Argument} {key : String}
    (h : fieldArgument value key = .ok a) : Quotable a := by
  unfold fieldArgument at h
  split at h
  · -- values under the way in which they combine: what is wrapped are these values
    unfold combined at h
    split at h
    · split at h
      · cases h
      · split at h
        · cases h
        · cases h
        · obtain ⟨as, has, hwrap⟩ := bind_eq_ok_iff.mp h
          unfold Argument.wrap at hwrap
          split at hwrap
          · next heq => cases heq
          · split at hwrap
            · cases hwrap
            · cases hwrap
            · next heq =>
              cases heq
              cases hwrap
              exact not_unquotable_of_singlesFrom has
    · cases h
  · split at h
    · obtain ⟨as, has, rfl⟩ := map_eq_ok_iff.mp h
      exact not_unquotable_of_singlesFrom has
    · -- a single value is no list, so it is its only value
      obtain ⟨⟨s, rfl⟩, hquotable⟩ := scalar_of_single h
      intro v hv
      rw [List.mem_singleton.mp hv]
      exact hquotable

/-- So can all that the fields of an entry are given as. -/
theorem quotable_of_fieldParams {entries : List (Scalar × Argument)} {params : Params}
    {key : String} (h : fieldParams key entries = .ok params) : ∀ p ∈ params, Quotable p.2 := by
  induction entries generalizing params with
  | nil =>
    cases h
    exact fun p hp => absurd hp List.not_mem_nil
  | cons entry rest ih =>
    unfold fieldParams at h
    split at h
    · next heq => cases heq
    · next heq =>
      cases heq
      split at h
      · exact ih h
      · simp only [bind_eq_ok_iff] at h
        obtain ⟨a, ha, others, hothers, hparams⟩ := h
        cases hparams
        exact List.forall_mem_cons.mpr ⟨quotable_of_fieldArgument ha, ih hothers⟩
    · cases h

/-- What is given under a name is one of the parameters, or nothing. -/
theorem quotable_getD {params : Params} (hparams : ∀ p ∈ params, Quotable p.2) (name : String) :
    Quotable (params.getD name) := by
  rw [Params.getD]
  cases hfound : params.lookup name with
  | none =>
    intro v hv
    rw [List.mem_singleton.mp hv]
    rintro ⟨⟨⟩, -⟩
  | some a =>
    obtain ⟨before, after, hsplit, -⟩ := List.lookup_eq_some_iff.mp hfound
    exact hparams (name, a) (by simp [hsplit])

/-- A condition is refused with a fault of the query, or because a value cannot be looked up.  The
    third way in which a value is refused, that it cannot be quoted, is excluded. -/
theorem make_refuses {a : Argument} (hquotable : ¬ a.Unquotable) (f : Field)
    (given : List (String × Argument)) : RefusesOnly Caught (Condition.make f a given) := by
  have hmodifiers : RefusesOnly Caught (f.checkModifiers given) := by
    induction given with
    | nil => exact .ok _
    | cons m rest ih =>
      refine .bind ((Field.checkModifier_refuses m.1 m.2).mono ?_) fun _ _ =>
        .bind ih fun _ _ => .ok _
      rintro fault (⟨e, rfl⟩ | ⟨t, rfl, -⟩)
      · exact .inl rfl
      · exact .inr rfl
  refine .bind hmodifiers fun _ _ => .bind ((Field.normalizeValue_refuses a).mono ?_) fun _ _ =>
    .ok _
  rintro fault (⟨e, rfl⟩ | ⟨e, rfl⟩ | ⟨-, hunquotable, -⟩)
  · exact .inl rfl
  · exact .inl rfl
  · exact absurd hunquotable hquotable

/-- Several values of a field are refused as one of them is, or because the field takes one only. -/
theorem coerceSeveral_refuses {values : List Argument} (hquotable : ∀ v ∈ values, ¬ v.Unquotable)
    (f : Field) (mode : Mode) (given : List (String × Argument)) :
    RefusesOnly Caught (f.coerceSeveral mode values given) := by
  have heach : RefusesOnly Caught (Condition.makeEach f given values) := by
    induction values with
    | nil => exact .ok _
    | cons a rest ih =>
      obtain ⟨ha, hrest⟩ := List.forall_mem_cons.mp hquotable
      exact .bind (make_refuses ha f given) fun _ _ => .bind (ih hrest) fun _ _ => .ok _
  unfold Field.coerceSeveral
  split
  · exact .error (.expression _)
  · exact heach.map

/-- A field is refused in one of these ways, whatever its values are classified as. -/
theorem coerce_refuses {a : Argument} (hquotable : Quotable a) (f : Field) (mode? : Option Mode)
    (given : List (String × Argument)) : RefusesOnly Caught (f.coerce a mode? given) := by
  have hclassify : RefusesOnly Caught (classify a) := by
    unfold classify
    split
    · exact .ok _
    · exact .ok _
    · exact .error (.expression _)
    · exact .ok _
    · split
      · exact .ok _
      · exact .ok _
      · exact .ok _
  refine .bind hclassify fun given? hgiven => ?_
  -- whatever it is classified as, its values are those of the argument
  rcases Flat.classify_cases hgiven with
    ⟨rfl, -⟩ | ⟨-, ⟨rfl, hvalues⟩ | ⟨rfl, -⟩ | ⟨mode, rfl, -⟩⟩
  · exact .ok _
  · exact (make_refuses (hquotable a (hvalues ▸ List.mem_cons_self)) f given).map
  · exact coerceSeveral_refuses hquotable f _ given
  · exact coerceSeveral_refuses hquotable f mode given

/-- So are all fields, each with what is searched for and what is ignored. -/
theorem parts_refuses {params : Params} (hparams : ∀ p ∈ params, Quotable p.2)
    (fields : List Field) : RefusesOnly Caught (Flat.parts params fields) := by
  have hquotable := quotable_getD hparams
  induction fields with
  | nil => exact .ok _
  | cons f rest ih =>
    have hignored : RefusesOnly Caught (Flat.ignored params f) := by
      unfold Flat.ignored
      split
      · exact coerce_refuses (hquotable _) f _ _
      · exact .ok _
    refine .bind (coerce_refuses (hquotable _) f _ _) fun _ _ => .bind hignored fun _ _ => ?_
    exact .bind ih fun _ _ => .ok _

/-- And so is compiling parameters, where a name that is not known is a fault of a type. -/
theorem compile_refuses {params : Params} (hparams : ∀ p ∈ params, Quotable p.2)
    (scope : Flat.Scope) : RefusesOnly Caught (Flat.compile scope params) := by
  have hnames : RefusesOnly Caught (Flat.checkNames scope params) := by
    unfold Flat.checkNames
    simp only []
    split
    · exact .ok _
    · exact .error (.inr rfl)
  exact .bind hnames fun _ _ => .bind (parts_refuses hparams _) fun _ _ => .ok _

/-- Filters that are given as parameters have texts for names. -/
theorem ofParams_refuses (given : List (String × Argument)) :
    RefusesOnly Caught (Filters.ofParams given) := by
  have hentries : ∀ entries : List (Scalar × Argument),
      (∀ e ∈ entries, ∃ name, e.1 = .text name) →
      RefusesOnly Caught (Filters.parseEntries entries) := by
    intro entries hnames
    induction entries with
    | nil => exact .ok _
    | cons entry rest ih =>
      obtain ⟨⟨name, hname⟩, hrest⟩ := List.forall_mem_cons.mp hnames
      refine .bind ((Filters.check_refuses entry.1 entry.2).mono ?_) fun _ _ =>
        .bind (ih hrest) fun _ _ => .ok _
      rintro fault ((_ | _) | ⟨hlong, -⟩)
      · exact .inl rfl
      · exact .inr rfl
      · rw [hname] at hlong
        cases hlong
  -- every other fault of the filters is made one of an expression
  refine (hentries _ ?_).mapError ?_
  · intro e he
    obtain ⟨⟨param, a⟩, -, hentry⟩ := List.mem_filterMap.mp he
    simp only [] at hentry
    split at hentry
    · cases hentry
    · obtain ⟨name, -, rfl⟩ := Option.map_eq_some_iff.mp hentry
      exact ⟨name, rfl⟩
  · intro fault hfault
    unfold Filters.asExpressionFault
    split
    · exact .expression _
    · exact hfault

/-- A search is refused field by field with faults of the query and of types. -/
theorem ofAllParams_refuses {params : Params} (hparams : ∀ p ∈ params, Quotable p.2)
    (subject : Subject) : RefusesOnly Caught (Search.ofAllParams subject params) := by
  have hoffer : ∀ a : Argument, RefusesOnly Caught
      (Search.checkOffer subject (Search.offerOrStandard subject (.other a))) := by
    intro a
    have hstandard : (Search.standardSection subject).target = subject.target := by
      cases subject <;> rfl
    unfold Search.offerOrStandard
    simp only []
    split
    · exact .error (.inr rfl)
    · rw [Search.checkOffer, if_pos hstandard]
      exact .ok _
  unfold Search.ofAllParams Search.ofParams
  refine .check (.inr rfl) (.check (.inr rfl) (.check (.inr rfl) ?_))
  refine .bind (ofParams_refuses _) fun _ _ => .bind (compile_refuses ?_ _) fun _ _ => ?_
  · exact fun p hp => hparams p (List.mem_of_mem_filter (List.mem_of_mem_filter hp))
  exact .bind (hoffer _) fun _ _ => .ok _

/-- A search is refused as a document with such faults as well, or with one of the document. -/
theorem ofExplicit_refuses (subject : Subject) (document : Data) :
    RefusesOnly (fun fault => Caught fault ∨ ParsedDocument.Refused document fault)
      (Search.ofExplicit subject (.query (.data document))) := by
  have hread : RefusesOnly (fun fault => Caught fault ∨ ParsedDocument.Refused document fault)
      (Explicit.read (.data document)) :=
    (ParsedDocument.parse_refuses document).map.mono fun _ => Or.inr
  have hnames : Explicit.checkNames subject [] = .ok () := by
    cases subject <;> rfl
  have hfilters : Explicit.holdsFilters (Params.getD Explicit.filtersParam []) = .ok false := rfl
  have hmake : RefusesOnly (fun fault => Caught fault ∨ ParsedDocument.Refused document fault)
      (Explicit.make subject (.data document) []) := by
    rw [Explicit.make, hnames]
    refine .bind (.ok ()) fun _ _ => .bind ((ofParams_refuses _).mono fun _ => Or.inl) fun _ _ => ?_
    refine .bind hread fun found _ => ?_
    rw [hfilters]
    show RefusesOnly _ (if _ then _ else _)
    split
    · exact .error (.inl (.inl rfl))
    · exact .ok _
  exact hmake.map

/-- **Gaps.** The document of an entry has a key that is no text, a value that cannot be quoted, or
    an integer of too many digits, and the fault is not given the path of the entry. -/
inductive Gap (entry : Data) : Fault → Prop
  | oddKey {entries document : Record} {fault : Fault} (object : entry = .map entries)
      (complex : entries.get? documentKey = some (.map document)) (odd : OddKeyIn document fault)
      (uncaught : fault.kind ≠ .type) : Gap entry fault
  | unquoted {entries document : Record} (object : entry = .map entries)
      (complex : entries.get? documentKey = some (.map document))
      (unquoted : UnquotedIn document) : Gap entry (.type (.json .integer))
  | integer {entries : Record} {s : String} {digits : Nat} (object : entry = .map entries)
      (complex : entries.get? documentKey = some (.text s))
      (reads : Json.read s = .error (.tooManyDigits digits)) :
      Gap entry (.value (.integer (.tooManyDigits digits)))

/-- A document that is refused with a fault that is not caught leaves a gap.  Faults of the document
    and values that cannot be looked up are caught, and each of the other ways to refuse is a
    gap. -/
theorem Gap.of_refused {entries : Record} {document : Data}
    (complex : entries.get? documentKey = some document) {fault : Fault}
    (h : ParsedDocument.Refused document fault) (hcaught : ¬ Caught fault) :
    Gap (.map entries) fault := by
  cases h with
  | document fault => exact absurd (.inl rfl) hcaught
  | unhashable typeName => exact absurd (.inr rfl) hcaught
  | oddKey object odd =>
    rw [object] at complex
    exact .oddKey rfl complex odd fun hkind => hcaught (.inr hkind)
  | unquoted object unquoted =>
    rw [object] at complex
    exact .unquoted rfl complex unquoted
  | integer text reads =>
    rw [text] at complex
    exact .integer rfl complex reads

/-- The search of an entry is refused with faults that are reported, with faults that will be when
    they are given the path, or as its document is. -/
theorem buildSearch_refuses (subject : Subject) (document : Data) {params : Params}
    (hparams : ∀ p ∈ params, Quotable p.2) (key : String) :
    RefusesOnly (fun fault => Reported key fault ∨ Caught fault ∨
        document ≠ .null ∧ ParsedDocument.Refused document fault)
      (buildSearch subject (.data document) params key) := by
  have hplace := startsWith_member key documentKey
  unfold buildSearch
  split
  · split
    · exact .error (.inl (.setting rfl (startsWith_self key)))
    · exact (ofAllParams_refuses hparams subject).mono fun _ h => .inr (.inl h)
  · next hgiven =>
    have hnull : document ≠ .null := by
      rintro rfl
      exact hgiven rfl
    split
    · refine (ofExplicit_refuses subject document).mono fun fault => ?_
      rintro (hcaught | hrefused)
      · exact .inr (.inl hcaught)
      · exact .inr (.inr ⟨hnull, hrefused⟩)
    · exact .error (.inl (.setting rfl hplace))

/-- **Refusals of an entry.** An entry is refused with a fault that is reported under its path, or
    in one of the gaps.  The checks of the entry report; building the search is given the path, and
    what is not caught there comes from the document. -/
theorem readEntry_refuses (d : Data) (key : String) :
    RefusesOnly (fun fault => Reported key fault ∨ Gap d fault) (readEntry (.data d) key) := by
  by_cases hobject : ∃ entries, d = .map entries
  case neg =>
    have hnone : (Argument.data d).entries? = none := by
      cases d with
      | map entries => exact absurd ⟨entries, rfl⟩ hobject
      | _ => rfl
    rw [readEntry, hnone]
    exact .error (.inl (.setting rfl (startsWith_self key)))
  obtain ⟨entries, rfl⟩ := hobject
  unfold readEntry
  simp only [Argument.entries?]
  refine .bind ((entryName_refuses key _).mono fun _ => Or.inl) fun name _ => ?_
  refine .bind ((entrySubject_refuses key _).mono fun _ => Or.inl) fun subject _ => ?_
  refine .bind ((fieldParams_refuses key _).mono fun _ => Or.inl) fun params hparams => ?_
  split
  · exact .error (.inl (.setting rfl (startsWith_self key)))
  · rw [argumentAt?_getD_data]
    have hbuild := buildSearch_refuses subject (Record.getD documentKey entries)
      (quotable_of_fieldParams hparams) key
    refine .bind (hbuild.mapError fun fault => ?_) fun _ _ => .ok _
    -- what is caught is given the path, whatever it is; only the rest has to be told apart
    by_cases hcaught : Caught fault
    · exact fun _ => .inl (atEntry_caught hcaught key)
    · rintro (hreported | h | ⟨hgiven, hrefused⟩)
      · exact .inl hreported.atEntry
      · exact absurd h hcaught
      · rw [atEntry_uncaught hcaught]
        exact .inr (.of_refused (Record.get?_of_getD_ne_null hgiven) hrefused hcaught)

end NewsSearch.Config
