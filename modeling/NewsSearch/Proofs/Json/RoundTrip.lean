import NewsSearch.Proofs.Accepted
import NewsSearch.Proofs.Json.Token
import NewsSearch.Proofs.Record

/-!
JSON text reads back as the values it was written from.

Most values have a JSON form of their own: nothing, truth values, integers, whole texts, lists of
such values, and mappings from whole texts to them (`IsJson`).  Tuples and days are written as
something else, and decimal numbers are left aside.  `write` puts such a value down in either
format, and `read` gives it back, with its keys in their order.

The writer and the reader are recursions of different shapes.  The writer goes down the value.  The
reader goes along the text and does not know where a value will end; it also has a bound on the
number of its steps.  Therefore the statement that is carried from the parts to the whole,
`ReadsBack`, has two particularities.

* It speaks of what follows.  The reader stops behind a value wherever a value ends in a text, that
  is before anything that does not go on with a numeral (`Ends`).  A numeral needs this, since
  another digit behind it would be read as one of its own.
* It speaks of the bound.  Twice the number of characters that are left is enough, since every two
  steps consume one.

1. A scalar is read in one step (`readsBack_scalar`), where numerals and texts are known from their
   own readers.
2. The items of a list are read up to the closing bracket, by induction on those behind the first
   one (`items_readBack`), and the members of a mapping up to the closing brace
   (`members_readBack`).  Blanks and line breaks between them are passed over (`between_eq`,
   `closing`).
3. By induction on the value every value with a JSON form is read back, if its integers may be
   written (`readsBack`), and from the beginning of a text nothing else is read
   (`read_of_readsBack`).

Main statement: `read_write`.
-/

namespace NewsSearch

namespace Json

open Text

/-! ## Values with a JSON form -/

/-- A scalar with a JSON form of its own. -/
inductive IsJsonScalar : Scalar → Prop
  | null : IsJsonScalar .null
  | bool (b : Bool) : IsJsonScalar (.bool b)
  | int (n : Int) : IsJsonScalar (.int n)
  | text {s : String} (whole : IsWhole s) : IsJsonScalar (.text s)

/-- A value with a JSON form of its own: mappings have each key once, and only texts as keys. -/
inductive IsJson : Data → Prop
  | scalar {s : Scalar} (scalar : IsJsonScalar s) : IsJson (.scalar s)
  | list {items : List Data} (each : ∀ d ∈ items, IsJson d) : IsJson (.list items)
  | map {entries : Record} (keys : ∀ e ∈ entries, ∃ name, e.1 = .text name ∧ IsWhole name)
      (once : entries.KeysOnce) (each : ∀ e ∈ entries, IsJson e.2) : IsJson (.map entries)

/-- The empty mapping. -/
theorem isJson_empty : IsJson (.map []) :=
  .map (List.forall_mem_nil _) List.Pairwise.nil (List.forall_mem_nil _)

/-- A property that goes from the parts of a value to the value, as having a JSON form does, and
    that whole texts and truth values have.  What is built from fields and modifiers has every such
    property. -/
structure Formed (P : Data → Prop) : Prop where
  text : ∀ {s : String}, IsWhole s → P (.text s)
  bool : ∀ b, P (.bool b)
  list : ∀ {items : List Data}, (∀ d ∈ items, P d) → P (.list items)
  map : ∀ {entries : Record}, (∀ e ∈ entries, ∃ name, e.1 = .text name ∧ IsWhole name) →
    entries.KeysOnce → (∀ e ∈ entries, P e.2) → P (.map entries)

/-- Having a JSON form is one. -/
theorem formed_isJson : Formed IsJson :=
  ⟨fun whole => .scalar (.text whole), fun b => .scalar (.bool b), .list, .map⟩

/-- Values with a JSON form under different whole names are a mapping with one. -/
theorem isJson_ofTexts {pairs : List (String × Data)} (hnames : (pairs.map (·.1)).Nodup)
    (hwhole : ∀ name ∈ pairs.map (·.1), IsWhole name) (h : ∀ p ∈ pairs, IsJson p.2) :
    IsJson (.map (Record.ofTexts pairs)) := by
  refine .map ?_ (Record.keysOnce_ofTexts hnames) (List.forall_mem_map.mpr h)
  exact List.forall_mem_map.mpr fun p hp => ⟨p.1, rfl, hwhole p.1 (List.mem_map_of_mem hp)⟩

/-! ## Layout -/

/-- Blanks are passed over. -/
theorem skip_append {blanks : List Char} (h : ∀ c ∈ blanks, isSpace c = true) (cs : List Char) :
    skip (blanks ++ cs) = skip cs := by
  rw [skip, List.dropWhile_append_of_pos h]
  rfl

/-- What is no blank stays. -/
theorem skip_cons {c : Char} {rest : List Char} (hc : isSpace c = false) :
    skip (c :: rest) = c :: rest := by
  rw [skip, List.dropWhile_cons_of_neg]
  rw [hc]
  exact Bool.false_ne_true

/-- The beginning of a line is blank: a line break and spaces where the format breaks lines, nothing
    where it does not. -/
theorem isSpace_of_mem_lineStart {f : Format} {depth : Nat} :
    ∀ c ∈ lineStart f depth, isSpace c = true := by
  intro c hc
  unfold lineStart at hc
  split at hc
  · rcases List.mem_cons.mp hc with rfl | hc
    · rfl
    · rw [List.eq_of_mem_replicate hc]
      rfl
  · cases hc

/-- Between two elements there are a comma and blanks. -/
theorem between_eq (f : Format) (depth : Nat) :
    ∃ blanks, between f depth = ',' :: blanks ∧ ∀ c ∈ blanks, isSpace c = true := by
  refine ⟨_, rfl, ?_⟩
  split
  · exact isSpace_of_mem_lineStart
  · intro c hc
    rw [List.mem_singleton.mp hc]
    rfl

/-- **The beginning of a value.**  Its characters begin with one that is no blank, so that a reader
    that passes over blanks stops at it, and that does not end a list, so that a value is never
    taken for the end of the list that it stands in.  The mark that may not begin a document is
    excluded for the sake of the outermost value. -/
def BeginsValue (cs : List Char) : Prop :=
  ∃ c rest, cs = c :: rest ∧ isSpace c = false ∧ c ≠ ']' ∧ c ≠ '\uFEFF'

/-- So do they with more behind them. -/
theorem BeginsValue.append {cs : List Char} (h : BeginsValue cs) (rest : List Char) :
    BeginsValue (cs ++ rest) := by
  obtain ⟨c, others, rfl, hc⟩ := h
  exact ⟨c, others ++ rest, rfl, hc⟩

/-- Nothing of them is passed over. -/
theorem BeginsValue.skip_append {cs : List Char} (h : BeginsValue cs) (rest : List Char) :
    skip (cs ++ rest) = cs ++ rest := by
  obtain ⟨c, others, rfl, hc, -⟩ := h
  exact skip_cons hc

/-- A closing bracket on the line of its own value.  What stands before it ends there, since neither
    a line break nor a bracket goes on with a numeral, and the reader passes over to the bracket. -/
theorem closing (f : Format) (depth : Nat) {c : Char} (hc : c = ']' ∨ c = '}') (rest : List Char) :
    Ends (lineStart f depth ++ c :: rest) ∧ skip (lineStart f depth ++ c :: rest) = c :: rest := by
  constructor
  · unfold lineStart
    split
    · intro d hd
      cases hd
      decide
    · intro d hd
      cases hd
      rcases hc with rfl | rfl <;> decide
  · rw [skip_append isSpace_of_mem_lineStart, skip_cons]
    rcases hc with rfl | rfl <;> rfl

/-- A value ends before a comma. -/
theorem ends_comma (rest : List Char) : Ends (',' :: rest) := by
  intro d hd
  cases hd
  decide

/-! ## Values within a text

A value within a text is followed by a comma, by blanks and a closing bracket, or by nothing. -/

/-- **Read back within a text**: a value is read from its characters, whatever follows them, when it
    ends there and the bound is large enough. -/
structure ReadsBack (f : Format) (d : Data) : Prop where
  begins : ∀ depth, BeginsValue (chars f depth d)
  value : ∀ depth fuel rest, Ends rest → 2 * (chars f depth d ++ rest).length + 1 ≤ fuel →
    value fuel (chars f depth d ++ rest) = .ok (d, rest)

/-- The items of a list, each of which is read back, are read up to the closing bracket. -/
theorem items_readBack {f : Format} {depth : Nat} {item : Data} {rest : List Data}
    (h : ∀ d ∈ item :: rest, ReadsBack f d) {close after : List Char} (hends : Ends close)
    (hclose : skip close = ']' :: after) {fuel : Nat}
    (hfuel : 2 * (chars f depth item ++ (laterItems f depth rest ++ close)).length + 2 ≤ fuel) :
    items fuel (chars f depth item ++ (laterItems f depth rest ++ close)) =
      .ok (item :: rest, after) := by
  induction rest generalizing item fuel with
  | nil =>
    obtain ⟨k, rfl⟩ : ∃ k, fuel = k + 1 := ⟨fuel - 1, by omega⟩
    have hitem := (h item List.mem_cons_self).value depth k close hends
    -- the last item: behind it the list is closed, and one step is enough
    rw [laterItems, List.nil_append] at hfuel ⊢
    rw [items, hitem (by omega)]
    simp only [bind, Except.bind, hclose]
  | cons next more ih =>
    obtain ⟨k, rfl⟩ : ∃ k, fuel = k + 1 := ⟨fuel - 1, by omega⟩
    obtain ⟨hitem, hrest⟩ := List.forall_mem_cons.mp h
    have hothers : ∀ k,
        2 * (chars f depth next ++ (laterItems f depth more ++ close)).length + 2 ≤ k →
        items k (chars f depth next ++ (laterItems f depth more ++ close)) =
          .ok (next :: more, after) := fun k => ih hrest
    -- an item before others: it ends at the comma, and the others are read by the induction
    -- hypothesis with the steps that are left
    have hbegins := (hrest next List.mem_cons_self).begins depth
    obtain ⟨blanks, hlater, hblanks⟩ := between_eq f depth
    -- from here on the characters of the other items are one piece
    rw [laterItems, hlater, List.append_assoc, List.append_assoc, List.cons_append] at hfuel ⊢
    have hskip := hbegins.skip_append (laterItems f depth more ++ close)
    generalize chars f depth next ++ (laterItems f depth more ++ close) = others
      at hfuel hothers hskip ⊢
    -- the item and the comma have used up characters, so the bound is still large enough
    have hlength : others.length < (chars f depth item ++ ',' :: (blanks ++ others)).length := by
      simp only [List.length_append, List.length_cons]
      omega
    have hvalue := hitem.value depth k (',' :: (blanks ++ others)) (ends_comma _) (by omega)
    have hcomma : skip (',' :: (blanks ++ others)) = ',' :: (blanks ++ others) := skip_cons rfl
    simp only [items, hvalue, bind, Except.bind, hcomma, skip_append hblanks, hskip,
      hothers k (by omega), Except.map]

/-- An entry of a mapping, before what follows it. -/
def entryChars (f : Format) (depth : Nat) (e : Scalar × Data) (rest : List Char) : List Char :=
  textChars f (keyText e.1) ++ ':' :: ' ' :: (chars f depth e.2 ++ rest)

/-- A member begins with its key in quotes. -/
theorem entryChars_text (f : Format) (depth : Nat) (name : String) (d : Data) (rest : List Char) :
    entryChars f depth (.text name, d) rest =
      '"' :: ((codePoints name.toList).flatMap (escapedPoint f) ++
        '"' :: ':' :: ' ' :: (chars f depth d ++ rest)) := by
  simp only [entryChars, keyText, textChars, List.cons_append, List.append_assoc, List.nil_append]

section Entry

variable {f : Format} {depth k : Nat} {name : String} {d : Data} {rest after : List Char}

/-- The value of the first member is read, up to what follows it. -/
theorem value_entry (hd : ReadsBack f d) (hrest : Ends rest)
    (hfuel : 2 * (entryChars f depth (.text name, d) rest).length + 2 ≤ k + 1) :
    value k (skip (' ' :: (chars f depth d ++ rest))) = .ok (d, rest) := by
  -- the key and the colon have been consumed, so the bound is large enough for the value
  have hlength : (chars f depth d ++ rest).length <
      (entryChars f depth (.text name, d) rest).length := by
    simp only [entryChars, List.length_append, List.length_cons]
    omega
  have hblank : ∀ c ∈ [' '], isSpace c = true := List.forall_mem_singleton.mpr rfl
  have hskip : skip (' ' :: (chars f depth d ++ rest)) = chars f depth d ++ rest := by
    rw [← List.singleton_append, skip_append hblank, (hd.begins depth).skip_append]
  rw [hskip]
  exact hd.value depth k rest hrest (by omega)

/-- A member before the closing brace is the last. -/
theorem members_last (hname : IsWhole name) (hd : ReadsBack f d) (hrest : Ends rest)
    (hfuel : 2 * (entryChars f depth (.text name, d) rest).length + 2 ≤ k + 1)
    (hclose : skip rest = '}' :: after) :
    members (k + 1) (entryChars f depth (.text name, d) rest) =
      .ok ([(.text name, d)], after) := by
  have hvalue := value_entry hd hrest hfuel
  have hcolon : ∀ cs, skip (':' :: cs) = ':' :: cs := fun _ => skip_cons rfl
  simp only [entryChars_text, members, textBody_textChars f hname, bind, Except.bind, hcolon,
    hvalue, hclose, String.ofList_toList]

/-- A member before a comma is followed by others. -/
theorem members_next (hname : IsWhole name) (hd : ReadsBack f d) (hrest : Ends rest)
    (hfuel : 2 * (entryChars f depth (.text name, d) rest).length + 2 ≤ k + 1)
    {others : List Char} {es : List (Scalar × Data)} (hcomma : skip rest = ',' :: others)
    (hothers : members k (skip others) = .ok (es, after)) :
    members (k + 1) (entryChars f depth (.text name, d) rest) =
      .ok ((.text name, d) :: es, after) := by
  have hvalue := value_entry hd hrest hfuel
  have hcolon : ∀ cs, skip (':' :: cs) = ':' :: cs := fun _ => skip_cons rfl
  simp only [entryChars_text, members, textBody_textChars f hname, bind, Except.bind, hcolon,
    hvalue, hcomma, hothers, Except.map, String.ofList_toList]

end Entry

/-- The members of a mapping, each of which is read back, are read up to the closing brace. -/
theorem members_readBack {f : Format} {depth : Nat} {entry : Scalar × Data}
    {rest : List (Scalar × Data)}
    (hkeys : ∀ e ∈ entry :: rest, ∃ name, e.1 = .text name ∧ IsWhole name)
    (h : ∀ e ∈ entry :: rest, ReadsBack f e.2) {close after : List Char} (hends : Ends close)
    (hclose : skip close = '}' :: after) {fuel : Nat}
    (hfuel : 2 * (entryChars f depth entry (laterEntries f depth rest ++ close)).length + 2 ≤
      fuel) :
    members fuel (entryChars f depth entry (laterEntries f depth rest ++ close)) =
      .ok (entry :: rest, after) := by
  induction rest generalizing entry fuel with
  | nil =>
    obtain ⟨k, rfl⟩ : ∃ k, fuel = k + 1 := ⟨fuel - 1, by omega⟩
    obtain ⟨key, d⟩ := entry
    obtain ⟨name, rfl, hname⟩ := hkeys _ List.mem_cons_self
    -- the last member
    rw [laterEntries, List.nil_append] at hfuel ⊢
    exact members_last hname (h _ List.mem_cons_self) hends hfuel hclose
  | cons next more ih =>
    obtain ⟨k, rfl⟩ : ∃ k, fuel = k + 1 := ⟨fuel - 1, by omega⟩
    obtain ⟨key, d⟩ := entry
    obtain ⟨⟨name, rfl, hname⟩, hnames⟩ := List.forall_mem_cons.mp hkeys
    obtain ⟨hd, hrest⟩ := List.forall_mem_cons.mp h
    have hothers : ∀ k,
        2 * (entryChars f depth next (laterEntries f depth more ++ close)).length + 2 ≤ k →
        members k (entryChars f depth next (laterEntries f depth more ++ close)) =
          .ok (next :: more, after) := fun k => ih hnames hrest
    obtain ⟨blanks, hbetween, hblanks⟩ := between_eq f depth
    -- from here on the characters of the other members are one piece
    have hlater : laterEntries f depth (next :: more) ++ close =
        ',' :: (blanks ++ entryChars f depth next (laterEntries f depth more ++ close)) := by
      obtain ⟨key, v⟩ := next
      simp only [laterEntries, entryChars, hbetween, List.cons_append, List.append_assoc]
    have hskip : skip (entryChars f depth next (laterEntries f depth more ++ close)) =
        entryChars f depth next (laterEntries f depth more ++ close) := skip_cons (by decide)
    rw [hlater] at hfuel ⊢
    generalize entryChars f depth next (laterEntries f depth more ++ close) = others
      at hfuel hothers hskip ⊢
    -- as with items, each member leaves fewer characters
    have hlength : others.length <
        (entryChars f depth (.text name, d) (',' :: (blanks ++ others))).length := by
      simp only [entryChars, List.length_append, List.length_cons]
      omega
    refine members_next hname hd (ends_comma _) hfuel (skip_cons rfl) ?_
    rw [skip_append hblanks, hskip]
    exact hothers k (by omega)

/-! ## Whole values -/

/-- What stands behind the opening bracket of a list that is not empty is read as items. -/
theorem value_list {k : Nat} {cs start : List Char} {ds : List Data} {after : List Char}
    (hstart : skip cs = start) (hbegins : BeginsValue start)
    (hitems : items k start = .ok (ds, after)) :
    value (k + 1) ('[' :: cs) = .ok (.list ds, after) := by
  obtain ⟨c, rest, rfl, -, hc, -⟩ := hbegins
  simp only [value, hstart]
  split
  · next heq =>
    cases heq
    exact absurd rfl hc
  · rw [hitems]
    rfl

/-- What stands behind the opening brace of a mapping that is not empty is read as members. -/
theorem value_map {k : Nat} {cs rest : List Char} {es : List (Scalar × Data)} {after : List Char}
    (hstart : skip cs = '"' :: rest) (hmembers : members k ('"' :: rest) = .ok (es, after))
    (honce : Record.KeysOnce es) : value (k + 1) ('\x7b' :: cs) = .ok (.map es, after) := by
  simp only [value, hstart]
  split
  · next heq => cases heq
  · rw [hmembers, Except.map, Record.ofPairs_eq_self honce]

/-- A numeral begins with a digit or a minus sign, and with nothing else. -/
theorem intDigits_begins (n : Int) : ∃ c cs, Number.intDigits n = c :: cs ∧
    ∀ w : Char, w ≠ '-' → w.isDigit = false → c ≠ w := by
  unfold Number.intDigits
  split
  · -- the minus sign of a negative integer
    refine ⟨'-', _, rfl, ?_⟩
    rintro w hw - rfl
    exact hw rfl
  · -- the first digit of its amount
    obtain ⟨c, ds, hds, hc⟩ := head_natDigits n.natAbs
    refine ⟨c, ds, hds, ?_⟩
    rintro w - hw rfl
    rw [hc] at hw
    cases hw

/-- A scalar is read in one step. -/
theorem readsBack_of_scalar {f : Format} {s : Scalar} (hbegins : BeginsValue (scalarChars f s))
    (hvalue : ∀ k rest, Ends rest →
      value (k + 1) (scalarChars f s ++ rest) = .ok (.scalar s, rest)) :
    ReadsBack f (.scalar s) := by
  refine ⟨fun _ => hbegins, ?_⟩
  intro depth fuel rest hrest hfuel
  obtain ⟨k, rfl⟩ : ∃ k, fuel = k + 1 := ⟨fuel - 1, by omega⟩
  exact hvalue k rest hrest

/-- Integers that are not too long are read back. -/
theorem readsBack_int {f : Format} {n : Int} (hn : isTooLong n = false) :
    ReadsBack f (.int n) := by
  obtain ⟨c, cs, hcs, hc⟩ := intDigits_begins n
  refine readsBack_of_scalar ?_ ?_
  · refine ⟨c, cs, hcs, ?_, hc _ (by decide) (by decide), hc _ (by decide) (by decide)⟩
    simp [isSpace, hc]
  · intro k rest hrest
    have hplain := plainValue_intDigits hn hrest
    show value (k + 1) (Number.intDigits n ++ rest) = _
    -- the reader decides by the first character: a numeral is none of the three that open a text, a
    -- list or a mapping, so it is read as a plain value
    rw [← hplain, hcs, List.cons_append, value]
    · rintro rest' heq
      cases heq
      exact absurd rfl (hc '"' (by decide) (by decide))
    · rintro rest' heq
      cases heq
      exact absurd rfl (hc '[' (by decide) (by decide))
    · rintro rest' heq
      cases heq
      exact absurd rfl (hc '\x7b' (by decide) (by decide))

/-- Whole texts are read back. -/
theorem readsBack_text {f : Format} {s : String} (hs : IsWhole s) : ReadsBack f (.text s) := by
  refine readsBack_of_scalar ⟨_, _, rfl, by decide⟩ ?_
  intro k rest _
  show value (k + 1) (textChars f s ++ rest) = _
  simp only [textChars, List.cons_append, List.append_assoc, List.nil_append]
  rw [value, textBody_textChars f hs]
  simp only [Except.map, String.ofList_toList]

/-- Scalars are read back. -/
theorem readsBack_scalar {f : Format} {s : Scalar} (h : IsJsonScalar s)
    (hshort : ∀ n, s = .int n → isTooLong n = false) : ReadsBack f (.scalar s) := by
  cases h with
  | null => exact readsBack_of_scalar ⟨_, _, rfl, by decide⟩ fun _ _ _ => rfl
  | bool b =>
    cases b with
    | true => exact readsBack_of_scalar ⟨_, _, rfl, by decide⟩ fun _ _ _ => rfl
    | false => exact readsBack_of_scalar ⟨_, _, rfl, by decide⟩ fun _ _ _ => rfl
  | int n => exact readsBack_int (hshort n rfl)
  | text whole => exact readsBack_text whole

/-- Lists of what is read back are read back. -/
theorem readsBack_list {f : Format} {ds : List Data} (h : ∀ d ∈ ds, ReadsBack f d) :
    ReadsBack f (.list ds) := by
  cases ds with
  | nil =>
    -- nothing inside: both brackets stand side by side in either format
    refine ⟨fun _ => ⟨_, _, rfl, by decide⟩, ?_⟩
    intro depth fuel rest _ hfuel
    obtain ⟨k, rfl⟩ : ∃ k, fuel = k + 1 := ⟨fuel - 1, by omega⟩
    rfl
  | cons item others =>
    refine ⟨fun _ => ⟨_, _, rfl, by decide⟩, ?_⟩
    intro depth fuel rest _ hfuel
    obtain ⟨k, rfl⟩ : ∃ k, fuel = k + 1 := ⟨fuel - 1, by omega⟩
    obtain ⟨hends, hclose⟩ := closing f depth (Or.inl rfl) rest
    -- the items stand one level deeper than the list, and the closing bracket on its own level
    have hbegins := (h item List.mem_cons_self).begins (depth + 1)
    simp only [chars, listChars, List.cons_append, List.append_assoc, List.nil_append] at hfuel ⊢
    refine value_list ?_ (hbegins.append _) (items_readBack h hends hclose ?_)
    · rw [skip_append isSpace_of_mem_lineStart, hbegins.skip_append]
    · simp only [List.length_append, List.length_cons] at hfuel ⊢
      omega

/-- Mappings from whole texts to what is read back are read back. -/
theorem readsBack_map {f : Format} {entries : Record}
    (hkeys : ∀ e ∈ entries, ∃ name, e.1 = .text name ∧ IsWhole name) (honce : entries.KeysOnce)
    (h : ∀ e ∈ entries, ReadsBack f e.2) : ReadsBack f (.map entries) := by
  cases entries with
  | nil =>
    refine ⟨fun _ => ⟨_, _, rfl, by decide⟩, ?_⟩
    intro depth fuel rest _ hfuel
    obtain ⟨k, rfl⟩ : ∃ k, fuel = k + 1 := ⟨fuel - 1, by omega⟩
    rfl
  | cons entry others =>
    obtain ⟨key, d⟩ := entry
    refine ⟨fun _ => ⟨_, _, rfl, by decide⟩, ?_⟩
    intro depth fuel rest _ hfuel
    obtain ⟨k, rfl⟩ : ∃ k, fuel = k + 1 := ⟨fuel - 1, by omega⟩
    obtain ⟨hends, hclose⟩ := closing f depth (Or.inr rfl) rest
    -- the same with keys, where the first thing behind the brace is the quote of a key
    have hmembers := @members_readBack f (depth + 1) (key, d) others hkeys h _ _ hends hclose k
    have hchars : chars f depth (.map ((key, d) :: others)) ++ rest = '\x7b' ::
        (lineStart f (depth + 1) ++ entryChars f (depth + 1) (key, d)
          (laterEntries f (depth + 1) others ++ (lineStart f depth ++ '\x7d' :: rest))) := by
      simp only [chars, entryChars, List.cons_append, List.append_assoc, List.nil_append]
    rw [hchars] at hfuel ⊢
    refine value_map ?_ (hmembers ?_) honce
    · rw [skip_append isSpace_of_mem_lineStart]
      exact skip_cons (by decide)
    · simp only [List.length_append, List.length_cons] at hfuel ⊢
      omega

/-! ## Whole texts -/

/-- Items may be written when each of them may. -/
theorem faultInItems?_eq_none_iff {lenient : Bool} {ds : List Data} :
    faultInItems? lenient ds = none ↔ ∀ d ∈ ds, fault? lenient d = none := by
  induction ds with
  | nil => simp [faultInItems?]
  | cons d rest ih => simp [faultInItems?, ih]

/-- Entries may be written when each of their keys and values may. -/
theorem faultInEntries?_eq_none_iff {lenient : Bool} {entries : List (Scalar × Data)} :
    faultInEntries? lenient entries = none ↔
      ∀ e ∈ entries, scalarFault? (fun name => some (.key name)) e.1 = none ∧
        fault? lenient e.2 = none := by
  induction entries with
  | nil => simp [faultInEntries?]
  | cons entry rest ih => simp [faultInEntries?, ih, and_assoc]

/-- Every value with a JSON form is read back, if its integers may be written. -/
theorem readsBack {f : Format} {lenient : Bool} {d : Data} (h : IsJson d)
    (hfault : fault? lenient d = none) : ReadsBack f d := by
  induction h with
  | scalar hscalar =>
    -- an integer that is too long is a fault of the writer
    refine readsBack_scalar hscalar ?_
    rintro n rfl
    by_cases hlong : isTooLong n = true
    · rw [fault?, scalarFault?, if_pos hlong] at hfault
      cases hfault
    · exact eq_false_of_ne_true hlong
  | list _ ih =>
    rw [fault?, faultInItems?_eq_none_iff] at hfault
    exact readsBack_list fun d hd => ih d hd (hfault d hd)
  | map keys once _ ih =>
    rw [fault?, faultInEntries?_eq_none_iff] at hfault
    exact readsBack_map keys once fun e he => ih e he (hfault e he).2

/-- The characters of a value that is read back are read as the value. -/
theorem read_of_readsBack {f : Format} {d : Data} (h : ReadsBack f d) :
    read (String.ofList (chars f 0 d)) = .ok d := by
  obtain ⟨hbegins, hvalue⟩ := h
  -- the bound that the reader starts with is twice the length of the text and two more
  have hvalue := hvalue 0 (2 * (chars f 0 d).length + 2) [] (by simp [Ends]) (by simp)
  rw [List.append_nil] at hvalue
  have hskip := (hbegins 0).skip_append []
  rw [List.append_nil] at hskip
  obtain ⟨c, rest, hchars, -, -, hmark⟩ := hbegins 0
  -- nothing is left behind the value, and it does not begin with the mark that is refused
  have hdocument : document (chars f 0 d) = .ok d := by
    rw [hchars] at hvalue hskip ⊢
    have hnil : skip [] = [] := rfl
    rw [document, hskip, hvalue]
    · simp only [bind, Except.bind, hnil]
    · rintro rest' heq
      cases heq
      exact hmark rfl
  rw [read, String.toList_ofList, hdocument]
  rfl

/-- So are those of a value with a JSON form. -/
theorem read_chars (f : Format) {lenient : Bool} {d : Data} (h : IsJson d)
    (hfault : fault? lenient d = none) : read (String.ofList (chars f 0 d)) = .ok d :=
  read_of_readsBack (readsBack h hfault)

/-- **Written and read.**  What is written from a value with a JSON form is read as the value. -/
theorem read_write {f : Format} {d : Data} {s : String} (h : IsJson d)
    (hwrite : write f d = .ok s) : read s = .ok d := by
  unfold write at hwrite
  split at hwrite
  · cases hwrite
  · next hfault =>
    cases hwrite
    exact read_chars f h hfault

/-- So is what is written leniently: values with a JSON form are written in that form. -/
theorem read_writeLenient {f : Format} {d : Data} {s : String} (h : IsJson d)
    (hwrite : writeLenient f d = .ok s) : read s = .ok d := by
  unfold writeLenient at hwrite
  split at hwrite
  · cases hwrite
  · next hfault =>
    cases hwrite
    exact read_chars f h hfault

end Json

end NewsSearch
