import Mathlib.Tactic.Choose
import NewsSearch.Proofs.Json.Writing

/-!
Halves of pairs on the wire.

On the wire a character above `U+FFFF` is written as two escapes, one for each half of a pair.  A
text that holds the halves as two surrogates is written just the same, and what is read is the
character: such a text is not read back.  `joined` puts halves that stand one behind the other
together, and leaves everything else as it is.

1. The joined code points are written with the same characters (`escaped_joined`), because a
   character is written like the two halves of its pair (`escapedPoint_pair`), by arithmetic on its
   code.
2. The code points are read as the joined ones (`textBody_joined`).  Both inductions follow the
   cases of `joined`: a pair, a half with something else behind it, and anything else.  A pair is
   read as one character (`textBody_pair`), and everything else by itself (`textBody_point`).
3. The difficulty is a high half that stands alone.  The reader looks past it for the escape of a
   low half, and the induction needs to know that none is there: nothing but a low half is written
   as one (`NoLowEscape`).  What follows is the closing quote, a character, or a half that forms no
   pair (`noLowEscape_points`).
4. What holds of texts goes over to lists and mappings (`formed_rereads`), where every part is read
   as something that is written with the same characters (`ReadAs`).  The keys of mappings have to
   be whole texts, since two keys could become one otherwise.

So what is read from a text on the wire may be another value than was written, but it is written as
that text again.

Main statement: `write_reread`.
-/

namespace NewsSearch.Json

open Text

/-- The code points with halves that stand one behind the other as one character.  A high half takes
    only the low half directly behind it. -/
def joined : List CodePoint → List CodePoint
  | [] => []
  | .surrogate high :: .surrogate low :: rest =>
    if isHighHalf high && isLowHalf low then
      .ofCode (0x10000 + (high - 0xD800) * 0x400 + (low - 0xDC00)) :: joined rest
    else .surrogate high :: joined (.surrogate low :: rest)
  | p :: rest => p :: joined rest

/-! ## What is written

The writer takes the code points one by one and does not look at what is next to them, so that the
two texts can be compared code point by code point. -/

/-- A pair of halves has the code of a character, beyond the codes that are kept for halves and not
    above the largest one. -/
theorem ofCode_pair {high low : Nat} (hhigh : isHighHalf high = true)
    (hlow : isLowHalf low = true) :
    ∃ c : Char, c.toNat = 0x10000 + (high - 0xD800) * 0x400 + (low - 0xDC00) ∧
      CodePoint.ofCode (0x10000 + (high - 0xD800) * 0x400 + (low - 0xDC00)) = .char c := by
  simp only [isHighHalf, isLowHalf, Bool.and_eq_true, decide_eq_true_eq] at hhigh hlow
  generalize hcode : 0x10000 + (high - 0xD800) * 0x400 + (low - 0xDC00) = code
  have hvalid : code.isValidChar := by
    unfold Nat.isValidChar
    omega
  have hbeyond : ¬(0xd800 ≤ code ∧ code ≤ 0xdfff) := by omega
  refine ⟨Char.ofNat code, ?_, by rw [CodePoint.ofCode, if_neg hbeyond]⟩
  rw [Char.ofNat, dif_pos hvalid]
  rfl

/-- A character beyond ASCII is written by its code: none of the short escapes is for it. -/
theorem escapedChar_wire {c : Char} (hc : 126 < c.toNat) :
    escapedChar wire c = unicodeEscape c.toNat := by
  have hne {d : Char} (hd : d.toNat ≤ 126) : c ≠ d := by
    rintro rfl
    omega
  have hquote : c ≠ '"' := hne (by decide)
  have hescape : c ≠ '\\' := hne (by decide)
  have hline : c ≠ '\n' := hne (by decide)
  have hreturn : c ≠ '\r' := hne (by decide)
  have htab : c ≠ '\t' := hne (by decide)
  have hback : c.toNat ≠ 8 := by omega
  have hfeed : c.toNat ≠ 12 := by omega
  have hcontrol : ¬c.toNat < 32 := by omega
  simp [escapedChar, wire, hquote, hescape, hline, hreturn, htab, hback, hfeed, hcontrol, hc]

/-- **A character is written like the two halves of its pair**: the halves that the writer computes
    from its code are those that the code was put together from. -/
theorem escapedPoint_pair {high low : Nat} (hhigh : isHighHalf high = true)
    (hlow : isLowHalf low = true) :
    escapedPoint wire (.ofCode (0x10000 + (high - 0xD800) * 0x400 + (low - 0xDC00))) =
      escapedPoint wire (.surrogate high) ++ escapedPoint wire (.surrogate low) := by
  obtain ⟨c, hcode, hchar⟩ := ofCode_pair hhigh hlow
  rw [hchar]
  simp only [isHighHalf, isLowHalf, Bool.and_eq_true, decide_eq_true_eq] at hhigh hlow
  have hbeyond : ¬c.toNat < 0x10000 := by omega
  have hfirst : 0xD800 + (c.toNat - 0x10000) / 0x400 = high := by omega
  have hsecond : 0xDC00 + (c.toNat - 0x10000) % 0x400 = low := by omega
  have hunit : high < 0x10000 ∧ low < 0x10000 := by omega
  show escapedChar wire c = unicodeEscape high ++ unicodeEscape low
  rw [escapedChar_wire (by omega)]
  simp only [unicodeEscape, if_neg hbeyond, if_pos hunit.1, if_pos hunit.2, hfirst, hsecond]

/-- Joining does not change what is written on the wire. -/
theorem escaped_joined (ps : List CodePoint) :
    (joined ps).flatMap (escapedPoint wire) = ps.flatMap (escapedPoint wire) := by
  induction ps using joined.induct with
  | case1 => rfl
  | case2 high low rest hpair ih =>
    obtain ⟨hhigh, hlow⟩ := Bool.and_eq_true_iff.mp hpair
    rw [joined, if_pos hpair, List.flatMap_cons, escapedPoint_pair hhigh hlow, ih]
    simp only [List.flatMap_cons, List.append_assoc]
  | case3 high low rest hpair ih =>
    rw [joined, if_neg hpair, List.flatMap_cons, ih]
    rfl
  | case4 p rest hpair ih =>
    rw [joined]
    · rw [List.flatMap_cons, ih, List.flatMap_cons]
    · exact hpair

/-- The code points are still what they say: a joined pair is a character, and the others are
    unchanged. -/
theorem isProper_joined {ps : List CodePoint} (h : ∀ p ∈ ps, p.IsProper) :
    ∀ p ∈ joined ps, p.IsProper := by
  induction ps using joined.induct with
  | case1 => exact h
  | case2 high low rest hpair ih =>
    obtain ⟨hhigh, hlow⟩ := Bool.and_eq_true_iff.mp hpair
    obtain ⟨c, -, hchar⟩ := ofCode_pair hhigh hlow
    rw [joined, if_pos hpair, hchar]
    obtain ⟨-, hrest⟩ := List.forall_mem_cons.mp h
    exact List.forall_mem_cons.mpr ⟨trivial, ih (List.forall_mem_cons.mp hrest).2⟩
  | case3 high low rest hpair ih =>
    rw [joined, if_neg hpair]
    obtain ⟨hfirst, hrest⟩ := List.forall_mem_cons.mp h
    exact List.forall_mem_cons.mpr ⟨hfirst, ih hrest⟩
  | case4 p rest hpair ih =>
    rw [joined]
    · obtain ⟨hfirst, hrest⟩ := List.forall_mem_cons.mp h
      exact List.forall_mem_cons.mpr ⟨hfirst, ih hrest⟩
    · exact hpair

/-! ## What is read

The reader does look at what comes next, in one place: behind the escape of a high half. -/

/-- The characters do not begin with the escape of a low half. -/
def NoLowEscape (cs : List Char) : Prop :=
  ∀ a b c d rest, cs = '\\' :: 'u' :: a :: b :: c :: d :: rest →
    ∃ unit, hexValue? [a, b, c, d] = some unit ∧ isLowHalf unit = false

/-- What does not begin with a backslash does not begin with an escape. -/
theorem noLowEscape_cons {c : Char} (hc : c ≠ '\\') (rest : List Char) :
    NoLowEscape (c :: rest) := by
  rintro _ _ _ _ _ heq
  exact absurd (List.cons.inj heq).1 hc

/-- A short escape is none of a code. -/
theorem noLowEscape_short {c : Char} (hc : c ≠ 'u') (rest : List Char) :
    NoLowEscape ('\\' :: c :: rest) := by
  rintro _ _ _ _ _ heq
  exact absurd (List.cons.inj (List.cons.inj heq).2).1 hc

/-- The escape of another unit is none of a low half. -/
theorem noLowEscape_unit {unit : Nat} (hunit : unit < 0x10000) (hlow : isLowHalf unit = false)
    (rest : List Char) : NoLowEscape ('\\' :: 'u' :: hexDigits 4 unit ++ rest) := by
  obtain ⟨a, b, c, d, hdigits, hvalue⟩ := hexDigits_four hunit
  rw [hdigits]
  rintro _ _ _ _ _ heq
  cases heq
  exact ⟨unit, hvalue, hlow⟩

/-- A character is not written as a low half, and its first half is a high one. -/
theorem noLowEscape_code (c : Char) (rest : List Char) :
    NoLowEscape (unicodeEscape c.toNat ++ rest) := by
  have hvalid := toNat_not_half c
  unfold unicodeEscape
  split
  · next hunit =>
    refine noLowEscape_unit hunit ?_ rest
    rw [isLowHalf, Bool.and_eq_false_iff, decide_eq_false_iff_not, decide_eq_false_iff_not]
    omega
  · next hbeyond =>
    rw [List.append_assoc]
    refine noLowEscape_unit ?_ ?_ _
    · omega
    · rw [isLowHalf, Bool.and_eq_false_iff, decide_eq_false_iff_not, decide_eq_false_iff_not]
      omega

/-- A character, in whichever form the writer chooses for it, does not begin with the escape of a
    low half. -/
theorem noLowEscape_char (c : Char) (rest : List Char) :
    NoLowEscape (escapedChar wire c ++ rest) := by
  -- the cases are those of the writer
  unfold escapedChar
  split
  · exact noLowEscape_short (by decide) rest
  next _ =>
  split
  · exact noLowEscape_short (by decide) rest
  next hescape =>
  split
  · exact noLowEscape_short (by decide) rest
  split
  · exact noLowEscape_short (by decide) rest
  split
  · exact noLowEscape_short (by decide) rest
  split
  · exact noLowEscape_short (by decide) rest
  split
  · exact noLowEscape_short (by decide) rest
  split
  · exact noLowEscape_code c rest
  split
  · exact noLowEscape_code c rest
  · rw [CodePoint.written]
    split
    · exact noLowEscape_cons (by decide) _
    · exact noLowEscape_cons hescape _

/-- A surrogate is written as the escape of its code, which is read as it. -/
theorem unitChars_surrogate {code : Nat} (h : (CodePoint.surrogate code).IsProper) :
    escapedPoint wire (.surrogate code) = '\\' :: 'u' :: hexDigits 4 code ∧
      unitChars code = (CodePoint.surrogate code).written := by
  obtain ⟨hfirst, hlast⟩ : 0xd800 ≤ code ∧ code ≤ 0xdfff := h
  have hunit : code < 0x10000 := by omega
  constructor
  · show unicodeEscape code = _
    rw [unicodeEscape, if_pos hunit]
  · rw [unitChars, CodePoint.ofCode, if_pos ⟨hfirst, hlast⟩]

/-- A high half alone is read as one, when no low half follows.  The reader has looked at the six
    characters behind it, if there are as many, and goes back before them. -/
theorem textBody_high {opened high : Nat} (hunit : high < 0x10000) {next : Char} {rest : List Char}
    (hnext : NoLowEscape (next :: rest)) :
    textBody opened ('\\' :: 'u' :: hexDigits 4 high ++ next :: rest) =
      (textBody opened (next :: rest)).map fun (others, r) => (unitChars high ++ others, r) := by
  obtain ⟨a, b, c, d, hdigits, hvalue⟩ := hexDigits_four hunit
  simp only [hdigits, List.cons_append, List.nil_append]
  rw [textBody]
  simp only [hvalue]
  split
  · next e f g h last more _ =>
    obtain ⟨unit, hother, hlow⟩ := hnext e f g h (last :: more) rfl
    simp only [hother, hlow, Bool.false_eq_true, if_false]
  · rfl

section Points

variable {p : CodePoint} {ps : List CodePoint} (hps : ∀ q ∈ p :: ps, q.IsProper)
  (halone : ∀ high low rest, p = .surrogate high → ps = .surrogate low :: rest →
    (isHighHalf high && isLowHalf low) = false)
include hps halone

/-- What follows a high half that stands alone is not written as a low half. -/
theorem noLowEscape_points {high : Nat} (hp : p = .surrogate high) (hhigh : isHighHalf high = true)
    (after : List Char) : NoLowEscape (ps.flatMap (escapedPoint wire) ++ '"' :: after) := by
  cases ps with
  | nil => exact noLowEscape_cons (by decide) after
  | cons q rest =>
    rw [List.flatMap_cons, List.append_assoc]
    cases q with
    | char c => exact noLowEscape_char c _
    | surrogate low =>
      have hproper : (CodePoint.surrogate low).IsProper :=
        hps _ (List.mem_cons_of_mem p List.mem_cons_self)
      have hlow := halone high low rest hp rfl
      rw [hhigh, Bool.true_and] at hlow
      rw [(unitChars_surrogate hproper).1]
      have hrange : 0xd800 ≤ low ∧ low ≤ 0xdfff := hproper
      exact noLowEscape_unit (by omega) hlow _

/-- A code point that forms no pair with the next one is read by itself. -/
theorem textBody_point (opened : Nat) (after : List Char) :
    textBody opened ((p :: ps).flatMap (escapedPoint wire) ++ '"' :: after) =
      (textBody opened (ps.flatMap (escapedPoint wire) ++ '"' :: after)).map
        fun (others, r) => (p.written ++ others, r) := by
  have hne : ps.flatMap (escapedPoint wire) ++ '"' :: after ≠ [] := by simp
  obtain ⟨next, rest, hrest⟩ := List.exists_cons_of_ne_nil hne
  rw [List.flatMap_cons, List.append_assoc]
  cases hp : p with
  | char c =>
    rw [hrest]
    exact reads_escapedChar wire c next rest
  | surrogate code =>
    have hproper : (CodePoint.surrogate code).IsProper := hp ▸ hps p List.mem_cons_self
    have hrange : 0xd800 ≤ code ∧ code ≤ 0xdfff := hproper
    have hunit : code < 0x10000 := by omega
    obtain ⟨hescape, hchars⟩ := unitChars_surrogate hproper
    rw [hescape, ← hchars]
    cases hhigh : isHighHalf code with
    | true =>
      have hnext := noLowEscape_points hps halone hp hhigh after
      rw [hrest] at hnext ⊢
      exact textBody_high hunit hnext
    | false =>
      rw [hrest]
      exact reads_unit hunit hhigh next rest

end Points

/-- A pair of halves is read as one character, the one whose code they make. -/
theorem textBody_pair {high low : Nat} (hhigh : isHighHalf high = true)
    (hlow : isLowHalf low = true) {ps : List CodePoint}
    (hps : ∀ q ∈ .surrogate high :: .surrogate low :: ps, q.IsProper)
    (opened : Nat) (after : List Char) :
    textBody opened ((.surrogate high :: .surrogate low :: ps).flatMap (escapedPoint wire) ++
        '"' :: after) =
      (textBody opened (ps.flatMap (escapedPoint wire) ++ '"' :: after)).map fun (others, r) =>
        ((CodePoint.ofCode (0x10000 + (high - 0xD800) * 0x400 + (low - 0xDC00))).written ++ others,
          r) := by
  obtain ⟨hfirst, hothers⟩ := List.forall_mem_cons.mp hps
  obtain ⟨hsecond, -⟩ := List.forall_mem_cons.mp hothers
  have hne : ps.flatMap (escapedPoint wire) ++ '"' :: after ≠ [] := by simp
  obtain ⟨next, rest, hrest⟩ := List.exists_cons_of_ne_nil hne
  rw [List.flatMap_cons, List.flatMap_cons, (unitChars_surrogate hfirst).1,
    (unitChars_surrogate hsecond).1, ← List.append_assoc, List.append_assoc, hrest]
  exact reads_pair hhigh hlow next rest

/-- **A text is read as the joined one.**  By induction along `joined`: in the second case the
    reader takes two halves at once, in the third the first half forms no pair with the second, and
    in the last there are not two halves. -/
theorem textBody_joined (opened : Nat) (after : List Char) {ps : List CodePoint}
    (hps : ∀ p ∈ ps, p.IsProper) :
    textBody opened (ps.flatMap (escapedPoint wire) ++ '"' :: after) =
      .ok (ofCodePoints (joined ps), after) := by
  induction ps using joined.induct with
  | case1 => rfl
  | case2 high low rest hpair ih =>
    obtain ⟨hhigh, hlow⟩ := Bool.and_eq_true_iff.mp hpair
    obtain ⟨-, hothers⟩ := List.forall_mem_cons.mp hps
    rw [textBody_pair hhigh hlow hps, ih (List.forall_mem_cons.mp hothers).2, joined, if_pos hpair]
    rfl
  | case3 high low rest hpair ih =>
    rw [textBody_point hps, ih (List.forall_mem_cons.mp hps).2, joined, if_neg hpair]
    · rfl
    · rintro _ _ _ heq hothers
      cases heq
      cases hothers
      exact Bool.eq_false_iff.mpr hpair
  | case4 p rest hpair ih =>
    rw [textBody_point hps, ih (List.forall_mem_cons.mp hps).2, joined]
    · rfl
    · exact hpair
    · intro high low more hp hmore
      exact absurd hmore (hpair high low more hp)

/-- The text with halves that stand one behind the other as one character. -/
def joinedText (s : String) : String := textOf (joined (codePoints s.toList))

/-- A text is read as the joined one, which is written with the same characters. -/
theorem textChars_reread (s : String) :
    (∀ opened after, textBody opened
      ((codePoints s.toList).flatMap (escapedPoint wire) ++ '"' :: after) =
        .ok ((joinedText s).toList, after)) ∧
      textChars wire (joinedText s) = textChars wire s := by
  have hproper := isProper_of_mem_codePoints s.toList
  have hcodes : codePoints (joinedText s).toList = joined (codePoints s.toList) := by
    rw [joinedText, textOf, String.toList_ofList]
    exact codePoints_ofCodePoints (isProper_joined hproper)
  constructor
  · intro opened after
    rw [textBody_joined opened after hproper, joinedText, textOf, String.toList_ofList]
  · rw [textChars, hcodes, escaped_joined]
    rfl

/-! ## Values -/

/-- A value is read from its text on the wire as another one, which is written with the same
    characters. -/
structure ReadAs (d d' : Data) : Prop where
  reads : ReadsBack wire d'
  same : ∀ depth, chars wire depth d' = chars wire depth d
  writable : fault? false d' = none

/-- There is something that the value is read as. -/
def Rereads (d : Data) : Prop := ∃ d', ReadAs d d'

/-- A value that is read back is read as itself. -/
theorem rereads_of_isJson {d : Data} (h : IsJson d) (hfault : fault? false d = none) : Rereads d :=
  ⟨d, readsBack h hfault, fun _ => rfl, hfault⟩

/-- A text is read as the joined one. -/
theorem rereads_text (s : String) : Rereads (.text s) := by
  obtain ⟨hbody, hchars⟩ := textChars_reread s
  refine ⟨.text (joinedText s), readsBack_of_scalar ⟨_, _, rfl, by decide⟩ ?_, fun _ => hchars, rfl⟩
  intro k rest _
  show value (k + 1) (textChars wire (joinedText s) ++ rest) = _
  rw [hchars]
  simp only [textChars, List.cons_append, List.append_assoc, List.nil_append]
  rw [value, hbody]
  simp only [Except.map, String.ofList_toList]

/-- Items that are written with the same characters one by one are so together. -/
theorem laterItems_readAs {items : List Data} {g : Data → Data}
    (h : ∀ d ∈ items, ReadAs d (g d)) (depth : Nat) :
    laterItems wire depth (items.map g) = laterItems wire depth items := by
  induction items with
  | nil => rfl
  | cons d rest ih =>
    obtain ⟨hd, hrest⟩ := List.forall_mem_cons.mp h
    rw [List.map_cons, laterItems, laterItems, hd.same, ih hrest]

/-- A list is read as the list of what its items are read as. -/
theorem rereads_list {items : List Data} (h : ∀ d ∈ items, Rereads d) : Rereads (.list items) := by
  choose! g hg using h
  refine ⟨.list (items.map g), readsBack_list ?_, fun depth => ?_, ?_⟩
  · exact List.forall_mem_map.mpr fun d hd => (hg d hd).reads
  · cases items with
    | nil => rfl
    | cons d rest =>
      obtain ⟨hd, hrest⟩ := List.forall_mem_cons.mp hg
      simp only [chars, List.map_cons, listChars, hd.same, laterItems_readAs hrest]
  · rw [fault?, faultInItems?_eq_none_iff, List.forall_mem_map]
    exact fun d hd => (hg d hd).writable

/-- So are entries under the same keys. -/
theorem laterEntries_readAs {entries : Record} {g : Scalar × Data → Data}
    (h : ∀ e ∈ entries, ReadAs e.2 (g e)) (depth : Nat) :
    laterEntries wire depth (entries.map fun e => (e.1, g e)) =
      laterEntries wire depth entries := by
  induction entries with
  | nil => rfl
  | cons e rest ih =>
    obtain ⟨k, v⟩ := e
    obtain ⟨he, hrest⟩ := List.forall_mem_cons.mp h
    rw [List.map_cons, laterEntries, laterEntries, he.same, ih hrest]

/-- A mapping with whole keys is read as the mapping to what its values are read as.  Its keys are
    read as they are and stay different. -/
theorem rereads_map {entries : Record}
    (hkeys : ∀ e ∈ entries, ∃ name, e.1 = .text name ∧ IsWhole name) (honce : entries.KeysOnce)
    (h : ∀ e ∈ entries, Rereads e.2) : Rereads (.map entries) := by
  choose! g hg using h
  refine ⟨.map (entries.map fun e => (e.1, g e)), readsBack_map ?_ ?_ ?_, fun depth => ?_, ?_⟩
  · exact List.forall_mem_map.mpr hkeys
  · exact List.pairwise_map.mpr honce
  · exact List.forall_mem_map.mpr fun e he => (hg e he).reads
  · cases entries with
    | nil => rfl
    | cons e rest =>
      obtain ⟨k, v⟩ := e
      obtain ⟨he, hrest⟩ := List.forall_mem_cons.mp hg
      simp only [chars, List.map_cons, he.same, laterEntries_readAs hrest]
  · rw [fault?, faultInEntries?_eq_none_iff, List.forall_mem_map]
    intro e he
    obtain ⟨name, hname, -⟩ := hkeys e he
    rw [hname]
    exact ⟨rfl, (hg e he).writable⟩

/-- **What is built from texts, truth values, lists and mappings is read again as something that is
    written with the same characters.** -/
theorem formed_rereads : Formed Rereads :=
  ⟨fun {s} _ => rereads_text s, fun b => rereads_of_isJson (.scalar (.bool b)) rfl, rereads_list,
    rereads_map⟩

/-- What is read from the text of such a value is written as that text.  Nothing is said about the
    value itself. -/
theorem write_reread {d : Data} (h : Rereads d) {text : String} (hwrite : write wire d = .ok text) :
    ∃ d', read text = .ok d' ∧ write wire d' = .ok text := by
  obtain ⟨d', hreads, hsame, hwritable⟩ := h
  have htext : text = String.ofList (chars wire 0 d') := by
    unfold write at hwrite
    split at hwrite
    · cases hwrite
    · rw [hsame 0]
      exact (Except.ok.inj hwrite).symm
  refine ⟨d', ?_, ?_⟩
  · rw [htext]
    exact read_of_readsBack hreads
  · rw [write, hwritable, htext]

end NewsSearch.Json
