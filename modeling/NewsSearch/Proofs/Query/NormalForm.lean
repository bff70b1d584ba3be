import Mathlib.Data.List.Basic
import NewsSearch.Proofs.Query.Evaluation
import NewsSearch.Proofs.Query.RoundTrip
import NewsSearch.Proofs.Query.Vocabulary

/-!
Normal forms of query trees.

A tree may combine a single part, and a combination of a single part says nothing that the part does
not say.  `Node.normalize` removes such combinations, and this file shows that they are all there is
to remove: the normal form keeps everything that a tree is good for, and two trees that differ in
more are told apart by what is sent for them.

`Node.isNormal` says without `normalize` what a tree in normal form is, and `Node.fromParts` is the
induction that all statements about trees here go by: over the conditions, the combinations in
either mode, and the negations.  It treats both modes alike, so no argument is made twice.

1. Every tree gets a normal form, which stays as it is (`isNormal_normalize`, `normalize_eq_self`).
   The only case with something to show is a combination.  Its parts are normalised and joined, and
   joining looks at whether there is one part (`isNormal_joined`, `normalize_joined`).
2. The normal form is written like the tree (`document_normalize`), since the object of a
   combination of one part is that of the part.  It has the same conditions (`conditions_normalize`)
   and the same meaning (`holds_normalize`).
3. Different normal forms whose conditions pass their check are written differently
   (`Canonical.eq_of_same`).  This is an induction over one of the two trees.  The keys of an object
   tell conditions, combinations and negations apart, because no field and no modifier is written
   under an operator (`IsChecked.find?_operator`), and within one kind the parts are compared.

In the third step objects are compared as the service may compare them: entries may stand in another
order, and a truth value counts as the number that it is.  That is why the values of fields and of
modifiers have to be looked at (`Field.Sends.eq_of_same`, `AllowedModifier.eq_of_same`).  Were a
modifier allowed to be a number as well as a truth value, two conditions could be written the same.

Main statement: `normalize_canonical`.
-/

namespace NewsSearch

open ParsedDocument

namespace Node

/-! ## Induction over trees

A tree is a condition, a combination in a mode, or a negation.  The definitions treat the two modes
as constructors of their own; the lemmas here join them under one. -/

/-- **Induction over trees.**  A property that goes from the parts of a tree to the tree is one of
    every tree. -/
theorem fromParts {P : Node → Prop} (condition : ∀ c, P (.condition c))
    (combination : ∀ mode ns, (∀ n ∈ ns, P n) → P (combination mode ns))
    (not : ∀ n, P n → P (.not n)) (n : Node) : P n := by
  refine @Node.rec P (fun ns => ∀ n ∈ ns, P n) condition (combination .all) (combination .any) not
    ?_ ?_ n
  · exact fun _ hn => absurd hn List.not_mem_nil
  · exact fun _ _ hn hrest => List.forall_mem_cons.mpr ⟨hn, hrest⟩

variable {mode : Mode} {ns : List Node}

/-- A combination is normalised by normalising its parts and joining them. -/
theorem normalize_combination (mode : Mode) (ns : List Node) :
    (combination mode ns).normalize = joined mode (ns.map normalize) := by
  rw [← normalizeEach_eq_map]
  cases mode <;> rfl

/-- Its conditions are those of its parts. -/
theorem conditions_combination (mode : Mode) (ns : List Node) :
    (combination mode ns).conditions = conditionsOf ns := by
  cases mode <;> rfl

/-- It holds when its parts do in its mode. -/
theorem holds_combination (truth : Truth) (mode : Mode) (ns : List Node) :
    (combination mode ns).holds truth = mode.combine (ns.map (holds truth)) := by
  rw [← holdsEach_eq_map]
  cases mode <;> rfl

/-- Trees that are not a single one make a combination. -/
theorem joined_of_length_ne_one (mode : Mode) (h : ns.length ≠ 1) :
    joined mode ns = combination mode ns := by
  match ns with
  | [] => cases mode <;> rfl
  | [_] => exact absurd rfl h
  | _ :: _ :: _ => cases mode <;> rfl

/-- A combination that is not of a single part is an operator over the objects of its parts. -/
theorem document_combination (mode : Mode) (h : ns.length ≠ 1) :
    (combination mode ns).document = [(.text (groupKey mode), .list (documents ns))] := by
  match ns with
  | [] => cases mode <;> rfl
  | [_] => exact absurd rfl h
  | _ :: _ :: _ => exact document_group

/-! ## Trees in which every combination has a part -/

/-- Trees are proper when each of them is. -/
theorem areProper_iff {ns : List Node} : areProper ns = true ↔ ∀ n ∈ ns, n.isProper = true := by
  induction ns with
  | nil => simp [areProper]
  | cons n rest ih => simp [areProper, ih]

/-- A combination is proper when it has parts and they are. -/
theorem isProper_combination_iff :
    (combination mode ns).isProper = true ↔ ns ≠ [] ∧ ∀ n ∈ ns, n.isProper = true := by
  rw [← areProper_iff]
  cases mode <;> simp [combination, isProper]

/-- Proper trees joined are a proper tree, if there is one. -/
theorem isProper_joined (mode : Mode) {ns : List Node} (hne : ns ≠ [])
    (h : ∀ n ∈ ns, n.isProper = true) : (joined mode ns).isProper = true := by
  match ns, hne with
  | [n], _ =>
    have hn := h n List.mem_cons_self
    cases mode <;> exact hn
  | a :: b :: rest, hne => exact isProper_combination_iff.mpr ⟨hne, h⟩

/-! ## Trees in normal form

A combination in a normal form has no part or several.  One without parts cannot be left out: it
holds always or never, depending on its mode. -/

mutual

/-- Whether no combination in the tree has a single part. -/
def isNormal : Node → Bool
  | .condition _ => true
  | .all children => children.length != 1 && areNormal children
  | .any children => children.length != 1 && areNormal children
  | .not child => child.isNormal

/-- Whether no combination in the trees has a single part. -/
def areNormal : List Node → Bool
  | [] => true
  | child :: rest => child.isNormal && areNormal rest

end

/-- Trees are in normal form when each of them is. -/
theorem areNormal_iff {ns : List Node} : areNormal ns = true ↔ ∀ n ∈ ns, n.isNormal = true := by
  induction ns with
  | nil => simp [areNormal]
  | cons n rest ih => simp [areNormal, ih]

/-- A combination is in normal form when its parts are and it has not just one. -/
theorem isNormal_combination_iff :
    (combination mode ns).isNormal = true ↔ ns.length ≠ 1 ∧ ∀ n ∈ ns, n.isNormal = true := by
  rw [← areNormal_iff]
  cases mode <;> simp [combination, isNormal]

/-- Trees in normal form are joined to one in normal form. -/
theorem isNormal_joined (mode : Mode) (h : ∀ n ∈ ns, n.isNormal = true) :
    (joined mode ns).isNormal = true := by
  by_cases hone : ns.length = 1
  · obtain ⟨n, rfl⟩ := List.length_eq_one_iff.mp hone
    have hn := h n List.mem_cons_self
    cases mode <;> exact hn
  · rw [joined_of_length_ne_one mode hone]
    exact isNormal_combination_iff.mpr ⟨hone, h⟩

/-- What `normalize` gives is in normal form. -/
theorem isNormal_normalize (n : Node) : n.normalize.isNormal = true := by
  induction n using fromParts with
  | condition c => rfl
  | not n ih => exact ih
  | combination mode ns ih =>
    rw [normalize_combination]
    exact isNormal_joined mode (List.forall_mem_map.mpr ih)

/-- Trees that stay as they are do so one by one. -/
theorem normalizeEach_eq_self {nodes : List Node} (h : ∀ n ∈ nodes, n.normalize = n) :
    normalizeEach nodes = nodes := by
  rw [normalizeEach_eq_map]
  exact (List.map_congr_left h).trans (List.map_id' nodes)

/-- What they are joined to stays as it is too: it is the one tree, or a combination of several. -/
theorem normalize_joined (mode : Mode) {nodes : List Node} (h : ∀ n ∈ nodes, n.normalize = n) :
    (joined mode nodes).normalize = joined mode nodes := by
  by_cases hone : nodes.length = 1
  · obtain ⟨n, rfl⟩ := List.length_eq_one_iff.mp hone
    have hn := h n List.mem_cons_self
    cases mode <;> exact hn
  · rw [joined_of_length_ne_one mode hone, normalize_combination, ← normalizeEach_eq_map,
      normalizeEach_eq_self h, joined_of_length_ne_one mode hone]

/-- A tree in normal form stays as it is. -/
theorem normalize_eq_self {n : Node} (h : n.isNormal = true) : n.normalize = n := by
  induction n using fromParts with
  | condition c => rfl
  | not n ih => exact congrArg Node.not (ih h)
  | combination mode ns ih =>
    obtain ⟨hone, hparts⟩ := isNormal_combination_iff.mp h
    rw [← joined_of_length_ne_one mode hone]
    exact normalize_joined mode fun n hn => ih n hn (hparts n hn)

/-! ## What the normal form keeps

Each of these is an induction over trees, where the case of a combination says that joining makes no
difference to what is kept. -/

/-- A combination is written as its parts are, whether a single part stands for itself or not. -/
theorem document_joined (mode : Mode) {ms : List Node} (h : documents ms = documents ns) :
    (joined mode ms).document = (combination mode ns).document := by
  have hlength : ms.length = ns.length := by
    simpa [documents_eq_map] using congrArg List.length h
  by_cases hone : ns.length = 1
  · obtain ⟨n, rfl⟩ := List.length_eq_one_iff.mp hone
    obtain ⟨m, rfl⟩ := List.length_eq_one_iff.mp (hlength.trans hone)
    have hpart : m.document = n.document := by simpa [documents] using h
    have hjoined : joined mode [m] = m := by cases mode <;> rfl
    rw [hjoined, document_combination_singleton, hpart]
  · have hone' : ms.length ≠ 1 := hlength ▸ hone
    rw [joined_of_length_ne_one mode hone', document_combination mode hone',
      document_combination mode hone, h]

/-- The normal form of a tree is written as the tree is. -/
theorem document_normalize (n : Node) : n.normalize.document = n.document := by
  induction n using fromParts with
  | condition c => rfl
  | not n ih => rw [normalize, document, document, ih]
  | combination mode ns ih =>
    have hparts : documents (ns.map normalize) = documents ns := by
      rw [documents_eq_map, documents_eq_map, List.map_map]
      exact List.map_congr_left fun n hn => congrArg Data.map (ih n hn)
    rw [normalize_combination]
    exact document_joined mode hparts

/-- The normal form has the conditions of the tree, in the same order. -/
theorem conditions_normalize (n : Node) : n.normalize.conditions = n.conditions := by
  induction n using fromParts with
  | condition c => rfl
  | not n ih => exact ih
  | combination mode ns ih =>
    rw [normalize_combination, conditions_joined, conditions_combination, conditionsOf_eq_flatMap,
      conditionsOf_eq_flatMap, List.flatMap_map]
    exact List.flatMap_congr ih

/-- The normal form holds whenever the tree does. -/
theorem holds_normalize (truth : Truth) (n : Node) :
    n.normalize.holds truth = n.holds truth := by
  induction n using fromParts with
  | condition c => rfl
  | not n ih => exact congrArg Bool.not ih
  | combination mode ns ih =>
    rw [normalize_combination, holds_joined, holds_combination, List.map_map]
    exact congrArg mode.combine (List.map_congr_left ih)

end Node

/-! ## Values that count as the same

Objects that count as the same have the same entries, in any order, and values that count as the
same under each key.  A truth value counts as the same as the number 0 or 1. -/

namespace Data

/-- The same mappings have the same values under the keys of the first. -/
theorem find?_of_same {r s : Record} (h : (Data.map r).same (.map s) = true) :
    ∀ e ∈ r, ∃ w, s.find? e.1 = some w ∧ e.2.same w = true := by
  rw [same, Bool.and_eq_true] at h
  replace h := h.2
  induction r with
  | nil => exact fun e he => absurd he List.not_mem_nil
  | cons first rest ih =>
    rw [sameEntries, Bool.and_eq_true] at h
    refine List.forall_mem_cons.mpr ⟨?_, ih h.2⟩
    cases hfound : s.find? first.1 with
    | none => simp [hfound] at h
    | some w => exact ⟨w, rfl, by simpa [hfound] using h.1⟩

/-- The same mappings have equally many entries. -/
theorem length_of_same {r s : Record} (h : (Data.map r).same (.map s) = true) :
    r.length = s.length := by
  rw [same, Bool.and_eq_true] at h
  simpa using h.1

/-- An object with one entry is the same as another one only if they have one key and values that
    are the same. -/
theorem same_single {k l : String} {d d' : Data}
    (h : (Data.map [(.text k, d)]).same (.map [(.text l, d')]) = true) :
    k = l ∧ d.same d' = true := by
  obtain ⟨w, hw, hsame⟩ := find?_of_same h _ (List.mem_singleton.mpr rfl)
  by_cases heq : l = k <;> simp_all [Record.find?]

end Data

/-- Values that are sent for fields are equal when they count as the same.  They are texts and
    integers, and neither counts as the same as anything else of these. -/
theorem Field.Sends.eq_of_same {f g : Field} {s t : Scalar} {v w : Data} (hv : f.Sends s v)
    (hw : g.Sends t w) (h : v.same w = true) : v = w := by
  cases hv <;> cases hw <;> simp_all [Data.same, Scalar.same, Scalar.integer?]

/-- A modifier has a text or a truth value. -/
theorem AllowedModifier.text_or_bool {name : String} {v : Data} (h : AllowedModifier name v) :
    (∃ s, v = .text s) ∨ ∃ b, v = .bool b := by
  cases h with
  | location _ => exact Or.inl ⟨_, rfl⟩
  | subcategories b => exact Or.inr ⟨b, rfl⟩

/-- Values of modifiers are equal when they count as the same. -/
theorem AllowedModifier.eq_of_same {name other : String} {v w : Data} (hv : AllowedModifier name v)
    (hw : AllowedModifier other w) (h : v.same w = true) : v = w := by
  rcases hv.text_or_bool with ⟨s, rfl⟩ | ⟨b, rfl⟩ <;>
    rcases hw.text_or_bool with ⟨t, rfl⟩ | ⟨c, rfl⟩
  · simpa [Data.same] using h
  · simp [Data.same, Scalar.same, Scalar.integer?] at h
  · simp [Data.same, Scalar.same, Scalar.integer?] at h
  · cases b <;> cases c <;> first | rfl | exact absurd h (by decide)

/-! ## Conditions and operators

The object of a condition has its field as a key and perhaps its modifier.  Both are found again by
looking under the key of the field. -/

/-- The keys under which combinations and negations are written. -/
def IsOperator (key : String) : Prop := key = notKey ∨ ∃ mode, key = groupKey mode

/-- No field and no modifier is written under an operator. -/
theorem IsOperator.not_mem {key : String} (h : IsOperator key) :
    key ∉ Field.modifierNames ∧ ∀ f ∈ Field.vocabulary, f.key ≠ key := by
  have hnot : notKey ∉ Field.modifierNames ∧ ∀ f ∈ Field.vocabulary, f.key ≠ notKey := by decide
  have hgroup : ∀ mode, ∀ f ∈ Field.vocabulary, f.key ≠ groupKey mode := by
    intro mode
    cases mode <;> decide
  rcases h with rfl | ⟨mode, rfl⟩
  · exact hnot
  · exact ⟨groupKey_not_modifier mode, hgroup mode⟩

namespace Condition

variable {c e : Condition} {key : String}

/-- A condition has nothing under an operator. -/
theorem IsChecked.find?_operator (hc : c.IsChecked) (hkey : IsOperator key) :
    c.document.find? (.text key) = none := by
  obtain ⟨hmodifier, hfields⟩ := hkey.not_mem
  obtain ⟨f, hf, hfield, -, ⟨-, hdocument⟩ | ⟨name, v, hname, -, -, hdocument⟩⟩ := hc.document_cases
  · have hne := hfields f hf
    rw [hdocument, ← hfield]
    simp [Record.find?, hne]
  · have hne := hfields f hf
    have hne' : name ≠ key := by
      rintro rfl
      exact hmodifier (Field.mem_modifierNames hf hname)
    rw [hdocument, ← hfield]
    simp [Record.find?, hne, hne']

/-- What a condition has under a field is its own value. -/
theorem IsChecked.find?_field {f : Field} (hc : c.IsChecked) (hf : f ∈ Field.vocabulary) {w : Data}
    (h : c.document.find? (.text f.key) = some w) : f.key = c.field ∧ w = c.value := by
  obtain ⟨g, hg, hfield, -, ⟨-, hdocument⟩ | ⟨name, v, hname, -, -, hdocument⟩⟩ := hc.document_cases
  · rw [hdocument] at h
    by_cases heq : c.field = f.key <;> simp_all [Record.find?]
  · have hne : name ≠ f.key := (Field.key_ne_modifier hf (Field.mem_modifierNames hg hname)).symm
    rw [hdocument] at h
    by_cases heq : c.field = f.key <;> simp_all [Record.find?]

/-- A condition has its value under its field. -/
theorem IsChecked.mem_document (hc : c.IsChecked) : (.text c.field, c.value) ∈ c.document := by
  obtain ⟨f, hf, hfield, -, ⟨-, h⟩ | ⟨name, v, -, -, -, h⟩⟩ := hc.document_cases <;>
    exact h ▸ List.mem_cons_self

/-- No condition is written like an operator. -/
theorem IsChecked.not_same_operator (hc : c.IsChecked) (hkey : IsOperator key) (d : Data) :
    (Data.map c.document).same (.map [(.text key, d)]) = false := by
  refine eq_false_of_ne_true fun hsame => ?_
  obtain ⟨f, hf, hfield, -⟩ := hc.document_cases
  obtain ⟨w, hw, -⟩ := Data.find?_of_same hsame _ hc.mem_document
  have hne : key ≠ c.field := fun heq => (hkey.not_mem.2 f hf) (hfield.trans heq.symm)
  simp [Record.find?, hne] at hw

/-- No operator is written like a condition. -/
theorem IsChecked.operator_not_same (hc : c.IsChecked) (hkey : IsOperator key) (d : Data) :
    (Data.map [(.text key, d)]).same (.map c.document) = false := by
  refine eq_false_of_ne_true fun hsame => ?_
  obtain ⟨w, hw, -⟩ := Data.find?_of_same hsame _ (List.mem_singleton.mpr rfl)
  rw [hc.find?_operator hkey] at hw
  cases hw

/-- **Conditions are told apart.**  Conditions are equal when their objects count as the same.  The
    field of the one is a key of the other, which can only be its field; then the values under it
    agree, and the number of entries says whether both have a modifier. -/
theorem IsChecked.eq_of_same (hc : c.IsChecked) (he : e.IsChecked)
    (h : (Data.map c.document).same (.map e.document) = true) : c = e := by
  obtain ⟨f, hf, hfield, ⟨_, hsends⟩, hdocument⟩ := hc.document_cases
  obtain ⟨g, hg, hfield', ⟨_, hsends'⟩, hdocument'⟩ := he.document_cases
  -- the field of the one is found in the other
  obtain ⟨w, hw, hsame⟩ := Data.find?_of_same h _ hc.mem_document
  obtain ⟨hkey, rfl⟩ := he.find?_field hf (hfield ▸ hw)
  have hvalue : c.value = e.value := hsends.eq_of_same hsends' hsame
  have heq : f = g := by
    have hkeys := Field.ofKey?_key f hf
    rw [hkey, ← hfield', Field.ofKey?_key g hg] at hkeys
    exact (Option.some.inj hkeys).symm
  subst heq
  have hlength := Data.length_of_same h
  have hmodifiers : c.modifiers = e.modifiers := by
    rcases hdocument with ⟨hnil, hone⟩ | ⟨name, v, hname, hallowed, hmodifiers, htwo⟩ <;>
      rcases hdocument' with ⟨hnil', hone'⟩ | ⟨name', v', hname', hallowed', hmodifiers', htwo'⟩
    · rw [hnil, hnil']
    · simp [hone, htwo'] at hlength
    · simp [htwo, hone'] at hlength
    · -- both have the modifier of the field, whose values are found under its name
      obtain rfl : name = name' := Option.some.inj (hname.symm.trans hname')
      have hne : e.field ≠ name := by
        rw [← hkey]
        exact Field.key_ne_modifier hf (Field.mem_modifierNames hf hname)
      obtain ⟨u, hu, hsameModifier⟩ := Data.find?_of_same h (.text name, v) (by simp [htwo])
      obtain rfl : v' = u := by simpa [htwo', Record.find?, hne] using hu
      rw [hmodifiers, hmodifiers', hallowed.eq_of_same hallowed' hsameModifier]
  cases c
  cases e
  simp_all

end Condition

namespace Node

/-! ## Canonical trees -/

/-- **Canonical trees**: trees in normal form whose conditions pass their check. -/
inductive Canonical : Node → Prop
  | condition {c : Condition} (checked : c.IsChecked) : Canonical (.condition c)
  | group {mode : Mode} {ns : List Node} (notSingle : ns.length ≠ 1)
      (each : ∀ n ∈ ns, n.Canonical) : Canonical (combination mode ns)
  | not {n : Node} (child : n.Canonical) : Canonical (.not n)

/-- The normal form of a tree of checked conditions is canonical. -/
theorem canonical_normalize {n : Node} (hchecked : ∀ c ∈ n.conditions, c.IsChecked) :
    n.normalize.Canonical := by
  induction n using fromParts with
  | condition c => exact .condition (hchecked c List.mem_cons_self)
  | not n ih => exact .not (ih hchecked)
  | combination mode ns ih =>
    rw [conditions_combination, conditionsOf_eq_flatMap, List.forall_mem_flatMap] at hchecked
    have hcanonical : ∀ m ∈ ns.map normalize, m.Canonical :=
      List.forall_mem_map.mpr fun n hn => ih n hn (hchecked n hn)
    rw [normalize_combination]
    by_cases hone : ns.length = 1
    · obtain ⟨n, rfl⟩ := List.length_eq_one_iff.mp hone
      have hn := hcanonical n.normalize List.mem_cons_self
      cases mode <;> exact hn
    · have hone' : (ns.map normalize).length ≠ 1 := by rwa [List.length_map]
      rw [joined_of_length_ne_one mode hone']
      exact .group hone' hcanonical

/-- Lists of trees are equal when their objects count as the same and the trees of the one are told
    from those of the other. -/
theorem eq_of_sameItems {ns ms : List Node}
    (hns : ∀ n ∈ ns, ∀ m ∈ ms, (Data.map n.document).same (.map m.document) = true → n = m)
    (h : Data.sameItems (documents ns) (documents ms) = true) : ns = ms := by
  induction ns generalizing ms with
  | nil =>
    cases ms with
    | nil => rfl
    | cons m _ => simp [documents, Data.sameItems] at h
  | cons n rest ih =>
    cases ms with
    | nil => simp [documents, Data.sameItems] at h
    | cons m others =>
      rw [documents, documents, Data.sameItems, Bool.and_eq_true] at h
      have hfirst := hns n List.mem_cons_self m List.mem_cons_self h.1
      have hrest := ih (fun n hn m hm => hns n (List.mem_cons_of_mem _ hn) m
        (List.mem_cons_of_mem _ hm)) h.2
      rw [hfirst, hrest]

/-- **Canonical trees are told apart.**  They are equal when their documents count as the same.  The
    induction is on the first tree; the second one may be of any kind, and unless the kinds agree
    the keys of the objects do not. -/
theorem Canonical.eq_of_same {a b : Node} (ha : a.Canonical) (hb : b.Canonical)
    (h : (Data.map a.document).same (.map b.document) = true) : a = b := by
  have hnotKey : IsOperator notKey := Or.inl rfl
  have hgroupKey (mode : Mode) : IsOperator (groupKey mode) := Or.inr ⟨mode, rfl⟩
  have hapart : ∀ mode, groupKey mode ≠ notKey := by
    intro mode
    cases mode <;> decide
  induction ha generalizing b with
  | @condition c hc =>
    cases hb with
    | condition he => exact congrArg Node.condition (hc.eq_of_same he h)
    | @group mode ns hsingle _ =>
      rw [document, document_combination mode hsingle, hc.not_same_operator (hgroupKey mode)] at h
      cases h
    | not _ =>
      rw [document, document, hc.not_same_operator hnotKey] at h
      cases h
  | @group mode ns hsingle _ ih =>
    rw [document_combination mode hsingle] at h
    cases hb with
    | condition he =>
      rw [document, he.operator_not_same (hgroupKey mode)] at h
      cases h
    | @group mode' ms hsingle' heach' =>
      rw [document_combination mode' hsingle'] at h
      obtain ⟨hkey, hitems⟩ := Data.same_single h
      have hmode : mode = mode' := by
        cases mode <;> cases mode' <;> first | rfl | exact absurd hkey (by decide)
      have hparts : ns = ms :=
        eq_of_sameItems (fun n hn m hm => ih n hn (heach' m hm)) (by simpa [Data.same] using hitems)
      rw [hmode, hparts]
    | not _ =>
      rw [document] at h
      exact absurd (Data.same_single h).1 (hapart mode)
  | @not n _ ih =>
    rw [document] at h
    cases hb with
    | condition he =>
      rw [document, he.operator_not_same hnotKey] at h
      cases h
    | @group mode ms hsingle _ =>
      rw [document_combination mode hsingle] at h
      exact absurd (Data.same_single h).1.symm (hapart mode)
    | not hchild =>
      rw [document] at h
      exact congrArg Node.not (ih hchild (Data.same_single h).2)

end Node

/-! ## The normal form is canonical -/

/-- **Normal forms.**  The normal form of any tree has no combination of a single part, stays as it
    is, is written as the tree is, keys in order, has its conditions in order, and holds whenever it
    does.  Trees whose conditions pass their check are written the same, even up to the order of
    keys and to which values count as the same, only if they have one normal form. -/
theorem normalize_canonical :
    (∀ n : Node, n.normalize.isNormal = true ∧ n.normalize.normalize = n.normalize ∧
      n.normalize.document = n.document ∧ n.normalize.conditions = n.conditions ∧
      ∀ truth, n.normalize.holds truth = n.holds truth) ∧
    ∀ a b : Node, (∀ c ∈ a.conditions, c.IsChecked) → (∀ c ∈ b.conditions, c.IsChecked) →
      (Data.map a.document).same (.map b.document) = true → a.normalize = b.normalize := by
  constructor
  · intro n
    have hnormal := n.isNormal_normalize
    exact ⟨hnormal, Node.normalize_eq_self hnormal, n.document_normalize, n.conditions_normalize,
      fun truth => n.holds_normalize truth⟩
  · intro a b ha hb h
    have ha := Node.canonical_normalize ha
    have hb := Node.canonical_normalize hb
    rw [← a.document_normalize, ← b.document_normalize] at h
    exact ha.eq_of_same hb h

/-- Two trees that differ in their combinations of a single part, under a negation and around it,
    are written the same and have one normal form. -/
theorem normalize_canonical_layers :
    let keyword : Condition := ⟨"keyword", .text "flood", [(keywordLocation, .text "title")]⟩
    let language : Condition := ⟨"lang", .text "eng", []⟩
    let a : Node := .all [.any [.all [.condition keyword]], .not (.any [.condition language])]
    let b : Node := .any [.all [.condition keyword, .any [.not (.all [.condition language])]]]
    (Data.map a.document).same (.map b.document) = true ∧ a.normalize = b.normalize := by
  intro keyword language a b
  have hkeyword : keyword.IsChecked := Condition.isChecked_of rfl rfl rfl (by decide)
  have hlanguage : language.IsChecked := Condition.isChecked_of rfl rfl rfl (by decide)
  have hboth : ∀ c ∈ [keyword, language], c.IsChecked :=
    List.forall_mem_cons.mpr ⟨hkeyword, List.forall_mem_singleton.mpr hlanguage⟩
  have hsame : (Data.map a.document).same (.map b.document) = true := by decide
  exact ⟨hsame, normalize_canonical.2 a b hboth hboth hsame⟩

end NewsSearch
