import NewsSearch.Proofs.Calendar.WrittenDay
import NewsSearch.Proofs.Query.RegularSearch

/-!
Where the values of conditions come from.

No condition asks for a value that was not given.  What it asks for is sent for a scalar, and this
scalar stands in the document of the search, or it is one of the values of a parameter
(`Condition.SendsFrom`).  So a property of all that is given is one of all that conditions are made
for.

1. Over a document that is by induction on the grammar (`Grammar.Object.sendsFrom`): an object is
   read from its entries, and the values under a field are scalars of what stands there
   (`Grammar.Item.forall_values`).
2. For parameters it follows from what the trees of a flat search are made of
   (`Flat.sendsFrom_of_compile`).
3. One such property matters here.  What is sent for a text is the text without the blanks around
   it, and a day is written in digits: when the texts that are given are whole, so are those in the
   conditions (`Condition.SendsFrom.isWhole`).

Nothing counts as a value too, since a parameter that is not given is read as null; so null has to
have the property.

Main statements: `Search.sendsFrom_of_ofAllParams`, `Search.sendsFrom_of_ofExplicit`.
-/

namespace NewsSearch

open Text

variable {K V : Scalar → Prop}

/-- What the condition asks for is sent for a scalar that has the property. -/
def Condition.SendsFrom (V : Scalar → Prop) (c : Condition) : Prop :=
  ∃ (f : Field) (s : Scalar), f.Sends s c.value ∧ V s

/-- The conditions that are made for scalars ask for these. -/
theorem sendsFrom_joined {f : Field} {values : List Scalar} {sent : List Data}
    (hsends : List.Forall₂ f.Sends values sent) (hvalues : ∀ s ∈ values, V s) (mode : Mode)
    {condition : Data → Condition} (hvalue : ∀ v, (condition v).value = v) :
    ∀ c ∈ (Node.joined mode (sent.map fun v => .condition (condition v))).conditions,
      c.SendsFrom V := by
  rw [Node.conditions_joined, Node.conditionsOf_eq_flatMap, List.flatMap_map]
  intro c hc
  obtain ⟨v, hv, hc⟩ := List.mem_flatMap.mp hc
  obtain ⟨s, hs, hsent⟩ := exists_of_mem_right hsends v hv
  rw [List.mem_singleton.mp hc]
  refine ⟨f, s, ?_, hvalues s hs⟩
  rwa [hvalue]

/-! ## Documents

One lemma for each relation of the grammar, and they are proved together. -/

namespace Grammar

/-- The values under a field are scalars of what stands there. -/
theorem Item.forall_values {f : Field} {item : Data} {mode : Mode} {values : List Scalar}
    (h : Item f item mode values) (hitem : item.Every K V) : ∀ s ∈ values, V s := by
  have hscalars {values : List Scalar} (hlist : Data.Every K V (.list (values.map .scalar))) :
      ∀ s ∈ values, V s := by
    rw [Data.every_list_iff, List.forall_mem_map] at hlist
    exact fun s hs => Data.every_scalar_iff.mp (hlist s hs)
  cases h with
  | single s => exact List.forall_mem_singleton.mpr (Data.every_scalar_iff.mp hitem)
  | list => exact hscalars hitem
  | group =>
    rw [Data.every_map_iff, List.forall_mem_singleton] at hitem
    exact hscalars hitem.2

/-- The conditions on a field ask for values under it. -/
theorem FieldEntry.sendsFrom {object : Record} {f : Field} {item : Data} {n : Node}
    (h : FieldEntry object f item n) (hitem : item.Every K V) :
    ∀ c ∈ n.conditions, c.SendsFrom V := by
  obtain @⟨mode, values, sent, hform, -, -, hsends⟩ := h
  exact sendsFrom_joined hsends (hform.forall_values hitem) mode fun _ => rfl

mutual

/-- **The conditions in the tree of an object ask for scalars within the object.** -/
theorem Object.sendsFrom : ∀ {d : Data} {n : Node}, Object d n → d.Every K V →
    ∀ c ∈ n.conditions, c.SendsFrom V
  | _, _, .mk _ _ hentries, hd => by
    have hall := hentries.sendsFrom (Data.every_map_iff.mp hd)
    rwa [← Node.conditions_joined .all] at hall

/-- Those of its entries ask for scalars within them; the modifiers give no values. -/
theorem Entries.sendsFrom : ∀ {object : Record} {entries : List (Scalar × Data)}
    {nodes : List Node}, Entries object entries nodes → (∀ e ∈ entries, K e.1 ∧ e.2.Every K V) →
      ∀ c ∈ Node.conditionsOf nodes, c.SendsFrom V
  | _, _, _, .nil, _ => fun _ hc => absurd hc List.not_mem_nil
  | _, _, _, .modifier _ hothers, heach => hothers.sendsFrom (List.forall_mem_cons.mp heach).2
  | _, _, _, .node hfirst hothers, heach =>
    have ⟨hitem, hrest⟩ := List.forall_mem_cons.mp heach
    List.forall_mem_append.mpr ⟨hfirst.sendsFrom hitem.2, hothers.sendsFrom hrest⟩

/-- A group has those of its objects, and a negation those of what is negated. -/
theorem Entry.sendsFrom : ∀ {object : Record} {key : String} {item : Data} {n : Node},
    Entry object key item n → item.Every K V → ∀ c ∈ n.conditions, c.SendsFrom V
  | _, _, _, _, .group mode _ heach, hitem => by
    rw [Node.conditions_joined]
    exact heach.sendsFrom (Data.every_list_iff.mp hitem)
  | _, _, _, _, .not hnegated, hitem => hnegated.sendsFrom hitem
  | _, _, _, _, .field _ hentry, hitem => hentry.sendsFrom hitem

/-- Several objects have those of each. -/
theorem Objects.sendsFrom : ∀ {objects : List Data} {nodes : List Node}, Objects objects nodes →
    (∀ d ∈ objects, d.Every K V) → ∀ c ∈ Node.conditionsOf nodes, c.SendsFrom V
  | _, _, .nil, _ => fun _ hc => absurd hc List.not_mem_nil
  | _, _, .cons hfirst hothers, heach =>
    have ⟨hd, hrest⟩ := List.forall_mem_cons.mp heach
    List.forall_mem_append.mpr ⟨hfirst.sendsFrom hd, hothers.sendsFrom hrest⟩

end

/-- The conditions of a document ask for scalars within it, or within what its text is read as. -/
theorem Source.sendsFrom {source : Data} {p : ParsedDocument} (h : Source source p)
    (hsource : source.Every K V) (hnull : V .null)
    (htext : ∀ s d, source = .text s → Json.read s = .ok d → d.Every K V) :
    ∀ c ∈ p.root.conditions, c.SendsFrom V := by
  have hdocument {document : Record} (heach : Data.Every K V (.map document))
      (hfits : Document document p) : ∀ c ∈ p.root.conditions, c.SendsFrom V := by
    obtain ⟨query, hquery, hroot⟩ := hfits.root
    have hvalue := heach.getD hnull queryKey
    rw [Record.getD, hquery] at hvalue
    exact hroot.sendsFrom hvalue
  cases h with
  | object fits => exact hdocument hsource fits
  | text reads fits => exact hdocument (htext _ _ rfl reads) fits

end Grammar

/-! ## Parameters

What is given under a parameter has values, whatever its form. -/

/-- The scalars among the values of an argument have the property. -/
def Argument.Gives (V : Scalar → Prop) (a : Argument) : Prop :=
  ∀ s, .data (.scalar s) ∈ a.values → V s

namespace Flat

variable {side : Side} {params : Params} {f : Field}

/-- What is made of a parameter asks for its values. -/
theorem Made.sendsFrom {n : Node} (h : Made side params f n)
    (hgives : (side.given params f).Gives V) : ∀ c ∈ n.conditions, c.SendsFrom V := by
  obtain @⟨values, sent, hgiven, -, hsends, -⟩ := h
  refine sendsFrom_joined hsends (fun s hs => hgives s ?_) _ fun _ => rfl
  rw [hgiven]
  exact List.mem_map_of_mem hs

/-- What is given for a field is a parameter, or nothing. -/
theorem gives_given (hnull : V .null) (hparams : ∀ p ∈ params, p.2.Gives V) (side : Side)
    (f : Field) : (side.given params f).Gives V := by
  rw [Side.given, Params.getD]
  cases hfound : params.lookup (side.name f.param) with
  | none =>
    intro s hs
    cases List.mem_singleton.mp hs
    exact hnull
  | some a =>
    obtain ⟨before, after, hsplit, -⟩ := List.lookup_eq_some_iff.mp hfound
    exact hparams (side.name f.param, a) (by simp [hsplit])

/-- So do all trees of a side together. -/
theorem conditionsOf_sendsFrom {fields : List Field} {nodes : List Node}
    (h : List.Forall₂ (Made side params) fields nodes)
    (hgives : ∀ f, (side.given params f).Gives V) :
    ∀ c ∈ Node.conditionsOf nodes, c.SendsFrom V := by
  rw [Node.conditionsOf_eq_flatMap]
  intro c hc
  obtain ⟨n, hn, hc⟩ := List.mem_flatMap.mp hc
  obtain ⟨f, -, hmade⟩ := exists_of_mem_right h n hn
  exact hmade.sendsFrom (hgives f) c hc

/-- **The conditions of a tree that is compiled ask for values of the parameters.** -/
theorem sendsFrom_of_compile (hnull : V .null) (hparams : ∀ p ∈ params, p.2.Gives V)
    {scope : Scope} {root : Option Node} (h : compile scope params = .ok root) :
    ∀ n ∈ root, ∀ c ∈ n.conditions, c.SendsFrom V := by
  simp only [compile, bind_eq_ok_iff] at h
  obtain ⟨_, -, ⟨positives, negatives⟩, hparts, hroot⟩ := h
  cases hroot
  obtain ⟨hwanted, hignored⟩ := parts_made (fun _ hf => hf) hparts
  have hgives := gives_given hnull hparams
  have hall := forall_conditionsOf_parts (conditionsOf_sendsFrom hwanted (hgives .wanted))
    (conditionsOf_sendsFrom hignored (hgives .ignored))
  intro n hn
  unfold assemble at hn
  split at hn
  · cases hn
  · cases hn
    exact hall

end Flat

/-! ## Searches -/

namespace Search

/-- The conditions of a search that is made from parameters ask for their values. -/
theorem sendsFrom_of_ofAllParams {subject : Subject} {params : Params} {s : Search}
    (hnull : V .null) (hparams : ∀ p ∈ params, p.2.Gives V)
    (h : ofAllParams subject params = .ok s) :
    ∀ n ∈ s.root, ∀ c ∈ n.conditions, c.SendsFrom V := by
  refine Flat.sendsFrom_of_compile hnull ?_ (ofParams_root h)
  exact fun p hp => hparams p (List.mem_of_mem_filter (List.mem_of_mem_filter hp))

/-- The conditions of a search that is made from a document ask for scalars within it. -/
theorem sendsFrom_of_ofExplicit {subject : Subject} {source : Data} {s : Search}
    (hsource : source.Every K V) (hnull : V .null)
    (htext : ∀ t d, source = .text t → Json.read t = .ok d → d.Every K V)
    (h : ofExplicit subject (.query (.data source)) = .ok s) :
    ∀ n ∈ s.root, ∀ c ∈ n.conditions, c.SendsFrom V := by
  obtain ⟨p, hparse, hroot⟩ := parse_of_ofExplicit h
  rw [hroot]
  rintro n ⟨⟩
  exact (ParsedDocument.source_of_parse hparse).sendsFrom hsource hnull htext

end Search

/-! ## Whole texts -/

/-- The scalar is a whole text, or no text. -/
def Scalar.IsWhole : Scalar → Prop
  | .text t => Text.IsWhole t
  | _ => True

instance : DecidablePred Scalar.IsWhole
  | .text t => inferInstanceAs (Decidable (Text.IsWhole t))
  | .null | .bool _ | .int _ | .float _ | .date _ | .moment _ | .tuple _ | .other .. =>
    isTrue trivial

/-- All texts within the value are whole, those that are keys included. -/
def Data.IsWhole (d : Data) : Prop := d.Every Scalar.IsWhole Scalar.IsWhole

instance : DecidablePred Data.IsWhole := fun d =>
  inferInstanceAs (Decidable (d.Every Scalar.IsWhole Scalar.IsWhole))

/-- What is sent for whole texts is whole.  A text is sent without the blanks around it, and a day
    in digits. -/
theorem Condition.SendsFrom.isWhole {c : Condition} (h : c.SendsFrom Scalar.IsWhole) :
    c.IsWhole := by
  obtain ⟨f, s, hsends, hwhole⟩ := h
  intro t ht
  rw [ht] at hsends
  cases hsends with
  | text => exact Text.IsWhole.strip hwhole
  | date _ names => cases names <;> exact Calendar.isWhole_wire _

end NewsSearch
