import Mathlib.Data.List.Nodup
import OefCore.Schema.Instance

/-! # What the validating constructor accepts

The constructor `Instance(model, values)` decides by two comparisons of sizes, a
lookup for every value and a counter of the required attributes that have no value
yet. As the attribute names of a model and the keys of a map are unique, the
counter is always the number of required attributes whose name did not come up
(`OefCore.Instance.addValues_unseen`): it is positive whenever it is decremented,
and it ends at zero exactly when no required attribute is missing.

`OefCore.Instance.make_accepts_iff` says that the accepted values are the
conforming ones, in whatever order the map is iterated.
-/

namespace OefCore

variable {Double : Type}

namespace DataModel

/-- In a data model the lookup of a name finds the one attribute of that name. -/
theorem find_eq_some_iff (model : DataModel) (name : String) (att : Query.Attribute) :
    (model.handle.attributes.find? fun a => name == a.name) = some att ↔
      att ∈ model.handle.attributes ∧ att.name = name := by
  constructor
  · intro found
    have named := List.find?_some found
    exact ⟨List.mem_of_find?_eq_some found, (beq_iff_eq.mp named).symm⟩
  · rintro ⟨inside, rfl⟩
    cases found : model.handle.attributes.find? fun a => att.name == a.name with
    | none =>
        have missing := List.find?_eq_none.mp found att inside
        exact absurd (beq_self_eq_true att.name) missing
    | some other =>
        have named := List.find?_some found
        have same := List.inj_on_of_nodup_map model.unique (List.mem_of_find?_eq_some found)
          inside (beq_iff_eq.mp named).symm
        rw [same]

end DataModel

namespace Instance

/-- The values of a map conform to a data model: every key is the name of an
attribute, every value has the type of its attribute, and every required attribute
has a value. -/
structure Conforming (model : DataModel) (values : UnorderedMap String (VariantType Double)) :
    Prop where
  known : ∀ name v, values.lookup name = some v →
    name ∈ model.handle.attributes.map Query.Attribute.name
  typed : ∀ att ∈ model.handle.attributes, ∀ v, values.lookup att.name = some v →
    Attribute.validate att v = true
  complete : ∀ att ∈ model.handle.attributes, att.required = true →
    ∃ v, values.lookup att.name = some v

/-- Whenever the loop of the constructor comes to a value of a required attribute,
the counter it decrements is positive. -/
def NeverUnderflows (model : DataModel)
    (values : UnorderedMap String (VariantType Double)) : Prop :=
  ∀ earlier v later att nbRequired vals, values.entries = earlier ++ v :: later →
    addValues model.handle.attributes earlier
      (model.handle.attributes.countP Query.Attribute.required) [] = .ok (nbRequired, vals) →
    (model.handle.attributes.find? fun a => v.1 == a.name) = some att → att.required = true →
      0 < nbRequired

/-- The number of required attributes whose name is not among the seen ones. -/
def unseen (attributes : List Query.Attribute) (seen : List String) : Nat :=
  attributes.countP fun a => a.required && !seen.contains a.name

theorem unseen_nil (attributes : List Query.Attribute) :
    unseen attributes [] = attributes.countP Query.Attribute.required := by
  apply List.countP_congr
  intro a _
  rw [List.contains_nil, Bool.not_false, Bool.and_true]

/-- Seeing one more name takes its attribute out of the count, if it is required. -/
theorem unseen_append {attributes : List Query.Attribute} {seen : List String}
    {att : Query.Attribute} (unique : (attributes.map Query.Attribute.name).Nodup)
    (inside : att ∈ attributes) (fresh : att.name ∉ seen) :
    unseen attributes seen =
      unseen attributes (seen ++ [att.name]) + if att.required then 1 else 0 := by
  induction attributes with
  | nil => exact (List.not_mem_nil inside).elim
  | cons first rest ih =>
      rw [List.map_cons, List.nodup_cons] at unique
      obtain ⟨different, unique⟩ := unique
      have contained : ∀ a : Query.Attribute, (seen ++ [att.name]).contains a.name =
          (seen.contains a.name || a.name == att.name) := by
        intro a
        simp only [List.contains_append, List.contains_cons, List.contains_nil, Bool.or_false]
      simp only [unseen, List.countP_cons, contained] at ih ⊢
      rcases List.mem_cons.mp inside with rfl | later
      · -- The attribute is the first one: no other one has its name.
        have others : ∀ a ∈ rest, (a.required && !(seen.contains a.name || a.name == att.name)) =
            (a.required && !seen.contains a.name) := by
          intro a inRest
          have otherName : (a.name == att.name) = false := by
            rw [beq_eq_false_iff_ne]
            intro same
            exact different (same ▸ List.mem_map_of_mem inRest)
          rw [otherName, Bool.or_false]
        have unchanged : rest.countP (fun a =>
            a.required && !(seen.contains a.name || a.name == att.name)) =
              rest.countP fun a => a.required && !seen.contains a.name :=
          List.countP_congr fun a inRest => by rw [others a inRest]
        have notSeen : seen.contains att.name = false := by
          rw [List.contains_eq_mem, decide_eq_false_iff_not]
          exact fresh
        rw [unchanged, notSeen]
        simp
      · have otherName : (first.name == att.name) = false := by
          rw [beq_eq_false_iff_ne]
          intro same
          exact different (same ▸ List.mem_map_of_mem later)
        rw [ih unique later, otherName, Bool.or_false]
        omega

/-- No required attribute is left out of the count exactly when all were seen. -/
theorem unseen_eq_zero_iff {attributes : List Query.Attribute} {seen : List String} :
    unseen attributes seen = 0 ↔ ∀ att ∈ attributes, att.required = true → att.name ∈ seen := by
  rw [unseen, List.countP_eq_zero]
  refine forall₂_congr fun att _ => ?_
  rw [Bool.and_eq_true, Bool.not_eq_true', not_and, Bool.not_eq_false, List.contains_eq_mem,
    decide_eq_true_iff]

section Loop

variable {model : DataModel} {entries : List (Σ _ : String, VariantType Double)}
  {seen : List String} {nbRequired : Nat} {vals : List (Query.KeyValue Double)}

/-- The constructor accepts a value exactly when it has the type of its attribute. -/
theorem setValue_accepts_iff (att : Query.Attribute) (v : VariantType Double) :
    (∃ value, setValue att.type v = .ok value) ↔ Attribute.validate att v = true := by
  constructor
  · rintro ⟨value, accepted⟩
    exact validate_of_setValue accepted
  · intro typed
    cases v <;> simp only [Attribute.validate, beq_iff_eq] at typed <;>
      simp only [setValue, typed] <;> exact ⟨_, rfl⟩

/-- One round on a new name: the counter is positive when it is decremented, and
counts the attributes not seen afterwards. -/
theorem counter_step {name : String} {att : Query.Attribute}
    (found : (model.handle.attributes.find? fun a => name == a.name) = some att)
    (fresh : name ∉ seen) :
    (att.required = true → 0 < unseen model.handle.attributes seen) ∧
      (if att.required then decrement (unseen model.handle.attributes seen)
        else unseen model.handle.attributes seen) =
          unseen model.handle.attributes (seen ++ [name]) := by
  obtain ⟨inside, rfl⟩ := (model.find_eq_some_iff _ _).mp found
  rw [unseen_append model.unique inside fresh]
  by_cases required : att.required = true
  · simp only [if_pos required, decrement]
    exact ⟨fun _ => Nat.succ_pos _, rfl⟩
  · simp only [if_neg required, Nat.add_zero]
    exact ⟨fun required' => absurd required' required, trivial⟩

/-- **The counter of the loop** is the number of required attributes not seen yet,
after any entries with new names. -/
theorem addValues_unseen (distinct : (seen ++ entries.map Sigma.fst).Nodup)
    {left : Nat} {result : List (Query.KeyValue Double)}
    (accepted : addValues model.handle.attributes entries (unseen model.handle.attributes seen)
      vals = .ok (left, result)) :
    left = unseen model.handle.attributes (seen ++ entries.map Sigma.fst) := by
  induction entries generalizing seen vals with
  | nil =>
      cases accepted
      rw [List.map_nil, List.append_nil]
  | cons entry rest ih =>
      obtain ⟨att, value, found, _, accepted⟩ := addValues_cons accepted
      rw [List.map_cons] at distinct ⊢
      have fresh : entry.1 ∉ seen :=
        fun again => List.disjoint_of_nodup_append distinct again List.mem_cons_self
      rw [(counter_step found fresh).2] at accepted
      rw [List.append_cons] at distinct ⊢
      exact ih distinct accepted

/-- The loop ends without an exception when every value has the type of an
attribute of its name. -/
theorem addValues_accepts {attributes : List Query.Attribute}
    (conforms : ∀ v ∈ entries, ∃ att, (attributes.find? fun a => v.1 == a.name) = some att ∧
      Attribute.validate att v.2 = true) :
    ∃ result, addValues attributes entries nbRequired vals = .ok result := by
  induction entries generalizing nbRequired vals with
  | nil => exact ⟨_, rfl⟩
  | cons entry rest ih =>
      obtain ⟨att, found, typed⟩ := conforms entry List.mem_cons_self
      obtain ⟨value, set⟩ := (setValue_accepts_iff att entry.2).mpr typed
      simp only [addValues, found, set]
      exact ih fun v later => conforms v (List.mem_cons_of_mem _ later)

end Loop

variable (model : DataModel) (values : UnorderedMap String (VariantType Double))

/-- The counter of the constructor never goes below zero. -/
theorem neverUnderflows : NeverUnderflows model values := by
  intro earlier v later att nbRequired vals split looped found required
  have distinct : (values.entries.map Sigma.fst).Nodup := values.nodupKeys
  rw [split, List.map_append, List.map_cons] at distinct
  rw [← unseen_nil] at looped
  have counted := addValues_unseen
    (by rw [List.nil_append]; exact distinct.of_append_left) looped
  rw [List.nil_append] at counted
  have fresh : v.1 ∉ earlier.map Sigma.fst :=
    fun again => List.disjoint_of_nodup_append distinct again List.mem_cons_self
  have positive := (counter_step found fresh).1 required
  rw [← counted] at positive
  exact positive

variable {model values}

/-- Conforming values are at most as many as the attributes, and at least as many
as the required ones. -/
theorem Conforming.sizes (conforming : Conforming model values) :
    model.handle.attributes.countP Query.Attribute.required ≤ values.entries.length ∧
      values.entries.length ≤ model.handle.attributes.length := by
  have distinct : (values.entries.map Sigma.fst).Nodup := values.nodupKeys
  constructor
  · have requiredNames : ((model.handle.attributes.filter Query.Attribute.required).map
        Query.Attribute.name).Nodup :=
      model.unique.sublist (List.filter_sublist.map _)
    have present : ((model.handle.attributes.filter Query.Attribute.required).map
        Query.Attribute.name) ⊆ values.entries.map Sigma.fst := by
      intro name inside
      obtain ⟨att, filtered, rfl⟩ := List.mem_map.mp inside
      obtain ⟨inModel, required⟩ := List.mem_filter.mp filtered
      obtain ⟨v, stored⟩ := conforming.complete att inModel required
      exact List.mem_map.mpr ⟨_, AList.mem_lookup_iff.mp stored, rfl⟩
    have counted := (List.subperm_of_subset requiredNames present).length_le
    rwa [List.length_map, List.length_map, ← List.countP_eq_length_filter] at counted
  · have known : values.entries.map Sigma.fst ⊆
        model.handle.attributes.map Query.Attribute.name := by
      intro name inside
      obtain ⟨entry, stored, rfl⟩ := List.mem_map.mp inside
      exact conforming.known entry.1 entry.2 (AList.mem_lookup_iff.mpr stored)
    have counted := (List.subperm_of_subset distinct known).length_le
    rwa [List.length_map, List.length_map] at counted

/-- The values of an accepted map conform to the model. -/
theorem conforming_of_make {built : Instance Double} (accepted : make model values = .ok built) :
    Conforming model values := by
  have conforms := (make_conforms accepted).2.2
  refine ⟨fun name v stored => ?_, fun att inside v stored => ?_, fun att inside required => ?_⟩
  · obtain ⟨att, found, _⟩ := conforms name v stored
    obtain ⟨inside, rfl⟩ := (model.find_eq_some_iff _ _).mp found
    exact List.mem_map_of_mem inside
  · obtain ⟨other, found, typed⟩ := conforms att.name v stored
    rw [(model.find_eq_some_iff _ _).mpr ⟨inside, rfl⟩] at found
    rwa [Option.some.inj found]
  · -- The counter ends at zero, so the name of the attribute was seen.
    obtain ⟨vals, looped, _⟩ := make_accepted accepted
    rw [← unseen_nil] at looped
    have distinct : ([] ++ values.entries.map Sigma.fst).Nodup := values.nodupKeys
    have counted := addValues_unseen distinct looped
    have seen := unseen_eq_zero_iff.mp counted.symm
    obtain ⟨entry, stored, named⟩ := List.mem_map.mp (seen att inside required)
    exact ⟨entry.2, named ▸ AList.mem_lookup_iff.mpr stored⟩

/-- Conforming values are accepted. -/
theorem make_of_conforming (conforming : Conforming model values) :
    ∃ built, make model values = .ok built := by
  have conforms : ∀ v ∈ values.entries, ∃ att,
      (model.handle.attributes.find? fun a => v.1 == a.name) = some att ∧
        Attribute.validate att v.2 = true := by
    intro v inside
    have stored : values.lookup v.1 = some v.2 := AList.mem_lookup_iff.mpr inside
    obtain ⟨att, inModel, named⟩ := List.mem_map.mp (conforming.known v.1 v.2 stored)
    refine ⟨att, (model.find_eq_some_iff _ _).mpr ⟨inModel, named⟩, ?_⟩
    exact conforming.typed att inModel v.2 (named ▸ stored)
  obtain ⟨⟨nbRequired, vals⟩, looped⟩ : ∃ result, addValues model.handle.attributes
      values.entries (model.handle.attributes.countP Query.Attribute.required) [] = .ok result :=
    addValues_accepts conforms
  have distinct : ([] ++ values.entries.map Sigma.fst).Nodup := values.nodupKeys
  have counted := addValues_unseen distinct (unseen_nil _ ▸ looped)
  have zero : nbRequired = 0 := by
    rw [counted, unseen_eq_zero_iff]
    intro att inModel required
    obtain ⟨v, stored⟩ := conforming.complete att inModel required
    exact List.mem_map.mpr ⟨_, AList.mem_lookup_iff.mp stored, rfl⟩
  obtain ⟨enough, fitting⟩ := conforming.sizes
  subst zero
  simp only [make, gt_iff_lt, Nat.not_lt.mpr fitting, Nat.not_lt.mpr enough, looped,
    Nat.lt_irrefl, ↓reduceIte]
  exact ⟨_, rfl⟩

/-- **The validating constructor accepts exactly the conforming values**, in any
order of iteration, and its counter of missing attributes never underflows. -/
theorem make_accepts_iff (model : DataModel) (values : UnorderedMap String (VariantType Double)) :
    ((∃ built, make model values = .ok built) ↔ Conforming model values) ∧
      NeverUnderflows model values :=
  ⟨⟨fun ⟨_, accepted⟩ => conforming_of_make accepted, make_of_conforming⟩,
    neverUnderflows model values⟩

end Instance

end OefCore
