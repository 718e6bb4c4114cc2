import OefCore.Schema.TypeSoundness

/-! # Equality of instances

The operator `Instance::operator==` compares the names of the models and then looks
up every value of its left operand in its right one. It never asks whether the right
operand has more values, which it can have when attributes are optional: what it
decides is an inclusion of maps (`OefCore.Instance.beq_iff`).

It is reflexive and transitive. It is symmetric at two instances, and no query tells
them apart when they are equal, unless the right one has the values of the left one
and more (`OefCore.Instance.equalityLaws_iff`).
-/

namespace OefCore

variable {Double : Type}

namespace Instance

/-- The loop of `operator==` over the values of the left operand. -/
def valuesFound [DecidableEq Double] (other : UnorderedMap String (VariantType Double)) :
    List (Σ _ : String, VariantType Double) → Bool
  | [] => true
  | p :: rest =>
      match other.lookup p.1 with
      | none => false
      | some v => if v ≠ p.2 then false else valuesFound other rest

/-- `operator==`. -/
def operatorEq [DecidableEq Double] (self other : Instance Double) : Bool :=
  if !(self.model.name == other.model.name) then false
  else valuesFound other.values self.values.entries

instance [DecidableEq Double] : BEq (Instance Double) := ⟨operatorEq⟩

/-- The laws of an equality at three instances, with the congruence of matching. -/
structure EqualityLaws [Doubles Double] (a b c : Instance Double) : Prop where
  refl : a == a
  symm : a == b → b == a
  trans : a == b → b == c → a == c
  respectsCheck : a == b → ∀ query, QueryModel.check query a = QueryModel.check query b

/-- One instance has the same model name as the other, all of its values, and at
least one value more. -/
def ProperlyExtends (larger smaller : Instance Double) : Prop :=
  smaller.model.name = larger.model.name ∧ UnorderedMap.Within smaller.values larger.values ∧
    ∃ name, smaller.value name = none ∧ larger.value name ≠ none

theorem valuesFound_iff [DecidableEq Double] (other : UnorderedMap String (VariantType Double))
    (entries : List (Σ _ : String, VariantType Double)) :
    valuesFound other entries = true ↔ ∀ p ∈ entries, other.lookup p.1 = some p.2 := by
  induction entries with
  | nil => exact iff_of_true rfl fun p inside => (List.not_mem_nil inside).elim
  | cons p rest ih =>
      rw [valuesFound, List.forall_mem_cons]
      cases found : other.lookup p.1 with
      | none => simp
      | some v =>
          by_cases same : v = p.2
          · simp only [same, ne_eq, not_true_eq_false, ↓reduceIte, true_and, ih]
          · simp only [ne_eq, same, not_false_eq_true, ↓reduceIte, Bool.false_eq_true,
              Option.some.injEq, false_and]

/-- **What the operator decides**: the names of the models agree and the values of
the left operand are among those of the right one. -/
theorem beq_iff [DecidableEq Double] (a b : Instance Double) :
    a == b ↔ a.model.name = b.model.name ∧ UnorderedMap.Within a.values b.values := by
  have values : valuesFound b.values a.values.entries = true ↔
      UnorderedMap.Within a.values b.values := by
    rw [valuesFound_iff]
    constructor
    · intro found name v stored
      exact found ⟨name, v⟩ (AList.mem_lookup_iff.mp stored)
    · intro within p inside
      exact within p.1 p.2 (AList.mem_lookup_iff.mpr inside)
  change operatorEq a b = true ↔ _
  rw [operatorEq]
  by_cases named : a.model.name = b.model.name
  · simp only [named, beq_self_eq_true, Bool.not_true, Bool.false_eq_true, ↓reduceIte, values,
      true_and]
  · simp [named]

/-- Equal instances of which the right one has no further values have the same
values. -/
theorem value_eq_of_beq [DecidableEq Double] {a b : Instance Double} (equal : a == b)
    (noMore : ¬ ProperlyExtends b a) (name : String) : a.value name = b.value name := by
  obtain ⟨named, within⟩ := (beq_iff a b).mp equal
  apply within.lookup_eq
  intro key missing
  by_contra more
  exact noMore ⟨named, within, key, missing, more⟩

/-- **The equality of instances obeys its laws** at two operands exactly when the
right one is not the left one with more values; the third instance is free. -/
theorem equalityLaws_iff [Doubles Double] (a b c : Instance Double) :
    EqualityLaws a b c ↔ ¬ ProperlyExtends b a := by
  constructor
  · rintro laws ⟨named, within, name, missing, more⟩
    have back := (beq_iff b a).mp (laws.symm ((beq_iff a b).mpr ⟨named, within⟩))
    obtain ⟨v, stored⟩ := Option.ne_none_iff_exists'.mp more
    have found : a.value name = some v := back.2 name v stored
    rw [missing] at found
    cases found
  · intro noMore
    refine ⟨(beq_iff a a).mpr ⟨rfl, .refl _⟩, fun equal => ?_, fun first second => ?_,
      fun equal => ?_⟩
    · rw [beq_iff]
      refine ⟨((beq_iff a b).mp equal).1.symm, fun name v stored => ?_⟩
      exact (value_eq_of_beq equal noMore name).trans stored
    · rw [beq_iff] at first second ⊢
      exact ⟨first.1.trans second.1, first.2.trans second.2⟩
    · exact QueryModel.check_congr ((beq_iff a b).mp equal).1 (value_eq_of_beq equal noMore)

section Person

attribute [local instance] wholeDoubles

/-- A person of whom only the required first name is known. -/
def alanNamed : UnorderedMap String (VariantType Int) :=
  AList.insert "firstName" (.string "Alan") ∅

/-- Adults. -/
def adults : Query.Model Int where
  constraints := [.kConstraint ⟨"age", .kRelation ⟨.gtEq, .kI 18⟩⟩]
  model := some person.handle

/-- The named person equals the full description of the same person, but not the
other way round, and only the latter is an adult. -/
theorem alanNamed_extended : ∃ named full, make person alanNamed = .ok named ∧
    make person alan = .ok full ∧ (named == full) = true ∧ (full == named) = false ∧
      QueryModel.check adults named = false ∧ QueryModel.check adults full = true ∧
        ¬ EqualityLaws named full full := by
  refine ⟨_, _, rfl, rfl, by decide, by decide, by decide, by decide, fun laws => ?_⟩
  have back := laws.symm (by decide)
  exact absurd back (by decide)

end Person

end Instance

end OefCore
