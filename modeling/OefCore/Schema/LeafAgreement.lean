import OefCore.Schema.TypeSoundness

/-! # Agreement of the constraint kinds

The same condition on an attribute can be written as a relation, as a set or as a
range. The three evaluators read the constant out of three messages: `Set::check`
and `Range::check` compare it as it is, `Relation::get` copies an integer of 64 bits
into an `int` first.

`OefCore.leavesAgree_iff` says exactly for which constants the three kinds agree:
for all of them but the integers that do not fit in 32 bits.
-/

namespace OefCore

variable {Double : Type}

/-- The constants of a type, as a message carries them. -/
abbrev Constant (Double : Type) : Query.AttributeType → Type
  | .int => Int64
  | .double => Double
  | .string => String
  | .bool => Bool
  | .location => Location Double

namespace Constant

/-- The constant of a relation. -/
def value : (t : Query.AttributeType) → Constant Double t → Query.Value Double
  | .int, c => .kI c
  | .double, c => .kD c
  | .string, c => .kS c
  | .bool, c => .kB c
  | .location, c => .kL c

/-- The set of one constant. -/
def singleton : (t : Query.AttributeType) → Constant Double t → Query.Set.Values Double
  | .int, c => .kI [c]
  | .double, c => .kD [c]
  | .string, c => .kS [c]
  | .bool, c => .kB [c]
  | .location, c => .kL [c]

/-- The range of two constants; there is none of Booleans. -/
def range : (t : Query.AttributeType) → Constant Double t → Constant Double t →
    Query.Range Double
  | .int, a, b => .kI ⟨a, b⟩
  | .double, a, b => .kD ⟨a, b⟩
  | .string, a, b => .kS ⟨a, b⟩
  | .bool, _, _ => .pairNotSet
  | .location, a, b => .kL ⟨a, b⟩

/-- An integer constant fits an `int`. -/
def FitsInt : (t : Query.AttributeType) → Constant Double t → Prop
  | .int, c => -2 ^ 31 ≤ c.toInt ∧ c.toInt < 2 ^ 31
  | _, _ => True

end Constant

/-- The kinds of constraints agree on one constant: a relation with a set of one
constant, and for locations with the range whose corners are both the constant. -/
structure PointAgrees [Doubles Double] (t : Query.AttributeType) (c : Constant Double t)
    (v : VariantType Double) : Prop where
  eq_in : Relation.check ⟨.eq, Constant.value t c⟩ v =
    Set.check ⟨.isIn, Constant.singleton t c⟩ v
  notEq_notIn : Relation.check ⟨.notEq, Constant.value t c⟩ v =
    Set.check ⟨.notIn, Constant.singleton t c⟩ v
  corners : t = .location →
    Range.check (Constant.range t c c) v = Relation.check ⟨.eq, Constant.value t c⟩ v

/-- A range of integers, doubles or strings agrees with two relations. -/
def RangeAgrees [Doubles Double] (t : Query.AttributeType) (a b : Constant Double t)
    (v : VariantType Double) : Prop :=
  t = .int ∨ t = .double ∨ t = .string →
    Range.check (Constant.range t a b) v =
      (Relation.check ⟨.gtEq, Constant.value t a⟩ v && Relation.check ⟨.ltEq, Constant.value t b⟩ v)

/-- The integers that survive being copied into an `int` are those that fit. -/
theorem toInt64_toInt32_eq_iff (c : Int64) :
    c.toInt32.toInt64 = c ↔ -2 ^ 31 ≤ c.toInt ∧ c.toInt < 2 ^ 31 := by
  constructor
  · intro survives
    have lower := c.toInt32.le_toInt
    have upper := c.toInt32.toInt_lt
    rw [← survives, Int32.toInt_toInt64]
    exact ⟨lower, upper⟩
  · rintro ⟨lower, upper⟩
    rw [← Int64.toInt_inj, Int32.toInt_toInt64, Int64.toInt_toInt32]
    exact Int.bmod_eq_of_le (by omega) (by omega)

theorem toInt64_le_toInt64_iff (i j : Int32) : i.toInt64 ≤ j.toInt64 ↔ i ≤ j := by
  rw [Int64.le_iff_toInt_le, Int32.toInt_toInt64, Int32.toInt_toInt64, Int32.le_iff_toInt_le]

theorem toInt64_inj_iff (i j : Int32) : i.toInt64 = j.toInt64 ↔ i = j := by
  rw [← Int64.toInt_inj, Int32.toInt_toInt64, Int32.toInt_toInt64, Int32.toInt_inj]

section

variable [Doubles Double]

/-- A relation and its negation read the same constant. -/
theorem Relation.check_notEq (c : Query.Value Double) (v : VariantType Double) :
    Relation.check ⟨.notEq, c⟩ v = !Relation.check ⟨.eq, c⟩ v := by
  cases v <;> exact decide_not

theorem Set.check_notIn (vals : Query.Set.Values Double) (v : VariantType Double) :
    Set.check ⟨.notIn, vals⟩ v = !Set.check ⟨.isIn, vals⟩ v := rfl

/-- A constant agrees as soon as its relation and its set do. -/
theorem PointAgrees.of_eq_in {t : Query.AttributeType} {c : Constant Double t}
    {v : VariantType Double}
    (eq_in : Relation.check ⟨.eq, Constant.value t c⟩ v =
      Set.check ⟨.isIn, Constant.singleton t c⟩ v)
    (corners : t = .location →
      Range.check (Constant.range t c c) v = Relation.check ⟨.eq, Constant.value t c⟩ v) :
    PointAgrees t c v :=
  ⟨eq_in, by rw [Relation.check_notEq, Set.check_notIn, eq_in], corners⟩

/-- A set of one integer contains an attribute value exactly when they are equal as
integers of 64 bits. -/
theorem Set.check_int (c : Int64) (i : Int32) :
    Set.check ⟨.isIn, .kI [c]⟩ (.int i : VariantType Double) = decide (c = i.toInt64) := by
  change ([c].any fun val => val == i.toInt64) = _
  rw [List.any_cons, List.any_nil, Bool.or_false, beq_eq_decide]

/-- An integer that fits is compared as it is. -/
theorem eq_in_int {c : Int64} (fits : -2 ^ 31 ≤ c.toInt ∧ c.toInt < 2 ^ 31) (i : Int32) :
    Relation.check ⟨.eq, .kI c⟩ (.int i : VariantType Double) =
      Set.check ⟨.isIn, .kI [c]⟩ (.int i : VariantType Double) := by
  change decide (c.toInt32 = i) = _
  rw [Set.check_int, decide_eq_decide, ← toInt64_inj_iff, (toInt64_toInt32_eq_iff c).mpr fits]

/-- A set of one location contains that location only. -/
theorem Set.check_location (c l : Location Double) :
    Set.check ⟨.isIn, .kL [c]⟩ (.location l : VariantType Double) = decide (c = l) := by
  change ([c].any fun val => decide (l = val)) = _
  rw [List.any_cons, List.any_nil, Bool.or_false, decide_eq_decide]
  exact eq_comm

/-- The box with both corners at a location contains that location only. -/
theorem Range.check_corners (c l : Location Double) :
    Range.check (.kL ⟨c, c⟩) (.location l : VariantType Double) = decide (c = l) := by
  rw [Bool.eq_iff_iff, decide_eq_true_iff]
  simp only [Range.check, Query.Range.l, Range.minMax_eq, inf_idem, sup_idem, Bool.and_eq_true,
    decide_eq_true_iff]
  constructor
  · rintro ⟨⟨⟨latAbove, latBelow⟩, lonAbove⟩, lonBelow⟩
    cases c
    cases l
    rw [Location.mk.injEq]
    exact ⟨le_antisymm lonAbove lonBelow, le_antisymm latAbove latBelow⟩
  · rintro rfl
    exact ⟨⟨⟨le_rfl, le_rfl⟩, le_rfl⟩, le_rfl⟩

/-- A constant agrees, if it fits an `int` when it is an integer. -/
theorem pointAgrees_of_fits {t : Query.AttributeType} {c : Constant Double t}
    (fits : Constant.FitsInt t c) {v : VariantType Double} (typed : v.type = t) :
    PointAgrees t c v := by
  subst typed
  cases v with
  | int i =>
      exact .of_eq_in (eq_in_int fits i) fun wrong => by cases wrong
  | double | string | bool =>
      exact .of_eq_in (Bool.or_false _).symm fun wrong => by cases wrong
  | location l => exact .of_eq_in (Set.check_location c l).symm fun _ => Range.check_corners c l

/-- An integer constant that agrees with all values fits an `int`: otherwise the
value it is cut down to meets the relation and is not in the set. -/
theorem fits_of_pointAgrees {t : Query.AttributeType} {c : Constant Double t}
    (agrees : ∀ v : VariantType Double, v.type = t → PointAgrees t c v) :
    Constant.FitsInt t c := by
  cases t with
  | int =>
      have agree := (agrees (.int (Int64.toInt32 c)) rfl).eq_in
      have related : Relation.check ⟨.eq, .kI c⟩ (.int (Int64.toInt32 c) : VariantType Double) =
          true := decide_eq_true rfl
      have listed := agree.symm.trans related
      change Set.check ⟨.isIn, .kI [c]⟩ (.int (Int64.toInt32 c)) = true at listed
      rw [Set.check_int, decide_eq_true_iff] at listed
      exact (toInt64_toInt32_eq_iff c).mp listed.symm
  | double | string | bool | location => trivial

/-- The comparisons of an attribute value with two integers that fit. -/
theorem rangeAgrees_int {a b : Int64} (lower : -2 ^ 31 ≤ a.toInt ∧ a.toInt < 2 ^ 31)
    (upper : -2 ^ 31 ≤ b.toInt ∧ b.toInt < 2 ^ 31) (i : Int32) :
    Range.check (.kI ⟨a, b⟩) (.int i : VariantType Double) =
      (Relation.check ⟨.gtEq, .kI a⟩ (.int i : VariantType Double) &&
        Relation.check ⟨.ltEq, .kI b⟩ (.int i : VariantType Double)) := by
  change (decide (i.toInt64 ≥ a) && decide (i.toInt64 ≤ b)) =
    (decide (i ≥ a.toInt32) && decide (i ≤ b.toInt32))
  have above : i.toInt64 ≥ a ↔ i ≥ a.toInt32 := by
    rw [ge_iff_le, ge_iff_le, ← toInt64_le_toInt64_iff, (toInt64_toInt32_eq_iff a).mpr lower]
  have below : i.toInt64 ≤ b ↔ i ≤ b.toInt32 := by
    rw [← toInt64_le_toInt64_iff, (toInt64_toInt32_eq_iff b).mpr upper]
  rw [decide_eq_decide.mpr above, decide_eq_decide.mpr below]

theorem rangeAgrees_of_fits {t : Query.AttributeType} {a b : Constant Double t}
    (lower : Constant.FitsInt t a) (upper : Constant.FitsInt t b) {v : VariantType Double}
    (typed : v.type = t) : RangeAgrees t a b v := by
  subst typed
  cases v with
  | int i => exact fun _ => rangeAgrees_int lower upper i
  | double | string => exact fun _ => rfl
  | bool | location => exact fun wrong => by simp [VariantType.type] at wrong

/-- **The three kinds of constraints agree** on two constants of one type, with
every attribute value of that type, exactly when the constants fit an `int` in case
they are integers. -/
theorem leavesAgree_iff (t : Query.AttributeType) (a b : Constant Double t) :
    (∀ v : VariantType Double, v.type = t →
        PointAgrees t a v ∧ PointAgrees t b v ∧ RangeAgrees t a b v) ↔
      Constant.FitsInt t a ∧ Constant.FitsInt t b := by
  constructor
  · intro agrees
    exact ⟨fits_of_pointAgrees fun v typed => (agrees v typed).1,
      fits_of_pointAgrees fun v typed => (agrees v typed).2.1⟩
  · rintro ⟨lower, upper⟩ v typed
    exact ⟨pointAgrees_of_fits lower typed, pointAgrees_of_fits upper typed,
      rangeAgrees_of_fits lower upper typed⟩

end

section Narrowed

attribute [local instance] wholeDoubles

/-- The constant 2^32 + 5 and the attribute value 5. -/
theorem narrowed_disagrees :
    Relation.check ⟨.eq, .kI 4294967301⟩ (.int 5 : VariantType Int) = true ∧
      Set.check ⟨.isIn, .kI [4294967301]⟩ (.int 5 : VariantType Int) = false ∧
        ¬ PointAgrees .int (4294967301 : Int64) (.int 5 : VariantType Int) := by
  refine ⟨by decide, by decide, fun agrees => ?_⟩
  exact absurd agrees.eq_in (by decide)

end Narrowed

end OefCore
