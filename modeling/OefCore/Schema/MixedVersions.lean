import OefCore.Lib.Ascending
import OefCore.Schema.Directory

/-! # Lists of mixed versions

`Schemas::add` appends whatever version it is given, and takes the size of the list
plus one for the default. `Schemas::get` returns the first schema whose version is not
below the requested one, and the last schema when there is none, as if the list were in
ascending order, in which a binary search could replace the scan.

In ascending order a lookup rounds up to the next version
(`OefCore.Schemas.rounds_of_ascending`). Over a whole sequence of adds lookups round,
and versions assigned by default are new, exactly when every add keeps the order
(`OefCore.Schemas.looksUp_iff`).
-/

namespace OefCore

namespace Schemas

/-- The list after some adds, in their order. -/
def addAll (adds : List (UInt32 × DataModel)) : Schemas :=
  adds.foldl (fun self entry => (self.add entry.1 entry.2).2) {}

/-- Lookups round: a request is answered by the least stored version that is not below
it, if there is one, and otherwise, as for the sentinel, by the greatest one. -/
structure Rounds (list : Schemas) : Prop where
  up : ∀ version, version ≠ latest → ∀ p ∈ list.schemas, version ≤ p.version →
    ∃ found, list.get version = some found ∧ found ∈ list.schemas ∧ version ≤ found.version ∧
      ∀ q ∈ list.schemas, version ≤ q.version → found.version ≤ q.version
  beyond : list.schemas ≠ [] → ∀ version, version ≠ latest →
    (∀ p ∈ list.schemas, ¬ version ≤ p.version) →
      ∃ found, list.get version = some found ∧ found ∈ list.schemas ∧
        ∀ q ∈ list.schemas, q.version ≤ found.version
  sentinel : list.schemas ≠ [] → ∃ found, list.get latest = some found ∧
    found ∈ list.schemas ∧ ∀ q ∈ list.schemas, q.version ≤ found.version

/-- The version of an add is not below any stored one; when it is assigned by default,
the size of the list plus one is above all of them. -/
def KeepsOrder (self : Schemas) (version : UInt32) : Prop :=
  if version = latest then
    ∀ p ∈ self.schemas, p.version.toNat < (self.schemas.length + 1) % 2 ^ 32
  else ∀ p ∈ self.schemas, p.version ≤ version

/-- In every state that a sequence of adds comes through lookups round, and every add
with the default version returns one that is not stored yet. -/
structure LooksUp (adds : List (UInt32 × DataModel)) : Prop where
  rounds : ∀ earlier later, adds = earlier ++ later → Rounds (addAll earlier)
  fresh : ∀ earlier schema later, adds = earlier ++ (latest, schema) :: later →
    ∀ p ∈ (addAll earlier).schemas, p.version ≠ ((addAll earlier).add latest schema).1

theorem addAll_append_singleton (adds : List (UInt32 × DataModel)) (version : UInt32)
    (schema : DataModel) :
    addAll (adds ++ [(version, schema)]) = ((addAll adds).add version schema).2 := by
  rw [addAll, List.foldl_append, List.foldl_cons, List.foldl_nil, addAll]

/-- An add appends the schema with the version it returns. -/
theorem add_schemas (self : Schemas) (version : UInt32) (schema : DataModel) :
    (self.add version schema).2.schemas =
      self.schemas ++ [⟨(self.add version schema).1, schema⟩] := rfl

theorem add_default (self : Schemas) (schema : DataModel) :
    (self.add latest schema).1 = UInt32.ofNat (self.schemas.length + 1) := rfl

theorem add_explicit (self : Schemas) {version : UInt32} (explicit : version ≠ latest)
    (schema : DataModel) : (self.add version schema).1 = version := by
  unfold add
  exact if_neg fun same => explicit (beq_iff_eq.mp same)

/-- What keeping the order is in terms of the version that is returned: it is not
below any stored one, and not stored yet if it was assigned by default. -/
theorem keepsOrder_iff (self : Schemas) (version : UInt32) (schema : DataModel) :
    self.KeepsOrder version ↔
      (∀ p ∈ self.schemas, p.version ≤ (self.add version schema).1) ∧
        (version = latest → ∀ p ∈ self.schemas, p.version ≠ (self.add version schema).1) := by
  unfold KeepsOrder
  by_cases byDefault : version = latest
  · subst byDefault
    rw [if_pos rfl, add_default]
    have above : ∀ p : Schema, p.version.toNat < (self.schemas.length + 1) % 2 ^ 32 ↔
        p.version ≤ UInt32.ofNat (self.schemas.length + 1) ∧
          p.version ≠ UInt32.ofNat (self.schemas.length + 1) := by
      intro p
      rw [UInt32.le_iff_toNat_le, ne_eq, ← UInt32.toNat_inj, UInt32.toNat_ofNat']
      omega
    constructor
    · intro kept
      exact ⟨fun p inside => ((above p).mp (kept p inside)).1,
        fun _ p inside => ((above p).mp (kept p inside)).2⟩
    · intro ⟨notBelow, fresh⟩ p inside
      exact (above p).mpr ⟨notBelow p inside, fresh rfl p inside⟩
  · rw [if_neg byDefault, add_explicit self byDefault]
    exact ⟨fun kept => ⟨kept, fun same => absurd same byDefault⟩, fun kept => kept.1⟩

/-- In ascending order lookups round. -/
theorem rounds_of_ascending {self : Schemas}
    (ascending : self.schemas.Pairwise fun p q => p.version ≤ q.version) : Rounds self := by
  have refl : ∀ p : Schema, p.version ≤ p.version := fun p => UInt32.le_refl p.version
  have last : self.schemas ≠ [] → ∃ found, self.schemas.getLast? = some found ∧
      found ∈ self.schemas ∧ ∀ q ∈ self.schemas, q.version ≤ found.version := by
    intro some
    have ends := List.getLast?_eq_some_getLast some
    exact ⟨_, ends, List.getLast_mem some, Ascending.last_greatest refl ascending ends⟩
  refine ⟨fun version explicit p inside reached => ?_, fun some version explicit none => ?_,
    fun some => ?_⟩
  · have passes : decide (p.version ≥ version) = true := decide_eq_true reached
    rw [get_explicit _ explicit]
    cases search : self.schemas.find? fun p => p.version ≥ version with
    | none => exact absurd passes (List.find?_eq_none.mp search p inside)
    | some found =>
        have passed := List.find?_some search
        refine ⟨found, rfl, List.mem_of_find?_eq_some search, of_decide_eq_true passed, ?_⟩
        intro q member above
        exact Ascending.first_least refl ascending search q member (decide_eq_true above)
  · have search : (self.schemas.find? fun p => p.version ≥ version) = Option.none := by
      rw [List.find?_eq_none]
      intro p inside reached
      exact none p inside (of_decide_eq_true reached)
    rw [get_explicit _ explicit, search, Option.none_or]
    exact last some
  · rw [get_latest]
    exact last some

/-- Adds that keep the order leave the list in ascending order. -/
theorem ascending_addAll {adds : List (UInt32 × DataModel)}
    (kept : ∀ earlier version schema later, adds = earlier ++ (version, schema) :: later →
      (addAll earlier).KeepsOrder version) :
    (addAll adds).schemas.Pairwise fun p q => p.version ≤ q.version := by
  induction adds using List.reverseRecOn with
  | nil => exact List.Pairwise.nil
  | append_singleton adds entry ih =>
      obtain ⟨version, schema⟩ := entry
      have before := ih fun earlier version' schema' later same =>
        kept earlier version' schema' (later ++ [(version, schema)])
          (by rw [same, List.append_assoc, List.cons_append])
      have step := kept adds version schema [] rfl
      rw [addAll_append_singleton, add_schemas, Ascending.append_singleton_iff]
      exact ⟨before, ((keepsOrder_iff _ version schema).mp step).1⟩

/-- **Lookups round to the nearest version** in all states that a sequence of adds
comes through, and default versions are new, exactly when every add keeps the order of
the list it is made on. -/
theorem looksUp_iff (adds : List (UInt32 × DataModel)) :
    LooksUp adds ↔ ∀ earlier version schema later, adds = earlier ++ (version, schema) :: later →
      (addAll earlier).KeepsOrder version := by
  constructor
  · intro looksUp earlier version schema later split
    rw [keepsOrder_iff _ version schema]
    constructor
    · -- The sentinel asks for the entry that was appended, so it is the greatest one.
      have after : adds = (earlier ++ [(version, schema)]) ++ later := by
        rw [split, List.append_assoc, List.singleton_append]
      have rounds := looksUp.rounds _ later after
      rw [addAll_append_singleton] at rounds
      have some : ((addAll earlier).add version schema).2.schemas ≠ [] := by
        rw [add_schemas]
        exact List.append_ne_nil_of_right_ne_nil _ (List.cons_ne_nil _ _)
      obtain ⟨found, answered, _, greatest⟩ := rounds.sentinel some
      rw [get_latest, add_schemas, List.getLast?_concat] at answered
      cases answered
      intro p inside
      apply greatest p
      rw [add_schemas]
      exact List.mem_append_left _ inside
    · intro byDefault p inside
      subst byDefault
      exact looksUp.fresh earlier schema later split p inside
  · intro kept
    refine ⟨fun earlier later split => ?_, fun earlier schema later split p inside => ?_⟩
    · apply rounds_of_ascending
      apply ascending_addAll
      intro first version schema rest same
      apply kept first version schema (rest ++ later)
      rw [split, same, List.append_assoc, List.cons_append]
    · have step := (keepsOrder_iff _ latest schema).mp (kept earlier latest schema later split)
      exact step.2 rfl p inside

/-- Version 3 after version 5: the stored version 3 is not found, and the sentinel gets
it although 5 is stored. A default version after version 2 is 2 again. -/
theorem unordered_not_lookedUp :
    ((addAll [(5, SchemaDirectory.bare "a"), (3, SchemaDirectory.bare "b")]).get 3).map
        Schema.version = some 5 ∧
      ((addAll [(5, SchemaDirectory.bare "a"), (3, SchemaDirectory.bare "b")]).get latest).map
        Schema.version = some 3 ∧
      ((addAll [(2, SchemaDirectory.bare "a")]).add latest (SchemaDirectory.bare "b")).1 = 2 ∧
      ¬ LooksUp [(5, SchemaDirectory.bare "a"), (3, SchemaDirectory.bare "b")] ∧
      ¬ LooksUp [(2, SchemaDirectory.bare "a"), (latest, SchemaDirectory.bare "b")] := by
  refine ⟨rfl, rfl, rfl, fun looksUp => ?_, fun looksUp => ?_⟩
  · have rounds := looksUp.rounds [(5, SchemaDirectory.bare "a"), (3, SchemaDirectory.bare "b")]
      [] rfl
    obtain ⟨found, answered, _, greatest⟩ := rounds.sentinel (List.cons_ne_nil _ _)
    have version : found.version = 3 := by
      cases answered
      rfl
    have above := greatest ⟨5, SchemaDirectory.bare "a"⟩ List.mem_cons_self
    rw [version] at above
    exact absurd above (by decide)
  · have fresh := looksUp.fresh [(2, SchemaDirectory.bare "a")] (SchemaDirectory.bare "b") [] rfl
    exact fresh ⟨2, SchemaDirectory.bare "a"⟩ List.mem_cons_self rfl

end Schemas

end OefCore
