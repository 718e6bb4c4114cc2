import Mathlib.Data.List.Induction
import OefCore.Schema.Instance

/-! # The schema directory

The classes `Schema`, `Schemas` and `SchemaDirectory`: under every key a list of data
models with versions, in the order in which they were added. The greatest `uint32_t`
is not a version. To `add` it stands for the next version, which is the size of the
list plus one, and to `get` for the last schema.

With versions assigned by default the list of a key is the numbered list of what was
added to it (`OefCore.SchemaDirectory.lookup_addDefaults`), and `get` is a position in
that list (`OefCore.Schemas.get_numbered`). Versions assigned by default therefore
identify schemas for ever (`OefCore.SchemaDirectory.defaultVersions_identify`).
-/

namespace OefCore

structure Schema where
  version : UInt32
  schema : DataModel

structure Schemas where
  schemas : List Schema := []

namespace Schemas

/-- The greatest `uint32_t`, the default argument of `add` and `get`. -/
def latest : UInt32 := 4294967295

/-- `Schemas::add`. The size is a `size_t`, the version it is assigned to a
`uint32_t`. -/
def add (self : Schemas) (version : UInt32) (schema : DataModel) : UInt32 × Schemas :=
  let version := if version == latest then UInt32.ofNat (self.schemas.length + 1) else version
  (version, { schemas := self.schemas ++ [⟨version, schema⟩] })

def get (self : Schemas) (version : UInt32) : Option Schema :=
  if self.schemas.isEmpty then none
  else if version == latest then self.schemas.getLast?
  else
    match self.schemas.find? fun p => p.version ≥ version with
    | some p => some p
    | none => self.schemas.getLast?

/-- The sentinel asks for the last schema. -/
theorem get_latest (self : Schemas) : self.get latest = self.schemas.getLast? := by
  unfold get
  cases stored : self.schemas with
  | nil => rfl
  | cons first rest => rfl

/-- Any other request is answered by the first schema that is not below it, or else by
the last one. -/
theorem get_explicit (self : Schemas) {version : UInt32} (explicit : version ≠ latest) :
    self.get version =
      (self.schemas.find? fun p => p.version ≥ version).or self.schemas.getLast? := by
  unfold get
  cases stored : self.schemas with
  | nil => rfl
  | cons first rest =>
      rw [if_neg (by rw [List.isEmpty_cons]; exact Bool.false_ne_true),
        if_neg fun same => explicit (beq_iff_eq.mp same)]
      cases (first :: rest).find? fun p => p.version ≥ version <;> rfl

end Schemas

structure SchemaDirectory where
  schemas : UnorderedMap String Schemas := ∅

namespace SchemaDirectory

def get (self : SchemaDirectory) (key : String) (version : UInt32 := Schemas.latest) :
    Option Schema :=
  match self.schemas.lookup key with
  | some schemas => schemas.get version
  | none => none

/-- `SchemaDirectory::add`. The subscript of the map makes an empty list for a new
key. -/
def add (self : SchemaDirectory) (key : String) (schema : DataModel)
    (version : UInt32 := Schemas.latest) : UInt32 × SchemaDirectory :=
  let schemas := (self.schemas.lookup key).getD {}
  let (version, schemas) := schemas.add version schema
  (version, { schemas := self.schemas.insert key schemas })

/-- The directory after adds with the default version, in their order. -/
def addDefaults (adds : List (String × DataModel)) : SchemaDirectory :=
  adds.foldl (fun self entry => (self.add entry.1 entry.2).2) {}

/-- What was added to a key. -/
def history (key : String) (adds : List (String × DataModel)) : List DataModel :=
  (adds.filter fun entry => entry.1 == key).map Prod.snd

end SchemaDirectory

/-! ### Numbered lists -/

namespace Schemas

/-- Schemas with successive versions. -/
def numberedFrom : Nat → List DataModel → List Schema
  | _, [] => []
  | first, schema :: rest => ⟨UInt32.ofNat first, schema⟩ :: numberedFrom (first + 1) rest

theorem numberedFrom_append (first : Nat) (schemas more : List DataModel) :
    numberedFrom first (schemas ++ more) =
      numberedFrom first schemas ++ numberedFrom (first + schemas.length) more := by
  induction schemas generalizing first with
  | nil => rfl
  | cons schema rest ih =>
      rw [List.cons_append, numberedFrom, ih, numberedFrom, List.cons_append, List.length_cons,
        Nat.add_right_comm, Nat.add_assoc]

@[simp] theorem length_numberedFrom (first : Nat) (schemas : List DataModel) :
    (numberedFrom first schemas).length = schemas.length := by
  induction schemas generalizing first with
  | nil => rfl
  | cons schema rest ih => rw [numberedFrom, List.length_cons, ih, List.length_cons]

theorem getElem?_numberedFrom (first position : Nat) (schemas : List DataModel) :
    (numberedFrom first schemas)[position]? =
      schemas[position]?.map fun schema => ⟨UInt32.ofNat (first + position), schema⟩ := by
  induction schemas generalizing first position with
  | nil => rfl
  | cons schema rest ih =>
      cases position with
      | zero => rfl
      | succ position =>
          rw [numberedFrom, List.getElem?_cons_succ, List.getElem?_cons_succ, ih,
            Nat.add_right_comm, Nat.add_assoc]

/-- In a numbered list the first version that is not below the requested one is at
the distance of the requested version from the first. -/
theorem find?_numberedFrom (version : UInt32) (first : Nat) (schemas : List DataModel)
    (few : first + schemas.length ≤ 2 ^ 32) :
    ((numberedFrom first schemas).find? fun p => p.version ≥ version) =
      (numberedFrom first schemas)[version.toNat - first]? := by
  induction schemas generalizing first with
  | nil => rfl
  | cons schema rest ih =>
      rw [List.length_cons] at few
      have number : (UInt32.ofNat first).toNat = first := by
        rw [UInt32.toNat_ofNat', Nat.mod_eq_of_lt (by omega)]
      rw [numberedFrom, List.find?_cons]
      by_cases reached : version.toNat ≤ first
      · have found : decide (UInt32.ofNat first ≥ version) = true := by
          rw [decide_eq_true_iff, ge_iff_le, UInt32.le_iff_toNat_le, number]
          exact reached
        have here : version.toNat - first = 0 := by omega
        rw [found, here, List.getElem?_cons_zero]
      · have below : decide (UInt32.ofNat first ≥ version) = false := by
          rw [decide_eq_false_iff_not, ge_iff_le, UInt32.le_iff_toNat_le, number]
          exact reached
        have later : version.toNat - first = version.toNat - (first + 1) + 1 := by omega
        rw [below, later, List.getElem?_cons_succ]
        exact ih (first + 1) (by omega)

/-- **A lookup in a list numbered from one** is a position: that of the requested
version, the first one for a request of zero, and the last one for anything greater
than the number of schemas, the sentinel included. -/
theorem get_numbered (version : UInt32) (schemas : List DataModel)
    (few : schemas.length < 2 ^ 32 - 2) :
    get ⟨numberedFrom 1 schemas⟩ version =
      (numberedFrom 1 schemas)[min (version.toNat - 1) (schemas.length - 1)]? := by
  have last : (numberedFrom 1 schemas).getLast? =
      (numberedFrom 1 schemas)[schemas.length - 1]? := by
    rw [List.getLast?_eq_getElem?, length_numberedFrom]
  by_cases sentinel : version = latest
  · have great : version.toNat = 4294967295 := by rw [sentinel]; rfl
    rw [sentinel, get_latest, last, ← sentinel, Nat.min_eq_right (by omega)]
  · rw [get_explicit _ sentinel, find?_numberedFrom _ _ _ (by omega), last]
    by_cases inside : version.toNat - 1 < schemas.length
    · have present : (numberedFrom 1 schemas)[version.toNat - 1]? ≠ none := by
        rw [ne_eq, List.getElem?_eq_none_iff, length_numberedFrom]
        omega
      rw [Nat.min_eq_left (by omega)]
      exact Option.or_of_isSome (Option.isSome_iff_ne_none.mpr present)
    · have missing : (numberedFrom 1 schemas)[version.toNat - 1]? = none := by
        rw [List.getElem?_eq_none_iff, length_numberedFrom]
        omega
      rw [missing, Option.none_or, Nat.min_eq_right (by omega)]

end Schemas

/-! ### Histories of adds -/

namespace SchemaDirectory

theorem history_append (key : String) (adds more : List (String × DataModel)) :
    history key (adds ++ more) = history key adds ++ history key more := by
  rw [history, List.filter_append, List.map_append, history, history]

theorem history_cons_self (key : String) (schema : DataModel) (adds : List (String × DataModel)) :
    history key ((key, schema) :: adds) = schema :: history key adds := by
  rw [history, List.filter_cons, if_pos (beq_self_eq_true key), List.map_cons, history]

theorem history_singleton_of_ne {key other : String} (different : other ≠ key)
    (schema : DataModel) : history other [(key, schema)] = [] := by
  rw [history, List.filter_cons, if_neg, List.filter_nil, List.map_nil]
  exact fun same => different (beq_iff_eq.mp same).symm

theorem addDefaults_append_singleton (adds : List (String × DataModel)) (key : String)
    (schema : DataModel) :
    addDefaults (adds ++ [(key, schema)]) = ((addDefaults adds).add key schema).2 := by
  rw [addDefaults, List.foldl_append, List.foldl_cons, List.foldl_nil, addDefaults]

/-- An add is only seen under its own key. -/
theorem get_add_of_ne (self : SchemaDirectory) {key other : String} (different : other ≠ key)
    (schema : DataModel) (added version : UInt32) :
    (self.add key schema added).2.get other version = self.get other version := by
  unfold get add
  dsimp only
  rw [UnorderedMap.lookup_insert_eq_ite, if_neg different]

/-- Under every key that something was added to is its numbered history. -/
theorem lookup_addDefaults (adds : List (String × DataModel)) (key : String) :
    (addDefaults adds).schemas.lookup key =
      if (history key adds).isEmpty then none
      else some ⟨Schemas.numberedFrom 1 (history key adds)⟩ := by
  induction adds using List.reverseRecOn with
  | nil => exact UnorderedMap.lookup_empty_eq_none key
  | append_singleton adds entry ih =>
      obtain ⟨added, schema⟩ := entry
      rw [addDefaults_append_singleton, history_append, add]
      dsimp only
      rw [UnorderedMap.lookup_insert_eq_ite]
      by_cases same : key = added
      · subst same
        have before : ((addDefaults adds).schemas.lookup key).getD {} =
            ⟨Schemas.numberedFrom 1 (history key adds)⟩ := by
          rw [ih]
          cases history key adds <;> rfl
        rw [if_pos rfl, before, history_cons_self, Schemas.numberedFrom_append, Schemas.add,
          Schemas.length_numberedFrom, Nat.add_comm]
        have some : (history key adds ++ schema :: history key []).isEmpty = false := by
          rw [List.isEmpty_eq_false_iff]
          exact List.append_ne_nil_of_right_ne_nil _ (List.cons_ne_nil _ _)
        rw [some]
        rfl
      · rw [if_neg same, ih, history_singleton_of_ne same, List.append_nil]

/-- A request is answered from the numbered history of its key. -/
theorem get_addDefaults (adds : List (String × DataModel)) (key : String) (version : UInt32)
    (few : (history key adds).length < 2 ^ 32 - 2) :
    (addDefaults adds).get key version = (Schemas.numberedFrom 1 (history key adds))[min
      (version.toNat - 1) ((history key adds).length - 1)]? := by
  rw [get, lookup_addDefaults]
  cases stored : history key adds with
  | nil => rfl
  | cons schema rest =>
      rw [stored] at few
      exact Schemas.get_numbered version (schema :: rest) few

/-- The version an add with the default version returns. -/
theorem add_returns (adds : List (String × DataModel)) (key : String) (schema : DataModel) :
    ((addDefaults adds).add key schema).1 = UInt32.ofNat ((history key adds).length + 1) := by
  rw [add]
  dsimp only
  rw [lookup_addDefaults]
  cases history key adds with
  | nil => rfl
  | cons first rest =>
      change UInt32.ofNat ((Schemas.numberedFrom 1 (first :: rest)).length + 1) = _
      rw [Schemas.length_numberedFrom]

/-- What versions assigned by default identify, after some adds: the add that got
number k is what is found under k, zero asks for the first add to a key, and anything
above their number for the last one. -/
structure Identifying (adds : List (String × DataModel)) : Prop where
  returned : ∀ earlier key schema later, adds = earlier ++ (key, schema) :: later →
    ((addDefaults earlier).add key schema).1.toNat = (history key earlier).length + 1
  kept : ∀ earlier key schema later, adds = earlier ++ (key, schema) :: later →
    (addDefaults adds).get key ((addDefaults earlier).add key schema).1 =
      some ⟨((addDefaults earlier).add key schema).1, schema⟩
  first : ∀ key schema rest, history key adds = schema :: rest →
    (addDefaults adds).get key 0 = some ⟨1, schema⟩
  beyond : ∀ key earlier schema, history key adds = earlier ++ [schema] →
    ∀ version : UInt32, earlier.length + 1 < version.toNat →
      (addDefaults adds).get key version = some ⟨UInt32.ofNat (earlier.length + 1), schema⟩
  last : ∀ key earlier schema, history key adds = earlier ++ [schema] →
    (addDefaults adds).get key = some ⟨UInt32.ofNat (earlier.length + 1), schema⟩
  unknown : ∀ key, history key adds = [] → ∀ version, (addDefaults adds).get key version = none
  otherKeys : ∀ key other, other ≠ key → ∀ schema version,
    ((addDefaults adds).add key schema).2.get other version = (addDefaults adds).get other version

/-- **Versions assigned by default identify schemas for ever**, over any interleaving
of adds to any keys, with fewer than 2^32 - 2 adds to one key. -/
theorem defaultVersions_identify (adds : List (String × DataModel))
    (few : ∀ key, (history key adds).length < 2 ^ 32 - 2) : Identifying adds := by
  have split : ∀ {earlier key schema later}, adds = earlier ++ (key, schema) :: later →
      history key adds = history key earlier ++ schema :: history key later := by
    intro earlier key schema later same
    rw [same, history_append, history_cons_self]
  have number : ∀ {earlier key schema later}, adds = earlier ++ (key, schema) :: later →
      ((addDefaults earlier).add key schema).1.toNat = (history key earlier).length + 1 := by
    intro earlier key schema later same
    have bound := few key
    rw [split same, List.length_append, List.length_cons] at bound
    rw [add_returns, UInt32.toNat_ofNat', Nat.mod_eq_of_lt (by omega)]
  have beyond : ∀ key earlier schema, history key adds = earlier ++ [schema] →
      ∀ version : UInt32, earlier.length + 1 < version.toNat →
        (addDefaults adds).get key version =
          some ⟨UInt32.ofNat (earlier.length + 1), schema⟩ := by
    intro key earlier schema stored version great
    rw [get_addDefaults adds key version (few key), stored, List.length_append,
      List.length_singleton, Nat.min_eq_right (by omega), Schemas.getElem?_numberedFrom,
      Nat.add_sub_cancel, List.getElem?_concat_length, Option.map_some, Nat.add_comm]
  refine ⟨fun earlier key schema later same => number same,
    fun earlier key schema later same => ?_, fun key schema rest stored => ?_, beyond,
    fun key earlier schema stored => ?_, fun key fresh version => ?_,
    fun key other different schema version => get_add_of_ne _ different schema _ version⟩
  · have position : (history key adds)[(history key earlier).length]? = some schema := by
      rw [split same, List.getElem?_append_right (Nat.le_refl _), Nat.sub_self,
        List.getElem?_cons_zero]
    have inside : (history key earlier).length < (history key adds).length :=
      (List.getElem?_eq_some_iff.mp position).1
    rw [get_addDefaults adds key _ (few key), number same, Nat.add_sub_cancel,
      Nat.min_eq_left (by omega), Schemas.getElem?_numberedFrom, position, Option.map_some,
      add_returns, Nat.add_comm]
  · rw [get_addDefaults adds key 0 (few key), stored]
    rfl
  · apply beyond key earlier schema stored
    have bound := few key
    rw [stored, List.length_append, List.length_singleton] at bound
    have great : Schemas.latest.toNat = 4294967295 := rfl
    omega
  · rw [get, lookup_addDefaults, fresh]
    rfl

/-- A data model without attributes. -/
def bare (name : String) : DataModel where
  handle := { name, attributes := [] }
  unique := List.nodup_nil

theorem defaultVersions_identify_persons :
    Identifying [("person", bare "Person"), ("place", bare "Place"), ("person", bare "Person2")] :=
  defaultVersions_identify _ fun key => by
    have bound : (history key [("person", bare "Person"), ("place", bare "Place"),
        ("person", bare "Person2")]).length ≤ 3 := by
      rw [history, List.length_map]
      exact List.length_filter_le _ _
    omega

end SchemaDirectory

end OefCore
