import OefCore.Proto.Agent

/-! # Data objects

The class `Data` keeps its fields twice, in members and in a message. The
constructor from fields moves its string parameters into the members before it
copies the parameters into the message; the constructor from a buffer fills the
members from the message it parsed.

`OefCore.Data.agrees_iff` says for which fields an object agrees with its own
message and with the object read back from that message.
-/

namespace OefCore

/-- Moving a string into a member: the member, and what is left of the string. -/
def move (s : String) : String × String := (s, "")

/-- An object and its message. -/
structure Data where
  name : String
  type : String
  values : List String
  handle : Pb.Data
  deriving DecidableEq, Repr

namespace Data

/-- The constructor from fields. -/
def make (name type : String) (values : List String) : Data :=
  let (nameMember, name) := move name
  let (typeMember, type) := move type
  { name := nameMember
    type := typeMember
    values := values
    handle := values.foldl Pb.Data.addValues ((({} : Pb.Data).setName name).setType type) }

/-- The constructor from a buffer, which ignores whether the buffer was parsed. -/
def ofBuffer (parseFromString : ParseFromArray Pb.Data) (buffer : Buffer) : Data :=
  let data := (parseFromString buffer).2
  { name := data.name
    type := data.type
    values := data.values.foldl (fun values s => values ++ [s]) []
    handle := data }

/-- The members equal the fields of the message. -/
structure Consistent (data : Data) : Prop where
  name : data.name = data.handle.name
  type : data.type = data.handle.type
  values : data.values = data.handle.values

/-- What the accessors of two objects return is the same. -/
structure SameFields (first second : Data) : Prop where
  name : first.name = second.name
  type : first.type = second.type
  values : first.values = second.values

/-- The loop over the values adds them in order, after those that are there. -/
theorem foldl_addValues (values : List String) (data : Pb.Data) :
    values.foldl Pb.Data.addValues data = { data with values := data.values ++ values } := by
  induction values generalizing data with
  | nil => simp only [List.foldl_nil, List.append_nil]
  | cons value rest ih =>
      rw [List.foldl_cons, ih]
      simp only [Pb.Data.addValues, List.append_assoc, List.cons_append, List.nil_append]

/-- The message of an object built from fields holds the values, but neither the
name nor the type: both were moved away before. -/
theorem make_handle (name type : String) (values : List String) :
    (make name type values).handle = { name := "", type := "", values } := by
  simp only [make, move, foldl_addValues, Pb.Data.setName, Pb.Data.setType, List.nil_append]

/-- An object built from a buffer agrees with its message: the loop over the
values of the message copies them. -/
theorem ofBuffer_consistent (parseFromString : ParseFromArray Pb.Data) (buffer : Buffer) :
    (ofBuffer parseFromString buffer).Consistent where
  name := rfl
  type := rfl
  values := by
    simp only [ofBuffer, List.foldl_append_eq_append, List.nil_append]
    exact List.flatMap_singleton' _

/-- The members of an object built from a buffer are the fields of the message
that was parsed. -/
theorem ofBuffer_sameFields_iff {parseFromString : ParseFromArray Pb.Data} {buffer : Buffer}
    {status : Bool} {message : Pb.Data} (parsed : parseFromString buffer = (status, message))
    (data : Data) :
    (ofBuffer parseFromString buffer).SameFields data ↔
      message.name = data.name ∧ message.type = data.type ∧ message.values = data.values := by
  have values : (ofBuffer parseFromString buffer).values = message.values := by
    rw [(ofBuffer_consistent parseFromString buffer).values]
    exact congrArg (fun result => result.2.values) parsed
  have name : (ofBuffer parseFromString buffer).name = message.name :=
    congrArg (fun result => result.2.name) parsed
  have type : (ofBuffer parseFromString buffer).type = message.type :=
    congrArg (fun result => result.2.type) parsed
  rw [← values, ← name, ← type]
  exact ⟨fun same => ⟨same.name, same.type, same.values⟩,
    fun same => ⟨same.1, same.2.1, same.2.2⟩⟩

/-- An object built from fields agrees with its message when there was nothing to
lose. -/
theorem make_consistent_iff (name type : String) (values : List String) :
    (make name type values).Consistent ↔ name = "" ∧ type = "" := by
  constructor
  · intro consistent
    have sameName := consistent.name
    have sameType := consistent.type
    rw [make_handle] at sameName sameType
    exact ⟨sameName, sameType⟩
  · intro empty
    refine ⟨?_, ?_, ?_⟩ <;> rw [make_handle]
    · exact empty.1
    · exact empty.2
    · rfl

/-- **When objects agree with their messages.** Every object built from a buffer
agrees with its message. An object built from fields agrees with its message and
with the object read back from it if and only if its name and its type are empty:
the message is filled from parameters that were moved from. The serialization of
the message is assumed to be parsed as the message. -/
theorem agrees_iff (serialize : Pb.Data → Buffer) (parseFromString : ParseFromArray Pb.Data)
    (name type : String) (values : List String)
    (roundTrips : parseFromString (serialize (make name type values).handle) =
      (true, (make name type values).handle)) :
    ((ofBuffer parseFromString (serialize (make name type values).handle)).SameFields
          (make name type values) ∧
        (make name type values).Consistent ∧
        ∀ buffer, (ofBuffer parseFromString buffer).Consistent) ↔
      name = "" ∧ type = "" := by
  constructor
  · intro agrees
    exact (make_consistent_iff name type values).mp agrees.2.1
  · intro empty
    have consistent := (make_consistent_iff name type values).mpr empty
    refine ⟨?_, consistent, ofBuffer_consistent parseFromString⟩
    exact (ofBuffer_sameFields_iff roundTrips _).mpr
      ⟨consistent.name.symm, consistent.type.symm, consistent.values.symm⟩

/-! ### A message with one value -/

/-- The message with one value and its bytes. -/
def oneValue : Pb.Data := { values := ["c"] }

def oneValueBytes : Buffer := [0x0a, 0, 0x12, 0, 0x1a, 1, 0x63]

def serializeOneValue (message : Pb.Data) : Buffer :=
  if message = oneValue then oneValueBytes else []

def parseOneValue (buffer : Buffer) : Bool × Pb.Data :=
  if buffer = oneValueBytes then (true, oneValue) else (false, {})

/-- A nameless object of no type is read back as it was. -/
theorem agrees_iff_oneValue :
    (ofBuffer parseOneValue (serializeOneValue (make "" "" ["c"]).handle)).SameFields
        (make "" "" ["c"]) ∧
      (make "" "" ["c"]).Consistent ∧ ∀ buffer, (ofBuffer parseOneValue buffer).Consistent :=
  (agrees_iff serializeOneValue parseOneValue "" "" ["c"] rfl).mpr ⟨rfl, rfl⟩

/-- A named object has a message without a name, and so has the object that is
read back from it, although the message is parsed as it was serialized. -/
theorem make_named :
    parseOneValue (serializeOneValue (make "price" "float" ["c"]).handle) =
        (true, (make "price" "float" ["c"]).handle) ∧
      ¬ (ofBuffer parseOneValue (serializeOneValue (make "price" "float" ["c"]).handle)).SameFields
        (make "price" "float" ["c"]) ∧
      ¬ (make "price" "float" ["c"]).Consistent := by
  refine ⟨rfl, fun same => ?_, fun consistent => ?_⟩
  · exact absurd same.name (by decide)
  · exact absurd consistent.name (by decide)

end Data

end OefCore
