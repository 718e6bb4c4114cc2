import OefCore.Search.Machine

/-! # The receive loop

The loop of `handle_messages` starts a read of the next two length words only from
inside the continuation it gives to `receive_`, and `receive_` does not invoke it
on a frame whose header does not decode. From that frame on nothing is read
any more, on behalf of any agent.

`OefCore.SearchState.keepsReading_iff` says exactly when the loop survives the
complete frames of a run: when each of them decodes, and has lengths whose sum is
a 32-bit number, as the receiver adds them.
-/

namespace OefCore

namespace SearchState

variable {Double : Type} (host : ByteOrder) (external : External Double)

/-- A frame event brings a complete frame: its lengths are those of its parts. -/
def CompleteFrame (event : SearchEvent Double) : Prop :=
  ∀ origin bytes, event = .frame origin bytes → ∃ header payload,
    header.length < 2 ^ 32 ∧ payload.length < 2 ^ 32 ∧
      bytes = OefSearchClient.frame header payload

/-- Whenever no frame is being handled, exactly one read of length words is
outstanding; and every frame whose header decodes is passed to `process_message_`
when it arrives. -/
def KeepsReading (start : SearchState Double) (events : List (SearchEvent Double)) : Prop :=
  (∀ earlier later state, events = earlier ++ later →
    Run (step host external) start earlier state → state.processing = none → state.reads = 1) ∧
  ∀ earlier later state next origin header payload,
    events = earlier ++ .frame origin (OefSearchClient.frame header payload) :: later →
    header.length < 2 ^ 32 → payload.length < 2 ^ 32 →
    Run (step host external) start earlier state →
    step host external state (.frame origin (OefSearchClient.frame header payload)) = some next →
    (external.transportHeader header).1 = true →
    next.processing.map (fun processing => processing.answer.header) =
      some (external.transportHeader header).2

/-- The frame decodes, and the receiver can add its lengths. -/
def GoodFrame (event : SearchEvent Double) : Prop :=
  ∀ origin header payload, header.length < 2 ^ 32 → payload.length < 2 ^ 32 →
    event = .frame origin (OefSearchClient.frame header payload) →
      (external.transportHeader header).1 = true ∧ header.length + payload.length < 2 ^ 32

variable {host external} {state next : SearchState Double}
  {origin : Option RequestId} {header payload : Buffer}

/-- The message of a complete frame. -/
theorem messageOf_frame (headerSmall : header.length < 2 ^ 32)
    (payloadSmall : payload.length < 2 ^ 32) :
    messageOf host external origin (OefSearchClient.frame header payload) =
      if (external.transportHeader header).1 = true ∧ header.length + payload.length < 2 ^ 32 then
        some { origin, header := (external.transportHeader header).2,
               payload := if payload.length = 0 then none else some payload }
      else none := by
  have round : (OefSearchClient.receive host external.transportHeader
      (OefSearchClient.frame header payload ++ [])).1 =
        OefSearchClient.receivedFrame external.transportHeader header payload :=
    OefSearchClient.receive_frame headerSmall payloadSmall []
  rw [List.append_nil] at round
  rw [messageOf, round, OefSearchClient.receivedFrame]
  by_cases small : header.length + payload.length < 2 ^ 32 <;>
    by_cases decodes : (external.transportHeader header).1 = true <;>
      simp only [small, decodes, and_self, and_true, and_false, Bool.false_eq_true, ↓reduceIte]

variable {client : OefSearchClient} {events : List (SearchEvent Double)}

/-- Good frames keep the loop going. -/
theorem run_reads (complete : ∀ event ∈ events, CompleteFrame event)
    (good : ∀ event ∈ events, GoodFrame external event)
    (run : Run (step host external) (initial client) events state) :
    state.reads + (if state.processing = none then 0 else 1) = 1 := by
  refine run.traceInvariant (fun events state =>
    (∀ event ∈ events, CompleteFrame event) → (∀ event ∈ events, GoodFrame external event) →
      state.reads + (if state.processing = none then 0 else 1) = 1)
    (fun _ _ => rfl) ?_ complete good
  intro events state event next _ before _ taken complete good
  have member : event ∈ events ++ [event] :=
    List.mem_append_right _ (List.mem_singleton_self event)
  refine (stepped_of_step taken).reads_kept ?_ <|
    before (fun other earlier => complete other (List.mem_append_left _ earlier))
      (fun other earlier => good other (List.mem_append_left _ earlier))
  rintro origin bytes rfl
  obtain ⟨header, payload, headerSmall, payloadSmall, rfl⟩ := complete _ member origin bytes rfl
  rw [messageOf_frame headerSmall payloadSmall,
    if_pos (good _ member origin header payload headerSmall payloadSmall rfl)]
  exact Option.some_ne_none _

/-- A frame that is not good is the last one that is read. -/
theorem goodFrames_of_keepsReading
    (run : Run (step host external) (initial client) events state)
    (reading : KeepsReading host external (initial client) events) :
    ∀ event ∈ events, GoodFrame external event := by
  rintro event member origin header payload headerSmall payloadSmall rfl
  obtain ⟨earlier, later, whole⟩ := List.append_of_mem member
  obtain ⟨before, after, prior, _, taken, _⟩ := RunWithin.around (whole ▸ run)
  have next : Run (step host external) (initial client)
      (earlier ++ [.frame origin (OefSearchClient.frame header payload)]) after :=
    .snoc prior trivial taken
  by_contra bad
  have noMessage : messageOf host external origin (OefSearchClient.frame header payload) = none :=
    by rw [messageOf_frame headerSmall payloadSmall, if_neg bad]
  have one : ∀ idle : before.processing = none, before.reads = 1 :=
    reading.1 earlier _ before whole prior
  have still := reading.1 _ later after (by rw [whole, List.append_assoc]; rfl) next
  cases stepped_of_step taken with
  | unread idle stopped =>
      have reads := one idle
      rw [stopped] at reads
      cases reads
  | dropped idle =>
      have reads := still idle
      change before.reads - 1 = 1 at reads
      rw [one idle] at reads
      cases reads
  | received _ _ message =>
      rw [noMessage] at message
      cases message

/-- A good frame that arrives while one read is outstanding is processed. -/
theorem processing_of_goodFrame (headerSmall : header.length < 2 ^ 32)
    (payloadSmall : payload.length < 2 ^ 32)
    (good : GoodFrame external (.frame origin (OefSearchClient.frame header payload)))
    (alone : state.reads + (if state.processing = none then 0 else 1) = 1)
    (taken : step host external state (.frame origin (OefSearchClient.frame header payload)) =
      some next) :
    next.processing.map (fun processing => processing.answer.header) =
      some (external.transportHeader header).2 := by
  have message := @messageOf_frame _ host external origin _ _ headerSmall payloadSmall
  rw [if_pos (good origin header payload headerSmall payloadSmall rfl)] at message
  have idle : state.processing = none := by
    cases stepped_of_step taken with
    | unread idle | dropped idle | received idle => exact idle
  rw [if_pos idle] at alone
  have listening : state.reads ≠ 0 := by omega
  rw [(stepped_of_step taken).looked_up listening message]
  rfl

/-- **The receive loop survives exactly the good frames.** In a run whose frames
are complete, one read is outstanding whenever no frame is being handled, and
every frame whose header decodes is processed, if and only if every frame of the
run has a header that decodes and lengths that add up within 32 bits. -/
theorem keepsReading_iff (complete : ∀ event ∈ events, CompleteFrame event)
    (run : Run (step host external) (initial client) events state) :
    KeepsReading host external (initial client) events ↔
      ∀ event ∈ events, GoodFrame external event := by
  refine ⟨goodFrames_of_keepsReading run, fun good => ?_⟩
  have reading : ∀ earlier later state, events = earlier ++ later →
      Run (step host external) (initial client) earlier state →
      state.reads + (if state.processing = none then 0 else 1) = 1 := by
    rintro earlier later state rfl run
    exact run_reads (fun event member => complete event (List.mem_append_left _ member))
      (fun event member => good event (List.mem_append_left _ member)) run
  refine ⟨fun earlier later state whole run idle => ?_, ?_⟩
  · have alone := reading earlier later state whole run
    rwa [if_pos idle] at alone
  · intro earlier later before after origin header payload whole headerSmall payloadSmall run
      taken _
    have member : SearchEvent.frame origin (OefSearchClient.frame header payload) ∈ events :=
      whole ▸ List.mem_append_right _ (List.mem_cons_self ..)
    exact processing_of_goodFrame headerSmall payloadSmall (good _ member)
      (reading earlier _ before whole run) taken

/-- A frame with a message is good. -/
theorem goodFrame_of_message {bytes : Buffer}
    (message : messageOf host external origin bytes ≠ none) :
    GoodFrame external (.frame origin bytes) := by
  intro other header payload headerSmall payloadSmall same
  cases same
  rw [messageOf_frame headerSmall payloadSmall] at message
  by_contra bad
  exact message (if_neg bad)

theorem completeFrame_frame (headerSmall : header.length < 2 ^ 32)
    (payloadSmall : payload.length < 2 ^ 32) :
    CompleteFrame
      (.frame origin (OefSearchClient.frame header payload) : SearchEvent Double) := by
  intro other bytes same
  cases same
  exact ⟨header, payload, headerSmall, payloadSmall, rfl⟩

/-- The loop survives a frame whose header holds nothing but an id. -/
theorem keepsReading_iff_id :
    KeepsReading .little shortExternal listening
      [.frame none (OefSearchClient.frame [0x10, 0x04] [])] := by
  refine (keepsReading_iff ?_ (run_of_execute rfl)).mpr ?_
  · intro event member
    rw [List.mem_singleton.mp member]
    exact completeFrame_frame (by decide) (by decide)
  · intro event member
    rw [List.mem_singleton.mp member]
    have message : messageOf .little shortExternal none
        (OefSearchClient.frame [0x10, 0x04] []) ≠ none := by decide
    exact goodFrame_of_message message

/-- A header that ends inside a tag, then one that holds nothing but an id. -/
def truncatedThenId : List (SearchEvent Int) :=
  [.frame none (OefSearchClient.frame [0xff] []),
    .frame none (OefSearchClient.frame [0x10, 0x04] [])]

/-- After a complete frame whose header does not decode, nothing is read: the
frame that follows it is not processed. -/
theorem truncatedThenId_stops :
    (∀ event ∈ truncatedThenId, CompleteFrame event) ∧
      (∃ state, Run (step .little shortExternal) listening truncatedThenId state ∧
        state.processing = none ∧ state.reads = 0) ∧
      ¬ KeepsReading .little shortExternal listening truncatedThenId := by
  refine ⟨?_, ⟨_, run_of_execute rfl, rfl, rfl⟩, ?_⟩
  · intro event member
    simp only [truncatedThenId, List.mem_cons, List.not_mem_nil, or_false] at member
    rcases member with rfl | rfl <;> exact completeFrame_frame (by decide) (by decide)
  · rintro ⟨reading, _⟩
    have one := reading truncatedThenId [] _ (List.append_nil _).symm (run_of_execute rfl) rfl
    exact absurd one (by decide)

end SearchState

end OefCore
