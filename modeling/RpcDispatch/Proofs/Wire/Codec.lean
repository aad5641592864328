import RpcDispatch.Proofs.Bytes
import RpcDispatch.Proofs.Wire.Reading
import Mathlib.Data.List.Basic

/-
This file says that reading undoes writing: a source that holds written frames is read back to
these frames, and whatever a source holds, reading takes the frames that it starts with and
stops, for the reason that the next bytes give, where no frame starts.
-/

namespace RpcDispatch.Wire

/-! ### Sources that hold bytes -/

/-- The bytes that a delivery brings, unless it is the end or a failure. -/
def Delivery.brought? : Delivery → Option Bytes
  | .bytes piece => some piece
  | .interrupted => some []
  | .ended | .failed _ => none

/-- The deliveries bring the bytes, in any pieces and with any interruptions, and then end. -/
inductive Carries : List Delivery → Bytes → Prop where
  | done : Carries [] []
  | brings {delivery : Delivery} {piece : Bytes} {later : List Delivery} {bytes : Bytes}
      (brings : delivery.brought? = some piece) (carries : Carries later bytes) :
      Carries (delivery :: later) (piece ++ bytes)

namespace Source

/-- The source gives exactly these bytes before it ends. -/
def Holds (source : Source) (bytes : Bytes) : Prop :=
  ∃ brought, Carries source.later brought ∧ bytes = source.current ++ brought

/-- A source that is made of bytes gives these. -/
theorem Holds.ofBytes (bytes : Bytes) : (ofBytes bytes).Holds bytes :=
  ⟨[], .done, (List.append_nil bytes).symm⟩

/-- Bytes at hand are taken without waiting for a delivery. -/
theorem takeLater_current {current : Bytes} {count : Nat} (later : List Delivery)
    (enough : count ≤ current.length) :
    takeLater later count current = (.ok (current.take count), ⟨current.drop count, later⟩) := by
  cases count with
  | zero => simp [takeLater]
  | succ count =>
      have within : count < current.length := enough
      cases later <;> simp [takeLater, within]

/-- Bytes that are not at hand are taken from the next delivery. -/
theorem takeLater_brings {delivery : Delivery} {piece current : Bytes} {count : Nat}
    (brings : delivery.brought? = some piece) (later : List Delivery)
    (short : current.length < count) :
    takeLater (delivery :: later) count current =
      ((takeLater later (count - current.length) piece).1.map (current ++ ·),
        (takeLater later (count - current.length) piece).2) := by
  obtain ⟨count, rfl⟩ := Nat.exists_eq_add_one_of_ne_zero (Nat.ne_zero_of_lt short)
  have beyond : ¬count < current.length := by omega
  cases delivery with
  | ended | failed message => cases brings
  | bytes | interrupted =>
      cases brings
      simp only [takeLater, beyond, if_false]
      split <;> simp_all [Except.map]

/-- Where the deliveries bring enough, exactly so many bytes are taken from them. -/
theorem takeLater_enough {later : List Delivery} {bytes : Bytes} (carries : Carries later bytes)
    (current : Bytes) (count : Nat) (enough : count ≤ (current ++ bytes).length) :
    ∃ rest, takeLater later count current = (.ok ((current ++ bytes).take count), rest) ∧
      rest.Holds ((current ++ bytes).drop count) := by
  induction carries generalizing current count with
  | done =>
      rw [List.append_nil] at enough ⊢
      exact ⟨_, takeLater_current [] enough, [], .done, (List.append_nil _).symm⟩
  | @brings delivery piece later bytes brings carries ih =>
      by_cases within : count ≤ current.length
      · rw [List.take_append_of_le_length within, List.drop_append_of_le_length within]
        exact ⟨_, takeLater_current _ within, piece ++ bytes, .brings brings carries, rfl⟩
      · rw [List.length_append] at enough
        obtain ⟨rest, took, holds⟩ := ih piece (count - current.length) (by omega)
        rw [List.take_append, List.take_of_length_le (by omega), List.drop_append,
          List.drop_of_length_le (by omega), List.nil_append]
        refine ⟨rest, ?_, holds⟩
        rw [takeLater_brings brings later (by omega), took]
        rfl

/-- Where the deliveries bring too little, they are used up. -/
theorem takeLater_short {later : List Delivery} {bytes : Bytes} (carries : Carries later bytes)
    (current : Bytes) {count : Nat} (short : (current ++ bytes).length < count) :
    takeLater later count current = (.error .ended, ⟨[], []⟩) := by
  induction carries generalizing current count with
  | done =>
      rw [List.append_nil] at short
      obtain ⟨count, rfl⟩ := Nat.exists_eq_add_one_of_ne_zero (Nat.ne_zero_of_lt short)
      have beyond : ¬count < current.length := by omega
      simp [takeLater, beyond]
  | @brings delivery piece later bytes brings carries ih =>
      rw [List.length_append] at short
      rw [takeLater_brings brings later (by omega), ih piece (by omega)]
      rfl

/-- As many bytes as there are can be taken, and the source then holds the others. -/
theorem take_enough {source : Source} (taken : Bytes) {rest : Bytes}
    (holds : source.Holds (taken ++ rest)) :
    ∃ after, source.take taken.length = (.ok taken, after) ∧ after.Holds rest := by
  obtain ⟨brought, carries, same⟩ := holds
  obtain ⟨after, took, later⟩ := takeLater_enough carries source.current taken.length
    (by rw [← same, List.length_append]; omega)
  rw [← same, List.take_left] at took
  rw [← same, List.drop_left] at later
  exact ⟨after, took, later⟩

/-- Asking for more bytes than there are takes them all and gives none. -/
theorem take_short {source : Source} {bytes : Bytes} {count : Nat} (holds : source.Holds bytes)
    (short : bytes.length < count) : source.take count = (.error .ended, ⟨[], []⟩) := by
  obtain ⟨brought, carries, rfl⟩ := holds
  exact takeLater_short carries source.current short

end Source

/-! ### Reading one frame -/

/-- The tag of a framing is read as that framing. -/
theorem framingOf_tagOf (framing : Rpc.Framing) : framingOf? (tagOf framing) = some framing := by
  cases framing <;> rfl

/-- There are two tags. -/
theorem tagOf_eq (framing : Rpc.Framing) : tagOf framing = 0 ∨ tagOf framing = 1 := by
  cases framing <;> decide

/-- A known tag is the tag of its framing. -/
theorem framingOf_eq_some {tag : UInt8} {framing : Rpc.Framing}
    (known : framingOf? tag = some framing) : tagOf framing = tag := by
  unfold framingOf? at known
  split at known
  · next text =>
      cases known
      exact text.symm
  · split at known
    · next binary =>
        cases known
        exact binary.symm
    · cases known

/-- Every other tag is unknown. -/
theorem framingOf_eq_none {tag : UInt8} : framingOf? tag = none ↔ tag ≠ 0 ∧ tag ≠ 1 := by
  unfold framingOf?
  grind

/-- Why reading stops before these bytes, and the bytes that it leaves. -/
inductive Stops (limit : Nat) : (bytes : Bytes) → Option FrameFault → (left : Bytes) → Prop where
  /-- There is nothing more. -/
  | clean : Stops limit [] none []
  /-- The header is incomplete. -/
  | header {bytes : Bytes} (some : bytes ≠ []) (short : bytes.length < 5) :
      Stops limit bytes (.some .truncated) []
  /-- Nothing but the header is taken. -/
  | tag {tag : UInt8} {length payload : Bytes} (four : length.length = 4)
      (unknown : tag ≠ 0 ∧ tag ≠ 1) :
      Stops limit (tag :: length ++ payload) (some (.unknownTag tag)) payload
  /-- Nothing but the header is taken. -/
  | size {tag : UInt8} {length payload : Bytes} (four : length.length = 4)
      (known : tag = 0 ∨ tag = 1) (large : limit < Bytes.ofLittleEndian length) :
      Stops limit (tag :: length ++ payload)
        (some (.tooLarge (Bytes.ofLittleEndian length) limit)) payload
  /-- Fewer bytes of the payload remain than announced. -/
  | payload {tag : UInt8} {length payload : Bytes} (four : length.length = 4)
      (known : tag = 0 ∨ tag = 1) (small : Bytes.ofLittleEndian length ≤ limit)
      (short : payload.length < Bytes.ofLittleEndian length) :
      Stops limit (tag :: length ++ payload) (some .truncated) []

/-- Reading ends without a fault when there are no more bytes. -/
theorem Stops.clean_iff {limit : Nat} {bytes left : Bytes} {fault : Option FrameFault}
    (stops : Stops limit bytes fault left) : fault = none ↔ bytes = [] := by
  cases stops with
  | clean => simp
  | header some => simp [some]
  | tag | size | payload => simp

namespace Frame

/-- A source without bytes has no frame. -/
theorem read_clean {limit : Nat} {source : Source} (holds : source.Holds []) :
    read limit source = (.ok none, ⟨[], []⟩) := by
  unfold read
  rw [Source.take_short holds (by decide)]

/-- Enough bytes begin with a tag and a length. -/
theorem exists_header {bytes : Bytes} (enough : 5 ≤ bytes.length) :
    ∃ tag length payload, bytes = tag :: length ++ payload ∧ length.length = 4 := by
  obtain ⟨tag, body, rfl⟩ := List.exists_cons_of_length_pos (Nat.lt_of_lt_of_le (by decide) enough)
  rw [List.length_cons] at enough
  exact ⟨tag, body.take 4, body.drop 4, by simp, List.length_take_of_le (by omega)⟩

/-- A source that starts with a header gives it to the payload's reader. -/
theorem read_header (limit : Nat) {source : Source} {tag : UInt8} {length payload : Bytes}
    (four : length.length = 4) (holds : source.Holds (tag :: length ++ payload)) :
    ∃ after, after.Holds payload ∧
      read limit source = ((readPayload limit tag length after).1.map some,
        (readPayload limit tag length after).2) := by
  obtain ⟨next, tagged, held⟩ := Source.take_enough [tag] holds
  obtain ⟨after, measured, left⟩ := Source.take_enough length held
  rw [four] at measured
  refine ⟨after, left, ?_⟩
  unfold read
  rw [show source.take 1 = _ from tagged]
  simp only [measured]

/-- Fewer bytes than a header are a truncated frame. -/
theorem read_short {limit : Nat} {source : Source} {bytes : Bytes} (some : bytes ≠ [])
    (short : bytes.length < 5) (holds : source.Holds bytes) :
    read limit source = (.error .truncated, ⟨[], []⟩) := by
  obtain ⟨tag, rest, rfl⟩ := List.exists_cons_of_ne_nil some
  obtain ⟨next, tagged, held⟩ := Source.take_enough [tag] (show source.Holds ([tag] ++ rest) from holds)
  have few : rest.length < 4 := Nat.lt_of_succ_lt_succ short
  unfold read
  rw [show source.take 1 = _ from tagged]
  simp only [Source.take_short held few, FrameFault.ofShortage]

/-- A payload of the announced length is taken. -/
theorem readPayload_enough {limit : Nat} {tag : UInt8} {length content rest : Bytes}
    {framing : Rpc.Framing} {source : Source} (known : framingOf? tag = some framing)
    (announced : content.length = Bytes.ofLittleEndian length) (small : content.length ≤ limit)
    (holds : source.Holds (content ++ rest)) :
    ∃ after, readPayload limit tag length source = (.ok ⟨framing, content⟩, after) ∧
      after.Holds rest := by
  obtain ⟨after, taken, left⟩ := Source.take_enough content holds
  have within : ¬limit < content.length := Nat.not_lt.mpr small
  exact ⟨after, by simp only [readPayload, known, ← announced, within, if_false, taken], left⟩

/-- A source that starts with a frame within the limit gives the frame. -/
theorem read_encode {limit : Nat} {source : Source} {frame : Frame} {rest : Bytes}
    (small : frame.payload.length ≤ limit) (fits : frame.payload.length < Bytes.lengthBound)
    (holds : source.Holds (frame.encode ++ rest)) :
    ∃ after, read limit source = (.ok (some frame), after) ∧ after.Holds rest := by
  rw [encode, List.append_assoc] at holds
  obtain ⟨next, held, same⟩ :=
    read_header limit (Bytes.length_lengthField frame.payload.length) holds
  obtain ⟨after, taken, left⟩ := readPayload_enough (framingOf_tagOf frame.framing)
    (Bytes.ofLittleEndian_lengthField fits).symm small held
  exact ⟨after, by rw [same, taken]; rfl, left⟩

/-- What follows a header is a payload of the announced length, or it is not read. -/
theorem readPayload_holds (limit : Nat) (tag : UInt8) {length payload : Bytes} {source : Source}
    (four : length.length = 4) (holds : source.Holds payload) :
    (∃ frame rest after, tag :: length ++ payload = frame.encode ++ rest ∧
      frame.payload.length ≤ limit ∧
      readPayload limit tag length source = (.ok frame, after) ∧ after.Holds rest) ∨
    (∃ fault left after, Stops limit (tag :: length ++ payload) (some fault) left ∧
      after.Holds left ∧ readPayload limit tag length source = (.error fault, after)) := by
  cases found : framingOf? tag with
  | none =>
      exact .inr ⟨_, payload, source, .tag four (framingOf_eq_none.mp found), holds,
        by simp only [readPayload, found]⟩
  | some framing =>
      have tagged : tagOf framing = tag := framingOf_eq_some found
      have known : tag = 0 ∨ tag = 1 := tagged ▸ tagOf_eq framing
      by_cases large : limit < Bytes.ofLittleEndian length
      · exact .inr ⟨_, payload, source, .size four known large, holds,
          by simp only [readPayload, found, large, if_true]⟩
      have small : Bytes.ofLittleEndian length ≤ limit := Nat.not_lt.mp large
      by_cases few : payload.length < Bytes.ofLittleEndian length
      · refine .inr ⟨_, [], ⟨[], []⟩, .payload four known small few, .ofBytes [], ?_⟩
        simp only [readPayload, found, large, if_false, Source.take_short holds few]
        rfl
      · obtain ⟨content, rest, rfl, announced⟩ : ∃ content rest, payload = content ++ rest ∧
            content.length = Bytes.ofLittleEndian length :=
          ⟨_, _, (List.take_append_drop _ payload).symm,
            List.length_take_of_le (Nat.not_lt.mp few)⟩
        have field : Bytes.lengthField content.length = length := by
          rw [announced]
          exact Bytes.lengthField_ofLittleEndian four
        obtain ⟨after, read, left⟩ :=
          readPayload_enough found announced (announced ▸ small) holds
        exact .inl ⟨⟨framing, content⟩, rest, after, by simp [encode, tagged, field],
          announced ▸ small, read, left⟩

/-- A source gives the frame that its bytes start with, or stops for the reason that they
give. -/
theorem read_holds (limit : Nat) {source : Source} {bytes : Bytes} (holds : source.Holds bytes) :
    (∃ frame rest after, bytes = frame.encode ++ rest ∧ frame.payload.length ≤ limit ∧
      read limit source = (.ok (some frame), after) ∧ after.Holds rest) ∨
    (∃ fault left after, Stops limit bytes fault left ∧ after.Holds left ∧
      read limit source = (fault.elim (.ok none) .error, after)) := by
  by_cases empty : bytes = []
  · subst empty
    exact .inr ⟨none, [], ⟨[], []⟩, .clean, .ofBytes [], read_clean holds⟩
  by_cases short : bytes.length < 5
  · exact .inr ⟨some .truncated, [], ⟨[], []⟩, .header empty short, .ofBytes [],
      read_short empty short holds⟩
  obtain ⟨tag, length, payload, rfl, four⟩ := exists_header (Nat.not_lt.mp short)
  obtain ⟨next, held, same⟩ := read_header limit four holds
  obtain ⟨frame, rest, after, whole, small, read, left⟩ | ⟨fault, left, after, stops, held, read⟩ :=
    readPayload_holds limit tag four held
  · exact .inl ⟨frame, rest, after, whole, small, by rw [same, read]; rfl, left⟩
  · exact .inr ⟨some fault, left, after, stops, held, by rw [same, read]; rfl⟩

end Frame

/-! ### Reading to the end -/

/-- Reading to the end has one result. -/
theorem Reads.unique {limit : Nat} {source rest rest' : Source} {frames frames' : List Frame}
    {fault fault' : Option FrameFault} (reads : Reads limit source frames fault rest)
    (reads' : Reads limit source frames' fault' rest') :
    frames = frames' ∧ fault = fault' ∧ rest = rest' := by
  induction reads generalizing frames' fault' rest' with
  | ended read | failed read =>
      cases reads' with
      | ended read' | failed read' | frame read' =>
          rw [read] at read'
          cases read'
          try exact ⟨rfl, rfl, rfl⟩
  | frame read reads ih =>
      cases reads' with
      | ended read' | failed read' =>
          rw [read] at read'
          cases read'
      | frame read' reads' =>
          rw [read] at read'
          cases read'
          obtain ⟨rfl, rfl, rfl⟩ := ih reads'
          exact ⟨rfl, rfl, rfl⟩

namespace Frame

/-- The frames that are read are those that the bytes start with. -/
theorem holds_reads {limit : Nat} {source after : Source} {frames : List Frame}
    {fault : Option FrameFault} (reads : Reads limit source frames fault after) {bytes : Bytes}
    (holds : source.Holds bytes) :
    ∃ rest left, bytes = frames.flatMap encode ++ rest ∧ Stops limit rest fault left ∧
      after.Holds left ∧ ∀ frame ∈ frames, frame.payload.length ≤ limit := by
  induction reads generalizing bytes with
  | ended read =>
      obtain ⟨_, _, _, _, _, same, _⟩ | ⟨fault, left, after, stops, held, same⟩ :=
        read_holds limit holds
      · rw [read] at same
        cases same
      · rw [read] at same
        cases fault with
        | none =>
            cases same
            exact ⟨bytes, left, rfl, stops, held, by simp⟩
        | some fault => cases same
  | failed read =>
      obtain ⟨_, _, _, _, _, same, _⟩ | ⟨fault, left, after, stops, held, same⟩ :=
        read_holds limit holds
      · rw [read] at same
        cases same
      · rw [read] at same
        cases fault with
        | none => cases same
        | some fault =>
            cases same
            exact ⟨bytes, left, rfl, stops, held, by simp⟩
  | frame read reads ih =>
      obtain ⟨frame, rest, after, rfl, small, same, held⟩ | ⟨fault, _, _, _, _, same⟩ :=
        read_holds limit holds
      · rw [read] at same
        cases same
        obtain ⟨last, left, rfl, stops, held, smalls⟩ := ih held
        exact ⟨last, left, by simp, stops, held, by simpa using ⟨small, smalls⟩⟩
      · rw [read] at same
        cases fault <;> cases same

/-- Frames within the limit are read back from a source that holds them. -/
theorem reads_encode {limit : Nat} (frames : List Frame)
    (small : ∀ frame ∈ frames, frame.payload.length ≤ limit)
    (fits : ∀ frame ∈ frames, frame.payload.length < Bytes.lengthBound) {source : Source}
    (holds : source.Holds (frames.flatMap encode)) :
    ∃ after, Reads limit source frames none after ∧ after.Holds [] := by
  induction frames generalizing source with
  | nil => exact ⟨_, .ended (read_clean holds), .ofBytes []⟩
  | cons frame frames ih =>
      rw [List.flatMap_cons] at holds
      obtain ⟨next, read, held⟩ :=
        read_encode (small frame (by simp)) (fits frame (by simp)) holds
      obtain ⟨after, reads, left⟩ := ih (fun other mem => small other (.tail _ mem))
        (fun other mem => fits other (.tail _ mem)) held
      exact ⟨after, .frame read reads, left⟩

/-- A frame that fits is written in full into a sink without limit. -/
theorem write_of_fits {frame : Frame} {sink : Sink}
    (fits : frame.payload.length < Bytes.lengthBound) (unlimited : sink.capacity = none)
    (flushes : sink.flushMessage = none) : frame.write sink = (.ok (), frame.encode) := by
  simp [write, Nat.not_le.mpr fits, unlimited, flushes]

/-- Reading and writing agree on streams of frames.  Frames that fit are written and read back,
in whatever pieces their bytes come.  Any bytes are read to an end: they are the frames read, each
within the limit, and a rest that starts with no frame and says why reading stopped. -/
theorem stream_codec (limit : Nat) :
    (∀ (frames : List Frame) (sink : Sink),
      (∀ frame ∈ frames, frame.payload.length ≤ limit) →
      (∀ frame ∈ frames, frame.payload.length < Bytes.lengthBound) →
      sink.capacity = none → sink.flushMessage = none →
        (∀ frame ∈ frames, (frame.write sink).1 = .ok ()) ∧
        ∀ source : Source, source.Holds (frames.flatMap fun frame => (frame.write sink).2) →
          ∃ after, Reads limit source frames none after ∧ readAll limit source =
            ⟨frames, none, after⟩ ∧ after.Holds []) ∧
    (∀ (bytes : Bytes) (source : Source), source.Holds bytes →
      ∃ frames fault after rest left, Reads limit source frames fault after ∧
        readAll limit source = ⟨frames, fault, after⟩ ∧
        bytes = frames.flatMap encode ++ rest ∧
        (∀ frame ∈ frames, frame.payload.length ≤ limit) ∧
        (fault = none ↔ rest = []) ∧ Stops limit rest fault left ∧ after.Holds left) := by
  have all : ∀ {source after : Source} {frames : List Frame} {fault : Option FrameFault},
      Reads limit source frames fault after → readAll limit source = ⟨frames, fault, after⟩ := by
    intro source after frames fault reads
    obtain ⟨rfl, rfl, rfl⟩ := reads.unique (readAll_reads limit source)
    rfl
  constructor
  · intro frames sink small fits unlimited flushes
    have written : ∀ frame ∈ frames, frame.write sink = (.ok (), frame.encode) :=
      fun frame mem => write_of_fits (fits frame mem) unlimited flushes
    refine ⟨fun frame mem => by rw [written frame mem], fun source holds => ?_⟩
    rw [List.flatMap_congr fun frame mem => congrArg Prod.snd (written frame mem)] at holds
    obtain ⟨after, reads, held⟩ := reads_encode frames small fits holds
    exact ⟨after, reads, all reads, held⟩
  · intro bytes source holds
    have reads := readAll_reads limit source
    obtain ⟨rest, left, same, stops, held, small⟩ := holds_reads reads holds
    exact ⟨_, _, _, rest, left, reads, rfl, same, small, stops.clean_iff, stops, held⟩

/-- A frame that comes in pieces is read, and so are bytes that are no frame. -/
theorem stream_codec_pieces :
    (∃ after, Reads 1 ⟨[0], [.bytes [1, 0, 0], .interrupted, .bytes [0, 65]]⟩ [⟨.text, [65]⟩]
        none after ∧
      readAll 1 ⟨[0], [.bytes [1, 0, 0], .interrupted, .bytes [0, 65]]⟩ =
        ⟨[⟨.text, [65]⟩], none, after⟩ ∧ after.Holds []) ∧
    ∃ frames fault after rest left, Reads 1 (.ofBytes [7, 0, 0, 0, 0, 65]) frames fault after ∧
      readAll 1 (.ofBytes [7, 0, 0, 0, 0, 65]) = ⟨frames, fault, after⟩ ∧
      [7, 0, 0, 0, 0, 65] = frames.flatMap encode ++ rest ∧
      (∀ frame ∈ frames, frame.payload.length ≤ 1) ∧
      (fault = none ↔ rest = []) ∧ Stops 1 rest fault left ∧ after.Holds left := by
  have carries : Carries [.bytes [1, 0, 0], .interrupted, .bytes [0, 65]]
      ([1, 0, 0] ++ ([] ++ ([0, 65] ++ []))) := .brings rfl (.brings rfl (.brings rfl .done))
  constructor
  · exact ((stream_codec 1).1 [⟨.text, [65]⟩] ⟨none, none, none⟩ (by decide) (by decide) rfl
      rfl).2 ⟨[0], [.bytes [1, 0, 0], .interrupted, .bytes [0, 65]]⟩ ⟨_, carries, rfl⟩
  · exact (stream_codec 1).2 _ _ (.ofBytes [7, 0, 0, 0, 0, 65])

end Frame

end RpcDispatch.Wire
