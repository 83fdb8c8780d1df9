import Looper.Midi

/-!
# Channel messages on the wire

A channel message is a status byte and one or two data bytes.  The high half of the status
byte is the kind of the message and its low half the channel; a data byte has seven bits.
What is read at the front of some bytes is the channel message there, and nothing is read
where none starts.  The eighth bit of a data byte is not looked at, so that bytes which are
no data are taken as data, up to a wheel position beyond the ends of the wheel.
-/

namespace Looper.Midi

/--
A channel message as it is sent, but for its channel.  It tells more than the event that it
stands for: how fast a note is released, and which of two ways of ending a note is used.
-/
inductive Message where
  | noteOff (note velocity : UInt8)
  | noteOn (note velocity : UInt8)
  | polyAftertouch (note pressure : UInt8)
  | control (controller value : UInt8)
  | program (program : UInt8)
  | aftertouch (pressure : UInt8)
  | pitch (low high : UInt8)
  deriving DecidableEq, Repr

namespace Message

/-- The high half of the status byte. -/
def kind : Message → UInt8
  | noteOff .. => 0x8
  | noteOn .. => 0x9
  | polyAftertouch .. => 0xA
  | control .. => 0xB
  | program _ => 0xC
  | aftertouch _ => 0xD
  | pitch .. => 0xE

def data : Message → List UInt8
  | noteOff first second | noteOn first second | polyAftertouch first second
  | control first second | pitch first second => [first, second]
  | program only | aftertouch only => [only]

def bytes (message : Message) (channel : UInt8) : List UInt8 :=
  (16 * message.kind + channel) :: message.data

/-- What a message tells.  A note that is played with no velocity ends. -/
def event (message : Message) (channel : UInt8) : Event :=
  match message with
  | noteOff note _ => .noteOff channel note
  | noteOn note velocity =>
      if velocity = 0 then .noteOff channel note else .noteOn channel note velocity
  | polyAftertouch note pressure => .polyAftertouch channel note pressure
  | control controller value => .control channel controller value
  | program patch => .program channel patch
  | aftertouch pressure => .aftertouch channel pressure
  | pitch low high => .pitch channel (pitchValue low high)

/-- Whether the data of a message leave out the bit that marks status bytes. -/
def IsSevenBit (message : Message) : Prop :=
  ∀ byte ∈ message.data, byte < 0x80

instance (message : Message) : Decidable message.IsSevenBit :=
  List.decidableBAll (· < 0x80) message.data

/-- The message is sent on one of the sixteen channels, and whatever follows it. -/
structure Starts (message : Message) (channel : UInt8) (bytes : List UInt8) : Prop where
  channel_lt : channel < 16
  front : ∃ rest, bytes = message.bytes channel ++ rest

theorem kind_lt (message : Message) : message.kind < 16 := by
  cases message <;> exact of_decide_eq_true rfl

/-- The number of data bytes depends on the kind of the message only. -/
theorem length_data (message : Message) :
    message.data.length = if message.kind = 0xC ∨ message.kind = 0xD then 1 else 2 := by
  cases message <;> rfl

end Message

/-! ## The status byte -/

section Status

variable {kind channel : UInt8} (kind_lt : kind < 16) (channel_lt : channel < 16)

include kind_lt channel_lt

theorem toNat_status : (16 * kind + channel).toNat = 16 * kind.toNat + channel.toNat := by
  rw [UInt8.lt_iff_toNat_lt] at kind_lt channel_lt
  simp only [UInt8.toNat_add, UInt8.toNat_mul, UInt8.toNat_ofNat] at kind_lt channel_lt ⊢
  omega

theorem kind_of_status : (16 * kind + channel).toNat / 16 = kind.toNat := by
  rw [toNat_status kind_lt channel_lt]
  rw [UInt8.lt_iff_toNat_lt] at channel_lt
  simp only [UInt8.toNat_ofNat] at channel_lt
  omega

theorem channel_of_status : (16 * kind + channel) % 16 = channel := by
  apply UInt8.toNat_inj.1
  rw [UInt8.toNat_mod, toNat_status kind_lt channel_lt]
  rw [UInt8.lt_iff_toNat_lt] at channel_lt
  simp only [UInt8.toNat_ofNat, Nat.reducePow, Nat.reduceMod] at channel_lt ⊢
  omega

end Status

theorem status_eq {status kind : UInt8} (isKind : status.toNat / 16 = kind.toNat) :
    status = 16 * kind + status % 16 := by
  apply UInt8.toNat_inj.1
  have below := status.toNat_lt
  simp only [UInt8.toNat_add, UInt8.toNat_mul, UInt8.toNat_mod, UInt8.toNat_ofNat,
    Nat.reducePow, Nat.reduceMod]
  omega

/-! ## Reading -/

namespace Event

theorem ofBytes?_of_starts {message : Message} {channel : UInt8} {bytes : List UInt8}
    (starts : message.Starts channel bytes) :
    ofBytes? bytes = some (message.event channel) := by
  obtain ⟨channel_lt, rest, rfl⟩ := starts
  have isKind := kind_of_status message.kind_lt channel_lt
  have isChannel := channel_of_status message.kind_lt channel_lt
  rw [Message.bytes, List.cons_append]
  unfold ofBytes?
  simp only [isKind, isChannel]
  cases message with
  | noteOn note velocity => exact (apply_ite some _ _ _).symm
  | _ => rfl

theorem starts_of_ofBytes? {bytes : List UInt8} (reads : (ofBytes? bytes).isSome) :
    ∃ (message : Message) (channel : UInt8), message.Starts channel bytes := by
  have found (message : Message) {status : UInt8} {rest : List UInt8}
      (isKind : status.toNat / 16 = message.kind.toNat) :
      ∃ (front : Message) (channel : UInt8),
        front.Starts channel (status :: (message.data ++ rest)) := by
    refine ⟨message, status % 16, UInt8.mod_lt _ (of_decide_eq_true rfl), rest, ?_⟩
    rw [Message.bytes, ← status_eq isKind, List.cons_append]
  -- A line of the reader tells the kind, and with it how many data bytes belong to the message.
  revert reads
  fun_cases ofBytes? bytes with
  | case1 => exact nofun
  | case2 _ _ note velocity _ isKind => exact fun _ => found (.noteOff note velocity) isKind
  | case3 _ _ note _ isKind => exact fun _ => found (.noteOn note 0) isKind
  | case4 _ _ note velocity _ isKind => exact fun _ => found (.noteOn note velocity) isKind
  | case5 _ _ note pressure _ isKind =>
      exact fun _ => found (.polyAftertouch note pressure) isKind
  | case6 _ _ controller value _ isKind =>
      exact fun _ => found (.control controller value) isKind
  | case7 _ _ patch _ isKind => exact fun _ => found (.program patch) isKind
  | case8 _ _ pressure _ isKind => exact fun _ => found (.aftertouch pressure) isKind
  | case9 _ _ low high _ isKind => exact fun _ => found (.pitch low high) isKind
  | case10 => exact nofun

/-- Nothing is read just where no message starts. -/
theorem ofBytes?_eq_none_iff {bytes : List UInt8} :
    ofBytes? bytes = none ↔
      ∀ (message : Message) (channel : UInt8), ¬ message.Starts channel bytes := by
  constructor
  · intro fails message channel starts
    rw [ofBytes?_of_starts starts] at fails
    cases fails
  · intro nowhere
    rw [Option.eq_none_iff_forall_ne_some]
    intro event reads
    obtain ⟨message, channel, starts⟩ := starts_of_ofBytes? (Option.isSome_of_eq_some reads)
    exact nowhere message channel starts

end Event

/-! ## Seven bits -/

/-- Two messages at the front of the same bytes have the same data. -/
theorem Message.Starts.data_eq {message other : Message} {channel otherChannel : UInt8}
    {bytes : List UInt8} (starts : message.Starts channel bytes)
    (otherStarts : other.Starts otherChannel bytes) : message.data = other.data := by
  obtain ⟨channel_lt, rest, rfl⟩ := starts
  obtain ⟨otherChannel_lt, otherRest, same⟩ := otherStarts
  obtain ⟨sameStatus, sameRest⟩ := List.cons.inj same
  have sameKind : message.kind = other.kind := by
    apply UInt8.toNat_inj.1
    rw [← kind_of_status message.kind_lt channel_lt, sameStatus,
      kind_of_status other.kind_lt otherChannel_lt]
  have sameLength : message.data.length = other.data.length := by
    rw [length_data, length_data, sameKind]
  exact (List.append_inj sameRest sameLength).1

/-- Seven low and seven high bits make up the position of the wheel. -/
theorem pitchValue_of_sevenBit {low high : UInt8} (seven : low < 0x80) :
    pitchValue low high = 128 * high.toNat + low.toNat - 8192 := by
  have low_lt : low.toNat < 2 ^ 7 := UInt8.lt_iff_toNat_lt.1 seven
  have isSum : 128 * high.toNat ||| low.toNat = 128 * high.toNat + low.toNat :=
    (Nat.two_pow_add_eq_or_of_lt low_lt high.toNat).symm
  rw [pitchValue, isSum, pitchCentre, Int.ofNat_eq_natCast]
  omega

/-- Whether the numbers in an event are those of MIDI. -/
def Event.InRange : Event → Prop
  | noteOn channel note velocity => channel ≤ 15 ∧ note ≤ 127 ∧ velocity ≤ 127
  | noteOff channel note => channel ≤ 15 ∧ note ≤ 127
  | control channel controller value => channel ≤ 15 ∧ controller ≤ 127 ∧ value ≤ 127
  | program channel patch => channel ≤ 15 ∧ patch ≤ 127
  | pitch channel value => channel ≤ 15 ∧ -8192 ≤ value ∧ value ≤ 8191
  | aftertouch channel pressure => channel ≤ 15 ∧ pressure ≤ 127
  | polyAftertouch channel note pressure => channel ≤ 15 ∧ note ≤ 127 ∧ pressure ≤ 127

theorem le_of_lt_next {byte last next : UInt8} (isNext : next.toNat = last.toNat + 1)
    (below : byte < next) : byte ≤ last := by
  rw [UInt8.lt_iff_toNat_lt, isNext] at below
  exact UInt8.le_iff_toNat_le.2 (Nat.le_of_lt_succ below)

theorem Message.inRange_event {message : Message} {channel : UInt8} (channel_lt : channel < 16)
    (seven : message.IsSevenBit) : (message.event channel).InRange := by
  have channel_le : channel ≤ 15 := le_of_lt_next rfl channel_lt
  have le_127 {byte : UInt8} (isData : byte ∈ message.data) : byte ≤ 127 :=
    le_of_lt_next rfl (seven byte isData)
  cases message with
  | noteOff => exact ⟨channel_le, le_127 (by simp [data])⟩
  | noteOn note velocity =>
      have note_le : note ≤ 127 := le_127 (by simp [data])
      have velocity_le : velocity ≤ 127 := le_127 (by simp [data])
      rw [event]
      split
      · exact ⟨channel_le, note_le⟩
      · exact ⟨channel_le, note_le, velocity_le⟩
  | polyAftertouch | control =>
      exact ⟨channel_le, le_127 (by simp [data]), le_127 (by simp [data])⟩
  | program | aftertouch => exact ⟨channel_le, le_127 (by simp [data])⟩
  | pitch low high =>
      have low_lt := seven low (by simp [data])
      have high_lt := UInt8.lt_iff_toNat_lt.1 (seven high (by simp [data]))
      rw [event, pitchValue_of_sevenBit low_lt]
      rw [UInt8.lt_iff_toNat_lt] at low_lt
      simp only [UInt8.toNat_ofNat, Nat.reducePow, Nat.reduceMod] at low_lt high_lt
      exact ⟨channel_le, by omega, by omega⟩

/--
Bytes are read just if a channel message starts them, and then as what this message tells,
whatever follows it.  If its data have seven bits, all numbers are those of MIDI, and a wheel
is as far from its centre as its fourteen bits say.  If they have not, the bytes are read all
the same, although no message of seven bits that starts them tells what is read.
-/
theorem reads_front_message (bytes : List UInt8) :
    (Event.ofBytes? bytes = none ↔
      ∀ (message : Message) (channel : UInt8), ¬ message.Starts channel bytes) ∧
    ∀ (message : Message) (channel : UInt8), message.Starts channel bytes →
      Event.ofBytes? bytes = some (message.event channel) ∧
      (message.IsSevenBit →
        (message.event channel).InRange ∧
        ∀ low high, message = .pitch low high →
          message.event channel =
            .pitch channel (128 * high.toNat + low.toNat - 8192)) ∧
      ((∃ (other : Message) (on : UInt8), other.IsSevenBit ∧ other.Starts on bytes ∧
          other.event on = message.event channel) ↔ message.IsSevenBit) := by
  refine ⟨Event.ofBytes?_eq_none_iff, fun message channel starts => ?_⟩
  refine ⟨Event.ofBytes?_of_starts starts, fun seven => ?_, ?_, ?_⟩
  · refine ⟨Message.inRange_event starts.channel_lt seven, ?_⟩
    rintro low high rfl
    rw [Message.event, pitchValue_of_sevenBit (seven low (by simp [Message.data]))]
  · rintro ⟨other, on, seven, otherStarts, -⟩
    rwa [Message.IsSevenBit, starts.data_eq otherStarts]
  · exact fun seven => ⟨message, channel, seven, starts, rfl⟩

/--
A wheel that is turned up all the way is read as such, before the message that follows it.
Two bytes that are no data are read as a wheel far beyond that.
-/
theorem wheel_beyond_its_end :
    ((Message.pitch 0x7F 0x7F).Starts 3 [0xE3, 0x7F, 0x7F, 0x93, 60, 100] ∧
      (Message.pitch 0x7F 0x7F).IsSevenBit ∧
      Event.ofBytes? [0xE3, 0x7F, 0x7F, 0x93, 60, 100] = some (.pitch 3 8191) ∧
      (Event.pitch 3 8191).InRange) ∧
    (Message.pitch 0xFF 0xFF).Starts 0 [0xE0, 0xFF, 0xFF] ∧
      Event.ofBytes? [0xE0, 0xFF, 0xFF] = some (.pitch 0 24575) ∧
      ¬ (Event.pitch 0 24575).InRange ∧
      ¬ ∃ (other : Message) (on : UInt8), other.IsSevenBit ∧
        other.Starts on [0xE0, 0xFF, 0xFF] ∧ other.event on = .pitch 0 24575 := by
  have turned : (Message.pitch 0x7F 0x7F).Starts 3 [0xE3, 0x7F, 0x7F, 0x93, 60, 100] :=
    ⟨by decide, [0x93, 60, 100], rfl⟩
  have seven : (Message.pitch 0x7F 0x7F).IsSevenBit := by decide
  obtain ⟨readsTurned, inRange, -⟩ := (reads_front_message _).2 _ 3 turned
  have starts : (Message.pitch 0xFF 0xFF).Starts 0 [0xE0, 0xFF, 0xFF] := ⟨by decide, [], rfl⟩
  obtain ⟨reads, -, wellFormed⟩ := (reads_front_message _).2 _ 0 starts
  refine ⟨⟨turned, seven, readsTurned, (inRange seven).1⟩, starts, reads, ?_, ?_⟩
  · exact fun beyond => absurd beyond.2.2 (by decide)
  · exact fun encoded => absurd (wellFormed.1 encoded) (by decide)

end Looper.Midi
