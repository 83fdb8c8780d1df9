/-!
# MIDI channel messages

A channel message is a status byte, whose low half is the channel, followed by
one or two data bytes.  Bytes after a complete message are ignored; system
messages, lone data bytes and messages that are cut short mean nothing here.
-/

namespace Looper.Midi

/-- A channel message.  Channels count from zero, as on the wire. -/
inductive Event where
  | noteOn (channel note velocity : UInt8)
  | noteOff (channel note : UInt8)
  | control (channel controller value : UInt8)
  | program (channel program : UInt8)
  /-- The wheel's distance from its centre. -/
  | pitch (channel : UInt8) (value : Int)
  | aftertouch (channel pressure : UInt8)
  | polyAftertouch (channel note pressure : UInt8)
  deriving DecidableEq, Repr

def pitchCentre : Int := 8192

/-- A wheel position from its low and high seven bits. -/
def pitchValue (low high : UInt8) : Int :=
  Int.ofNat (128 * high.toNat ||| low.toNat) - pitchCentre

/-- Read the channel message at the front of some bytes. -/
def Event.ofBytes? : List UInt8 → Option Event
  | [] => none
  | status :: data =>
      let channel := status % 16
      match status.toNat / 16, data with
      | 0x8, note :: _ :: _ => some (.noteOff channel note)
      | 0x9, note :: velocity :: _ =>
          if velocity = 0 then some (.noteOff channel note)
          else some (.noteOn channel note velocity)
      | 0xA, note :: pressure :: _ => some (.polyAftertouch channel note pressure)
      | 0xB, controller :: value :: _ => some (.control channel controller value)
      | 0xC, patch :: _ => some (.program channel patch)
      | 0xD, pressure :: _ => some (.aftertouch channel pressure)
      | 0xE, low :: high :: _ => some (.pitch channel (pitchValue low high))
      | _, _ => none

/--
A MIDI input on a machine whose MIDI system offers the named ports.  Nothing is
connected until a port is chosen.
-/
structure Input where
  ports : List String
  connected : Option String := none
  events : List Event := []

/-- Why a port could not be opened. -/
inductive InputError where
  | noMatch (device : Option String)
  deriving DecidableEq, Repr

def InputError.message : InputError → String
  | noMatch device =>
      let wanted := device.getD "any device"
      s!"MIDI error: no MIDI input matching {wanted}"

namespace Input

def folded (name : String) : List Char :=
  name.toList.map Char.toLower

def occurs (wanted : List Char) : List Char → Bool
  | [] => wanted.isEmpty
  | c :: rest => wanted.isPrefixOf (c :: rest) || occurs wanted rest

/-- Whether one name occurs within another, without regard to ASCII case. -/
def mentions (port device : String) : Bool :=
  occurs (folded device) (folded port)

/-- Connect to the first port whose name mentions the device, or to the first port at all. -/
def connect (input : Input) (device : Option String) : Except InputError Input :=
  let chosen :=
    match device with
    | some wanted => input.ports.find? fun port => mentions port wanted
    | none => input.ports.head?
  match chosen with
  | some port => .ok { input with connected := some port, events := [] }
  | none => .error (.noMatch device)

end Input

end Looper.Midi
