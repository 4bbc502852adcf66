import BleManaged.Lib.Source
import BleManaged.Socks.Chunker

/-! Packets, the bytes they are sent as, and the grammar the receiver accepts. -/

namespace BleManaged

open LittleEndian

/-- A packet of the multiplexing protocol. -/
inductive Packet where
  /-- Bytes of the TCP stream that has a port. -/
  | data (port : UInt16) (data : Bytes)
  /-- A keep alive or a connection status, with the bytes it is sent as. -/
  | control (msgType : UInt8) (forPort : UInt16) (status : UInt8) (rawData : Bytes)
  deriving DecidableEq, Repr

/-- How `Packet::serialize` fails. -/
inductive SerializeError where
  /-- The data does not fit a 32-bit length. -/
  | tooLarge (dataLength : Nat)
  deriving DecidableEq, Repr

/-- The text of a serialization error. -/
def SerializeError.message : SerializeError → String
  | .tooLarge dataLength => "data too large to send " ++ toString dataLength

/-- How `Packet::deserialize` fails: too few bytes for a field, or a field it does not know. -/
inductive DeserializeError where
  | port (error : ChunkerError)
  | msgType (error : ChunkerError)
  | unknownMsgType (msgType : UInt8)
  | forPort (error : ChunkerError)
  | status (error : ChunkerError)
  | unknownStatus (forPort : UInt16) (status : UInt8)
  | length (error : ChunkerError)
  | data (length : UInt32) (error : ChunkerError)
  deriving DecidableEq, Repr

/-- The text of a deserialization error. -/
def DeserializeError.message : DeserializeError → String
  | .port error => "failed to read 2 bytes for 'port': " ++ error.message
  | .msgType error => "failed to read 1 byte for 'msg_type': " ++ error.message
  | .unknownMsgType unknown => "do not know how to handle 'msg_type' " ++ toString unknown
  | .forPort error => "failed to read 2 bytes for 'for_port': " ++ error.message
  | .status error => "failed to read 1 byte for 'status': " ++ error.message
  | .unknownStatus named unknown =>
    "Do not know how to handle 'for_port' " ++ toString named ++
      " and 'status' " ++ toString unknown
  | .length error => "failed to read 4 bytes for length: " ++ error.message
  | .data size error =>
    "failed to read " ++ toString size ++ " bytes for data: " ++ error.message

namespace Packet

/-- A connection status packet: PORT 0, MSG_TYPE 1, FOR_PORT, STATUS. -/
def controlSocket (status : UInt8) (forPort : UInt16) : Packet :=
  -- The two constructors of the source differ in nothing but the status.
  .control 1 forPort status (writeU16 0 ++ [1] ++ writeU16 forPort ++ [status])

/-- The packet that opens a port. -/
def controlSocketOpen (forPort : UInt16) : Packet := controlSocket 1 forPort

/-- The packet that closes a port. -/
def controlSocketClosed (forPort : UInt16) : Packet := controlSocket 0 forPort

/-- The keep alive packet: PORT 0, MSG_TYPE 0. -/
def keepalive : Packet := .control 0 0 0 (writeU16 0 ++ [0])

/-- The bytes of a packet on the wire. -/
def serialize : Packet → Except SerializeError Bytes
  | .data port bytes =>
    -- The length is cast to 32 bits, and has been checked to fit.
    if bytes.length > 4294967295 then .error (.tooLarge bytes.length)
    else .ok (writeU16 port ++ writeU32 (UInt32.ofNat bytes.length) ++ bytes)
  -- Control packets carry their own bytes, and the other fields are not looked at.
  | .control _ _ _ rawData => .ok rawData

/-- The body of `Packet::deserialize`, as a program of the chunker reads it makes. -/
def deserializer : Prog Nat (Except ChunkerError Bytes) (Except DeserializeError Packet) := do
  match ← Prog.query 2 with
  | .error error => return .error (.port error)
  | .ok portBytes =>
    let port := readU16 portBytes
    -- Control packet.
    if port = 0 then
      match ← Prog.query 1 with
      | .error error => return .error (.msgType error)
      | .ok msgTypeByte =>
        let msgType := msgTypeByte[0]!
        -- Keep alive.
        if msgType = 0 then return .ok keepalive
        else if msgType ≠ 1 then return .error (.unknownMsgType msgType)
        else
          -- Connection status.
          match ← Prog.query 2 with
          | .error error => return .error (.forPort error)
          | .ok forPortBytes =>
            let forPort := readU16 forPortBytes
            match ← Prog.query 1 with
            | .error error => return .error (.status error)
            | .ok statusByte =>
              let status := statusByte[0]!
              if status = 0 then return .ok (controlSocketClosed forPort)
              else if status = 1 then return .ok (controlSocketOpen forPort)
              else return .error (.unknownStatus forPort status)
    -- Data packet.
    else
      match ← Prog.query 4 with
      | .error error => return .error (.length error)
      | .ok lengthBytes =>
        let length := readU32 lengthBytes
        -- The source builds this payload with `vec![0u8, 0]`, a list of two zero bytes.
        if length = 0 then return .ok (.data port [0, 0])
        else
          match ← Prog.query length.toNat with
          | .error error => return .error (.data length error)
          | .ok bytes => return .ok (.data port bytes)

/-- The port is read first, and nothing is decoded without it. -/
theorem deserializer_first : ∃ resume, deserializer = .ask 2 resume ∧
    ∀ error, resume (.error error) = .done (.error (.port error)) :=
  -- The program is a question by definition, and its first branch is the failure.
  ⟨_, rfl, fun _ => rfl⟩

/-- `Packet::deserialize` on a chunker, receiving chunks whenever the buffer runs short. -/
def deserialize (chunker : Chunker) :
    Receiving Bytes (Except DeserializeError Packet × Chunker) :=
  -- Bytes left over by one packet stay in the chunker for the next one.
  deserializer.through Chunker.read chunker

/-- What the same reads give on bytes that are all there. -/
def decode (bytes : Bytes) : Except DeserializeError Packet × Bytes :=
  deserializer.run takeBytes bytes

/-- On a closed channel of non-empty chunks, only the flat bytes decide what is returned. -/
theorem deserialize_decode {chunker : Chunker} {queue : List Bytes} {bytes : Bytes}
    (holds : chunker.Holds queue bytes) :
    ((deserialize chunker).finish queue).1.1 = (decode bytes).1 ∧
      ((deserialize chunker).finish queue).1.2.Holds ((deserialize chunker).finish queue).2
        (decode bytes).2 :=
  -- The packet is decoded by the same program on both levels, and every read is answered alike.
  Prog.run_through Chunker.read_implements deserializer holds

/-- The wire grammar, with the packet that each of its words is decoded to. -/
inductive Frame : Bytes → Packet → Prop where
  /-- PORT 0 and MSG_TYPE 0. -/
  | keepalive : Frame [0, 0, 0] keepalive
  /-- PORT 0, MSG_TYPE 1, a port and STATUS 0. -/
  | closed (low high : UInt8) :
      Frame [0, 0, 1, low, high, 0] (controlSocketClosed (readU16 [low, high]))
  /-- PORT 0, MSG_TYPE 1, a port and STATUS 1. -/
  | opened (low high : UInt8) :
      Frame [0, 0, 1, low, high, 1] (controlSocketOpen (readU16 [low, high]))
  /-- A port, a length and that many bytes; the empty payload is decoded to two zero bytes. -/
  | data {low high a b c d : UInt8} {payload : Bytes} (port : readU16 [low, high] ≠ 0)
      (length : payload.length = (readU32 [a, b, c, d]).toNat) :
      Frame ([low, high, a, b, c, d] ++ payload)
        (.data (readU16 [low, high]) (if payload = [] then [0, 0] else payload))

/-- Every word of the grammar is decoded, and nothing behind it is touched. -/
theorem Frame.decode {word : Bytes} {packet : Packet} (frame : Frame word packet)
    (rest : Bytes) : Packet.decode (word ++ rest) = (.ok packet, rest) := by
  -- The reads of the decoder are run on the word, branch by branch.
  cases frame with
  | keepalive => simp [Packet.decode, deserializer, Prog.query, takeBytes, readU16]
  | closed low high => simp [Packet.decode, deserializer, Prog.query, takeBytes, readU16_eq_zero]
  | opened low high => simp [Packet.decode, deserializer, Prog.query, takeBytes, readU16_eq_zero]
  | @data low high a b c d payload port length =>
    have named : ¬(low = 0 ∧ high = 0) := fun zero => port ((readU16_eq_zero low high).mpr zero)
    by_cases empty : payload = []
    · -- An empty payload is announced by a zero length, for which no data is read.
      subst empty
      have zero : readU32 [a, b, c, d] = 0 := UInt32.toNat_inj.mp length.symm
      simp [Packet.decode, deserializer, Prog.query, takeBytes, readU16_eq_zero, named, zero]
    · -- Any other payload is read in one piece.
      have positive : readU32 [a, b, c, d] ≠ 0 := by
        intro zero
        rw [zero] at length
        exact empty (List.eq_nil_of_length_eq_zero length)
      simp [Packet.decode, deserializer, Prog.query, takeBytes, readU16_eq_zero, named, positive,
        empty, ← length]

end Packet

end BleManaged
