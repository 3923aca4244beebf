import Cap.Proto

/-!
The messages of the bus, after `proto/cordum/agent/v1`: the schema of the BusPacket and of
every message inside it, and the fields of the envelope that the SDKs read.
-/
namespace Cap.Packets
open Cap.Text Cap.Proto

inductive Name where
  | timestamp | busPacket | signatureMetadata | identityBinding | dispatchIdentity | resourceRef | contextHints | budget
  | jobMetadata | compensation | jobRequest | jobResult | jobProgress | jobCancel | heartbeat | systemAlert | handshake
  | challengeRequest | challenge | authenticate | result
deriving DecidableEq

private def one (type : Scalar) (number : Nat) : FieldDesc Name := ⟨number,.scalar type,.singular,none⟩
private def many (type : Scalar) (number : Nat) : FieldDesc Name := ⟨number,.scalar type,.repeated true,none⟩
private def sub (name : Name) (number : Nat) : FieldDesc Name := ⟨number,.message name,.singular,none⟩
private def subs (name : Name) (number : Nat) : FieldDesc Name := ⟨number,.message name,.repeated true,none⟩
private def dictionary (type : Scalar) (number : Nat) : FieldDesc Name := ⟨number,.scalar type,.map .string,none⟩
private def payloadMember (name : Name) (number : Nat) : FieldDesc Name := ⟨number,.message name,.singular,some "payload"⟩

def schema : Schema Name
  | .timestamp => [one .int64 1,one .int32 2]
  | .busPacket => [one .string 1,one .string 2,sub .timestamp 3,one .int32 4,sub .signatureMetadata 5,
      sub .identityBinding 6,payloadMember .jobRequest 10,payloadMember .jobResult 11,payloadMember .heartbeat 12,
      payloadMember .systemAlert 13,one .bytes 14,payloadMember .jobProgress 15,payloadMember .jobCancel 16,
      payloadMember .handshake 17,one .string 18,payloadMember .challengeRequest 19,payloadMember .challenge 20,
      payloadMember .authenticate 21,payloadMember .result 22]
  | .signatureMetadata => [one .string 1,one .string 2,one .bytes 3,one .string 4,sub .timestamp 5,one .string 6]
  | .identityBinding => [one .string 1,one .string 2,one .string 3,one .string 4]
  | .dispatchIdentity => [one .string 1,one .uint64 2,one .string 3]
  | .resourceRef => [one .string 1,one .string 2,one .bytes 3,one .string 4,one .uint64 5,sub .timestamp 6,
      one .string 7]
  | .contextHints => [one .int32 1,one .bool 2,one .bool 3,many .string 4]
  | .budget => [one .int64 1,one .int64 2,one .int64 3,one .int64 4]
  | .jobMetadata => [one .string 1,one .string 2,one .enum 3,one .string 4,one .string 5,many .string 6,
      many .string 7,one .string 8,dictionary .string 9]
  | .compensation => [one .string 1,one .string 2,one .enum 3,one .string 4,dictionary .string 5,one .string 6,
      sub .contextHints 7,sub .budget 8,one .string 9,one .string 10,dictionary .string 11,sub .jobMetadata 12,
      sub .identityBinding 13,sub .dispatchIdentity 14,sub .resourceRef 15]
  | .jobRequest => [one .string 1,one .string 2,one .enum 3,one .string 4,one .string 5,dictionary .string 6,
      one .string 7,one .string 8,one .int32 9,one .string 10,sub .contextHints 11,sub .budget 12,one .string 13,
      one .string 14,dictionary .string 15,sub .jobMetadata 16,sub .compensation 17,sub .identityBinding 18,
      sub .dispatchIdentity 19,sub .resourceRef 20]
  | .jobResult => [one .string 1,one .enum 2,one .string 3,one .string 4,one .int64 5,one .string 6,one .string 7,
      many .string 8,one .enum 9,sub .dispatchIdentity 10,sub .identityBinding 11,sub .resourceRef 12,
      subs .resourceRef 13]
  | .jobProgress => [one .string 1,one .string 2,one .int32 3,one .string 4,one .string 5,many .string 6,one .enum 7,
      sub .dispatchIdentity 8,sub .identityBinding 9,sub .resourceRef 10,subs .resourceRef 11]
  | .jobCancel => [one .string 1,one .string 2,one .string 3,sub .dispatchIdentity 4,sub .identityBinding 5]
  | .heartbeat => [one .string 1,one .string 2,one .string 3,one .float 4,one .float 5,one .int32 6,many .string 7,
      one .string 11,one .int32 12,dictionary .string 13,one .float 14,one .int32 15,one .string 16,one .string 18,
      one .string 19]
  | .systemAlert => [one .string 1,one .string 2,one .string 3,one .string 4,one .enum 5,one .enum 6,one .string 7,
      dictionary .string 8,one .string 9]
  | .handshake => [one .string 1,one .enum 2,many .int32 3,dictionary .bool 4,one .string 5,many .string 6,
      one .string 7]
  | .challengeRequest => [one .string 1,one .string 2,one .string 3,one .string 4,one .enum 5,one .string 6,one .enum 7,
      one .bytes 8,one .int32 9,one .string 10]
  | .challenge => [one .string 1,one .string 2,one .string 3,one .string 4,one .string 5,one .string 6,one .string 7,
      one .enum 8,one .string 9,one .string 10,one .enum 11,one .bytes 12,one .bytes 13,one .int32 14,one .string 15,
      sub .timestamp 16,sub .timestamp 17]
  | .authenticate => [sub .challenge 1,sub .handshake 2]
  | .result => [sub .challenge 1,one .bool 2,one .enum 3,sub .timestamp 4,sub .timestamp 5]

/-- A packet of the bus: a message of that type, possibly with unknown fields. -/
structure BusPacket where
  message : Msg
  conforms : message.conforms schema .busPacket [] [] = true

/-! ### The fields the SDKs read -/

namespace Envelope

def traceId : Msg → String := Msg.text 1
def senderId : Msg → String := Msg.text 2
def createdAt : Msg → Option Msg := Msg.sub? 3
def protocolVersion : Msg → Int := Msg.int 4
def signatureMetadata : Msg → Option Msg := Msg.sub? 5
def identity : Msg → Option Msg := Msg.sub? 6

/-- The tenant of the identity; an absent identity has none. -/
def tenantId (packet : Msg) : String := ((identity packet).map (Msg.text 1)).getD ""

def unsigned : Msg → Msg := Msg.clear 14

def withSignature (signature : Bytes) : Msg → Msg := Msg.add 14 (.bytes signature)

end Envelope

namespace Metadata

def profileVersion : Msg → String := Msg.text 1
def algorithm : Msg → String := Msg.text 2
def messageId : Msg → Bytes := Msg.data 3
def audience : Msg → String := Msg.text 4
def expiresAt : Msg → Option Msg := Msg.sub? 5
def keyId : Msg → String := Msg.text 6

end Metadata

namespace Timestamp

def seconds : Msg → Int := Msg.int 1
def nanos : Msg → Int := Msg.int 2

/-- Seconds from year 1 to year 9999 and less than a second of nanoseconds. -/
def inRange (timestamp : Msg) : Bool :=
  -62135596800 ≤ seconds timestamp && seconds timestamp ≤ 253402300799 &&
    0 ≤ nanos timestamp && nanos timestamp ≤ 999999999

def inNanos (timestamp : Msg) : Int := seconds timestamp * 1000000000 + nanos timestamp

end Timestamp

end Cap.Packets
