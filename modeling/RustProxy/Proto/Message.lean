import RustProxy.Foundation.BigEndian

/-!
# Messages between server and client

The messages of `crates/proto/src/message.rs`.  Control messages are JSON on the wire, data
messages are `conn_id` (8 bytes, big-endian) followed by the raw bytes.  Byte strings (`Bytes`,
`&[u8]`) are `List UInt8`.
-/

namespace RustProxy.Proto

open BigEndian

/-- A byte string. -/
abbrev Bytes := List UInt8

/-- Authentication request, client to server.  Source: `message.rs`, `AuthRequest`. -/
structure AuthRequest where
  clientId : String
  token : String
  version : String
  deriving DecidableEq, Repr

/-- Authentication response, server to client.  Source: `message.rs`, `AuthResponse`. -/
structure AuthResponse where
  success : Bool
  message : String
  serverVersion : String
  deriving DecidableEq, Repr

/-- The server pushes a rule, new or changed.  Source: `message.rs`, `ServerAssignProxyRequest`. -/
structure ServerAssignProxyRequest where
  name : String
  proxyType : String
  localIp : String
  localPort : UInt16
  remotePort : UInt16
  customDomains : List String
  proxyProtocol : String
  deriving DecidableEq, Repr

/-- The server asks the client to close a proxy.  Source: `message.rs`,
`ServerCloseProxyRequest`. -/
structure ServerCloseProxyRequest where
  name : String
  deriving DecidableEq, Repr

/-- The server asks for a new work connection.  Source: `message.rs`, `NewWorkConnRequest`. -/
structure NewWorkConnRequest where
  proxyName : String
  connId : UInt64
  userAddr : Option String
  deriving DecidableEq, Repr

/-- First message of a work connection, client to server.  Source: `message.rs`,
`NewWorkConnResponse`. -/
structure NewWorkConnResponse where
  proxyName : String
  connId : UInt64
  success : Bool
  deriving DecidableEq, Repr

/-- Source: `message.rs`, `ControlMessage`. -/
inductive ControlMessage where
  | auth (req : AuthRequest)
  | authResp (resp : AuthResponse)
  | serverAssignProxy (req : ServerAssignProxyRequest)
  | serverCloseProxy (req : ServerCloseProxyRequest)
  | newWorkConn (req : NewWorkConnRequest)
  | newWorkConnResp (resp : NewWorkConnResponse)
  | ping
  | pong
  deriving DecidableEq, Repr

/-- Source: `message.rs`, `DataMessage`. -/
structure DataMessage where
  connId : UInt64
  data : Bytes
  deriving DecidableEq, Repr

/-- Source: `message.rs`, `Message`. -/
inductive Message where
  | control (ctrl : ControlMessage)
  | data (dataMsg : DataMessage)
  deriving DecidableEq, Repr

/-- Source: `message.rs`, `DataMessage::encode`. -/
def DataMessage.encode (m : DataMessage) : Bytes := toBE 8 m.connId.toNat ++ m.data

/-- Source: `message.rs`, `DataMessage::decode`. -/
def DataMessage.decode (src : Bytes) : Option DataMessage :=
  if src.length < 8 then none
  else some { connId := UInt64.ofNat (ofBE (src.take 8)), data := src.drop 8 }

/-- Eight bytes of `conn_id` and the data. -/
@[simp] lemma DataMessage.length_encode (m : DataMessage) :
    m.encode.length = 8 + m.data.length := by
  simp [DataMessage.encode]

/-- Decoding an encoded data message gives it back, for every `conn_id` and every payload. -/
theorem DataMessage.decode_encode (m : DataMessage) : DataMessage.decode m.encode = some m := by
  have hlen : ¬ m.encode.length < 8 := by simp
  have hlt : m.connId.toNat < 256 ^ 8 := m.connId.toNat_lt
  have htake : m.encode.take 8 = toBE 8 m.connId.toNat :=
    List.take_left' (length_toBE 8 m.connId.toNat)
  have hdrop : m.encode.drop 8 = m.data := List.drop_left' (length_toBE 8 m.connId.toNat)
  rw [DataMessage.decode, if_neg hlen, htake, hdrop, ofBE_toBE_of_lt hlt, UInt64.ofNat_toNat]

end RustProxy.Proto
