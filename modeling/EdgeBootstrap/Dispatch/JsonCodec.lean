import EdgeBootstrap.Platform

/-! The JSON codec of routes registered without one of their own. `serde` is a
parameter: what it reads from a document or from bytes, and what it writes. -/
namespace EdgeBootstrap

/-- `DeserializeOwned` and `Serialize` through `serde_json`; an error is its text. -/
class SerdeJson (T : Type) where
  fromValue : Json → Except String T
  fromSlice : List UInt8 → Except String T
  toVec : T → Except String (List UInt8)

namespace Codec

variable {T : Type} [SerdeJson T]

def jsonDecode (req : HttpRequest) : Except HttpIngressError T :=
  match req.body with
  | some (.json v) => (SerdeJson.fromValue v).mapError .invalidInput
  | some (.raw b) => (SerdeJson.fromSlice b).mapError .invalidInput
  | none => (SerdeJson.fromSlice "null".toUTF8.toList).mapError .invalidInput
  | some (.other _) =>
    .error (.invalidInput "expected JSON body (application/json or raw bytes)")

def jsonEncode (resp : T) : HttpResponse :=
  match SerdeJson.toVec resp with
  | .ok body => { HttpResponse.new 200 body with headers := [("content-type", "application/json")] }
  | .error e => .new 500 e.toUTF8.toList

def grpcJsonDecode (bytes : List UInt8) : Except GrpcIngressError T :=
  (SerdeJson.fromSlice bytes).mapError .invalidArgument

def grpcJsonEncode (resp : T) : List UInt8 := (SerdeJson.toVec resp).toOption.getD []

end Codec

end EdgeBootstrap
