import MessageBus.Column.Reader
import MessageBus.Json.Shape

/-!
# Payloads

The values of a payload type are JSON values of one shape, and a type may refuse to write some of
them. A serializer turns payloads into bodies and back, and names the content type of its bodies.
-/

namespace MessageBus

/-- The characters before the first pair of colons. -/
def beforeColons : List Char → List Char
  | [] => []
  | ':' :: ':' :: _ => []
  | c :: rest => c :: beforeColons rest

/-- The last segment of a type name, without its arguments. -/
def simpleName (full : String) : String :=
  let base := full.toList.takeWhile (· != '<')
  String.ofList (beforeColons base.reverse).reverse

/-- What a type is told apart by. Two types may have one printed name, and then their ids differ. -/
structure TypeIdentity where
  id : Nat := 0
  name : String
  deriving DecidableEq, Repr, Inhabited

structure PayloadType extends identity : TypeIdentity where
  /-- The type id on the wire, unless a registration has its own. -/
  typeId : String
  shape : Json.Shape
  /-- Values that cannot be written. -/
  refuses : Json → Bool := fun _ => false

structure Payload where
  type : PayloadType
  value : Json

inductive SerializationError
  | json (problem : Json.Problem)
  | binary
  | typeMismatch (expected : String)
  deriving DecidableEq, Repr

namespace SerializationError

def message : SerializationError → String
  | .json problem => "json serialization failed: " ++ problem.message
  | .binary => "bitcode serialization failed: <bitcode>"
  | .typeMismatch expected => "payload is not of type " ++ expected

def causes : SerializationError → List String
  | .json problem => [problem.message]
  | .binary => ["<bitcode>"]
  | .typeMismatch _ => []

end SerializationError

structure Serializer where
  contentType : String
  encode : Payload → Except SerializationError (List UInt8)
  decode : PayloadType → List UInt8 → Except SerializationError Json

namespace Serializer

def encodeJson (p : Payload) : Except SerializationError (List UInt8) :=
  if p.type.refuses p.value then .error (.json .mismatched)
  else .ok (Text.octets p.value.chars)

def decodeJson (type : PayloadType) (body : List UInt8) : Except SerializationError Json :=
  (type.shape.parse (Text.decode body)).mapError .json

def json : Serializer where
  contentType := "application/json"
  encode := encodeJson
  decode := decodeJson

/-- Compact JSON, last octet first. -/
def reversed : Serializer where
  contentType := "application/x-reversed"
  encode := fun p => (encodeJson p).map List.reverse
  decode := fun type body => decodeJson type body.reverse

def encodeBinary (p : Payload) : Except SerializationError (List UInt8) :=
  if p.type.refuses p.value then .error .binary
  else
    match Column.ofShape p.type.shape p.value with
    | some column => .ok column.octets
    | none => .error .binary

def decodeBinary (type : PayloadType) (body : List UInt8) : Except SerializationError Json :=
  match Column.readOne type.shape body with
  | some value => .ok value
  | none => .error .binary

/-- The columns of the payload, without their names. Problems are not told apart. -/
def binary : Serializer where
  contentType := "application/x-bitcode"
  encode := encodeBinary
  decode := decodeBinary

end Serializer

end MessageBus
