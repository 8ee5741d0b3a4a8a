import Mathlib.Logic.Basic

namespace GDriver
namespace Ipc

/-!
# JSON-RPC messages

The messages that clients and the daemon send each other.  A message is one line of JSON text.
What a JSON value is, is left open here: nothing looks into one.
-/

/-- The id of a request: a string or an integer. -/
inductive JsonRpcId where
  | str (text : String)
  | num (number : Int)
  deriving DecidableEq, Repr

/-- A request, or a notification when it has no id. -/
structure JsonRpcRequest (Value : Type) where
  jsonrpc : String
  method : String
  params : Option Value
  id : Option JsonRpcId
  deriving DecidableEq

structure JsonRpcError (Value : Type) where
  code : Int
  message : String
  data : Option Value
  deriving DecidableEq

structure JsonRpcResponse (Value : Type) where
  jsonrpc : String
  result : Option Value
  error : Option (JsonRpcError Value)
  /-- The id of the request, none when it could not be parsed. -/
  id : Option JsonRpcId
  deriving DecidableEq

variable {Value : Type}

def JsonRpcRequest.new (method : String) (params : Option Value) (id : JsonRpcId) : JsonRpcRequest Value where
  jsonrpc := "2.0"
  method := method
  params := params
  id := some id

def JsonRpcRequest.isNotification (request : JsonRpcRequest Value) : Bool :=
  request.id.isNone

def JsonRpcError.parseError : JsonRpcError Value where
  code := -32700
  message := "Parse error"
  data := none

def JsonRpcError.internalError (detail : String) : JsonRpcError Value where
  code := -32603
  message := detail
  data := none

def JsonRpcResponse.success (id : Option JsonRpcId) (result : Value) : JsonRpcResponse Value where
  jsonrpc := "2.0"
  result := some result
  error := none
  id := id

def JsonRpcResponse.ofError (id : Option JsonRpcId) (error : JsonRpcError Value) : JsonRpcResponse Value where
  jsonrpc := "2.0"
  result := none
  error := some error
  id := id

def JsonRpcResponse.isSuccess (response : JsonRpcResponse Value) : Bool :=
  response.error.isNone

/-- The value `null`. -/
class JsonNull (Value : Type) where
  null : Value

/-- `serde_json`, which reads a request from a text, or nothing from a text that is not one. -/
class Serde (Value : Type) where
  requestFromStr : String → Option (JsonRpcRequest Value)

end Ipc
end GDriver
