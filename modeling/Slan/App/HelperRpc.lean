import Slan.Lib.JsonText
import Slan.Client.RelayClient
import Slan.App.ControlApiResponses

/-! # Calls of `app-core-helper`: one line of JSON each way

The host of the lines is the helper, with the facade and the tunnel host behind it. What its
callers have written and read they have written and read whole.
-/

namespace Slan.App

open Client (splitOnce)

/-! ## `main.rs` of the helper -/

structure RpcRequest where
  method : String
  args : Json

/-- `serde_json` goes no deeper, the request itself included. -/
def recursionLimit : Nat := 127

def argsOf (v : Json) : Except Json.DecodeError Json :=
  if JsonText.depth v < recursionLimit then .ok v
  else .error (.invalidType "recursion limit exceeded")

/-- The derived decoder takes the fields by their order too. -/
def RpcRequest.decode : Json.Decoder RpcRequest
  | .obj members => do
    let method ← Json.required "method" Json.string members
    let args ← Json.defaulted "args" argsOf .null members
    return ⟨method, args⟩
  | .arr [method] => do return ⟨← Json.string method, .null⟩
  | .arr [method, args] => do return ⟨← Json.string method, ← argsOf args⟩
  | _ => .error (.invalidType "struct RpcRequest")

structure RpcResponse where
  ok : Bool
  result : Option Json
  error : Option String
  errorCode : Option String
  errorMessage : Option String

/-- What is `None` is left out. -/
def RpcResponse.encode (response : RpcResponse) : Json :=
  .obj (("ok", .bool response.ok) ::
    ((response.result.map fun v => ("result", v)).toList ++
      (response.error.map fun s => ("error", .str s)).toList ++
      (response.errorCode.map fun s => ("errorCode", .str s)).toList ++
      (response.errorMessage.map fun s => ("errorMessage", .str s)).toList))

def classifyStructuredError (error : String) : Option (String × String) :=
  (splitOnce ": ".toList error.toList).bind fun (code, message) =>
    if "probe_".toList <+: code ∨ "send_".toList <+: code ∨ "app_core_".toList <+: code then
      some (String.ofList code, String.ofList message)
    else none

def classifyHelperError (method error : String) : String × String :=
  match classifyStructuredError error with
  | some classified => classified
  | none =>
    if method = "send" then ("send_failed", error)
    else if method = "probe" then ("probe_failed", error)
    else ("app_core_helper_error", error)

def buildRpcResponse (method : String) : Except String Json → RpcResponse
  | .ok result => ⟨true, some result, none, none, none⟩
  | .error error =>
    let (code, message) := classifyHelperError method error
    ⟨false, none, some error, some code, some message⟩

/-- The parts of the helper, over a state that they share. -/
structure Helper (H : Type) where
  tunnelHost : String → Json → H → Except String Json × H
  facade : String → Json → H → Except String Json × H
  /-- `std::env::var`, as far as it is text. -/
  env : String → Option String
  /-- The text of the error on what `serde_json` does not take. -/
  jsonError : String → String
  writer : JsonText.Writer

def supportsMethod (method : String) : Bool :=
  method ∈ ["applyTunnelConfiguration", "removeTunnelPeer", "bringTunnelUp", "bringTunnelDown",
    "tunnelRuntimeView"]

namespace Helper

variable {H : Type} (helper : Helper H)

def invokeHelper (method : String) (args : Json) (h : H) : Except String Json × H :=
  if supportsMethod method then helper.tunnelHost method args h else helper.facade method args h

def testOverrideKeys (method : String) : Option (String × String) :=
  if method = "send" then
    some ("SLAN_APP_CORE_HELPER_TEST_SEND_RESULT", "SLAN_APP_CORE_HELPER_TEST_SEND_ERROR")
  else if method = "probe" then
    some ("SLAN_APP_CORE_HELPER_TEST_PROBE_RESULT", "SLAN_APP_CORE_HELPER_TEST_PROBE_ERROR")
  else none

def maybeTestOverrideResult (method : String) : Option (Except String Json) :=
  (testOverrideKeys method).bind fun (resultKey, errorKey) =>
    match helper.env resultKey with
    | some result =>
      match (JsonText.read result.toList).filter fun v => JsonText.depth v ≤ recursionLimit with
      | some v => some (.ok v)
      | none => some (.error ("invalid helper test result json in " ++ resultKey ++ ": " ++
          helper.jsonError result))
    | none => (helper.env errorKey).map .error

/-- What a request is answered with, before it is put into a response. -/
def resultOf (method : String) (args : Json) (h : H) : Except String Json × H :=
  match helper.maybeTestOverrideResult method with
  | some result => (result, h)
  | none => helper.invokeHelper method args h

def handleRpcRequest (request : RpcRequest) (h : H) : RpcResponse × H :=
  let (result, h) := helper.resultOf request.method request.args h
  (buildRpcResponse request.method result, h)

/-- `none` is an error, which ends the helper. -/
def handleRpcLine (line : List Char) (h : H) : Option (RpcResponse × H) :=
  (JsonText.read line).bind fun v =>
    (RpcRequest.decode v).toOption.map fun request => helper.handleRpcRequest request h

/-- One round of the loops over lines: what is written, nothing for a blank line. -/
def serveLine (line : List Char) (h : H) : Option (List Char × H) :=
  if line.all Text.isSpace then some ([], h)
  else (helper.handleRpcLine line h).map fun (response, h) =>
    (helper.writer.text response.encode ++ ['\n'], h)

end Helper

/-! ## The callers -/

/-- What a caller writes for a call. -/
def requestLine (writer : JsonText.Writer) (method : String) (args : JsonMap) : List Char :=
  writer.text (.obj [("method", .str method), ("args", .obj args)]) ++ ['\n']

/-- The exceptions of a call. -/
inductive CallException where
  | platform (code message : String)
  | format (message : String)
  /-- A value that is cast to a type it does not have. -/
  | cast
  deriving DecidableEq, Repr

/-- `as String?` -/
def castString : Json → Except CallException (Option String)
  | .null => .ok none
  | .str s => .ok (some s)
  | _ => .error .cast

/-- `_decodeHelperResponse` of `tunnel_host_gateway.dart` -/
def decodeHelperResponse (payload : List Char) : Except CallException Json :=
  match JsonText.read payload with
  | none => .error (.format "Expected JSON payload from helper host")
  | some (.obj response) =>
    match valueOf response "ok" with
    | .bool true => .ok (valueOf response "result")
    | .bool false => do
      let code ← castString (valueOf response "errorCode")
      let message ← castString (valueOf response "errorMessage")
      let error ← if message.isSome then pure none else castString (valueOf response "error")
      .error (.platform (code.getD "app_core_helper_error")
        ((message <|> error).getD "unknown app-core helper error"))
    | _ => .error (.format "Expected ok flag from helper host")
  | some _ => .error (.format "Expected object payload from helper host")

/-! ## One call -/

/-- What a caller gets for what the helper made of its request. -/
def callAnswer (method : String) : Except String Json → Except CallException Json
  | .ok result => .ok result
  | .error error =>
    .error (.platform (classifyHelperError method error).1 (classifyHelperError method error).2)

theorem not_blank_of_read {line : List Char} {v : Json} (h : JsonText.read line = some v) :
    line.all Text.isSpace = false := by
  obtain ⟨c, hc, hspace⟩ := JsonText.exists_of_read h
  rw [List.all_eq_false]
  exact ⟨c, hc, by simp [hspace]⟩

/-- A request is answered unless its arguments nest too deep. -/
theorem serveLine_requestLine {H : Type} (helper : Helper H) (writer : JsonText.Writer)
    (method : String) (args : JsonMap) (h : H) :
    helper.serveLine (requestLine writer method args) h =
      if JsonText.depth (.obj args) < recursionLimit then
        some (helper.writer.text
            (buildRpcResponse method (helper.resultOf method (.obj args) h).1).encode ++ ['\n'],
          (helper.resultOf method (.obj args) h).2)
      else none := by
  have hread : JsonText.read (requestLine writer method args) =
    some (.obj [("method", .str method), ("args", .obj args)]) := writer.read_line _
  have hdecode : RpcRequest.decode (.obj [("method", .str method), ("args", .obj args)]) =
      (argsOf (.obj args)).map fun args => ⟨method, args⟩ := by
    unfold RpcRequest.decode
    cases hargs : argsOf (.obj args) <;>
      simp [Json.required, Json.defaulted, Json.field, Json.values, hargs, Except.map, bind,
        Except.bind, pure, Except.pure]
  unfold Helper.serveLine Helper.handleRpcLine
  rw [not_blank_of_read hread, if_neg Bool.false_ne_true, hread, Option.bind_some, hdecode, argsOf]
  split_ifs <;> rfl

/-- An answer says to its caller what the helper made of the request. -/
theorem decodeHelperResponse_encode (writer : JsonText.Writer) (method : String)
    (result : Except String Json) :
    decodeHelperResponse (writer.text (buildRpcResponse method result).encode) =
      callAnswer method result := by
  unfold decodeHelperResponse
  rw [writer.read_text]
  cases result <;> rfl

end Slan.App
