import CubeQuery.Cellset.Decode
import CubeQuery.Xmla.Envelope
import CubeQuery.Xmla.Fault

set_option autoImplicit false

/-!
# Replies

The cellset in a reply envelope, or what the reply gives in its place: the messages of an exception,
the text of a SOAP fault, or nothing that can be understood.
-/

namespace CubeQuery.Xmla

open Xml (Node)

/-- The namespace of cellsets. -/
def datasetUri : String := "urn:schemas-microsoft-com:xml-analysis:mddataset"

/-- The namespace of exceptions. -/
def exceptionUri : String := "urn:schemas-microsoft-com:xml-analysis:exception"

/-- A name of SOAP. -/
def soapName (localName : String) : Xml.Name := ⟨some soapUri, localName⟩

/-- A name of XML for Analysis. -/
def analysisName (localName : String) : Xml.Name := ⟨some analysisUri, localName⟩

/-- The messages of all errors below an element, in document order; empty ones are left out. -/
def errorMessages (returned : Node) : List String :=
  (returned.descendants.filter (·.hasName ⟨some exceptionUri, "Error"⟩)).filterMap fun node =>
    (node.attribute? "Description").filter fun text => !text.isEmpty

/-- The text of the first SOAP fault in a body, trimmed, if it has one that is not blank. -/
def faultText? (body : Node) : Option String := do
  let fault ← body.child? (soapName "Fault")
  let text ← (← fault.childCalled? "faultstring").text?
  if Text.isAllBlank text then none else some (Text.trim text)

/-- The fault that a body without a cellset reports. -/
def faultOf (body : Node) (returned : Option Node) : Fault :=
  match (returned.map errorMessages).getD [] with
  | [] =>
    match faultText? body with
    | some text => .soap text
    | none => .protocol "Encountered an unexpected MDX error. No response was provided."
  | messages => .exception messages

/-- The cellset that a reply's body holds. -/
def cellsetOfBody? (body : Node) : Except Error Cellset :=
  let returned := (body.child? (analysisName "ExecuteResponse")).bind fun response =>
    response.child? (analysisName "return")
  match returned.bind fun node => node.child? ⟨some datasetUri, "root"⟩ with
  | some root => Cellset.ofElement? root
  | none => .error (faultOf body returned).toError

/-- The cellset that a reply's envelope holds. -/
def cellsetOfEnvelope? (envelope : Node) : Except Error Cellset :=
  if envelope.hasName (soapName "Envelope") then
    match envelope.child? (soapName "Body") with
    | some body => cellsetOfBody? body
    | none => .error (Fault.protocol "SOAP envelope has no body").toError
  else .error (Fault.protocol "Response is not a SOAP envelope").toError

/-- The cellset that the text of a reply holds. -/
def cellsetOfReply? (reply : String) : Except Error Cellset :=
  match Xml.document? reply with
  | some envelope => cellsetOfEnvelope? envelope
  | none =>
    .error (Fault.protocol "Failed to parse response: the document is not well-formed").toError

end CubeQuery.Xmla
