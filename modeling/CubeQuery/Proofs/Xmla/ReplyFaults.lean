import CubeQuery.Proofs.Xml.Addresses
import CubeQuery.Xmla.Reply

set_option autoImplicit false

/-!
# What a reply comes to

A reply is an envelope with a body. Where the body leads to a cellset, that cellset is decoded and
nothing else in the envelope matters. Where it does not, the reply is an error of the transport, and
its message is the most specific one that the body has: the errors that the server reports in what
it returned, else the text of the SOAP fault, else that there was no response. What a body reports
is said by where its elements stand, without searching it, and comes to one message
(`reports_iff`).

Main statement: the outcome of every reply that has a body (`reply_comes_to`).
-/

namespace CubeQuery.Xmla

open Xml (Node)

/-! ## Parts of a body -/

/-- Whether a node is what a body returns: the first such element of its first response. -/
def IsReturned (body returned : Node) : Prop :=
  ∃ response, body.IsFirstChild (·.hasName (analysisName "ExecuteResponse")) response ∧
    response.IsFirstChild (·.hasName (analysisName "return")) returned

/-- Whether a node is the cellset in what a body returns. -/
def IsReturnedCellset (body root : Node) : Prop :=
  ∃ returned, IsReturned body returned ∧
    returned.IsFirstChild (·.hasName ⟨some datasetUri, "root"⟩) root

/-- Whether a node is an error with a description that is not empty. -/
def HasErrorText (node : Node) (text : String) : Prop :=
  node.hasName ⟨some exceptionUri, "Error"⟩ = true ∧
    node.attribute? "Description" = some text ∧ text ≠ ""

/-- Whether texts are the descriptions of all errors at any depth below what a body returns, in
document order. A body that returns nothing has none. -/
def HasErrorTexts (body : Node) (texts : List String) : Prop :=
  (∃ returned, IsReturned body returned ∧ returned.Lists HasErrorText texts) ∨
    (¬ ∃ returned, IsReturned body returned) ∧ texts = []

/-- Whether a text is that of the first fault in a body, trimmed: its first fault string begins with
a text that is not blank. -/
def HasFaultText (body : Node) (text : String) : Prop :=
  ∃ fault string raw, body.IsFirstChild (·.hasName (soapName "Fault")) fault ∧
    fault.IsFirstChild (·.isCalled "faultstring") string ∧ string.text? = some raw ∧
    Text.isAllBlank raw = false ∧ text = Text.trim raw

/-- The message of the transport error that a body without a cellset is reported by. -/
inductive Reports (body : Node) : String → Prop where
  | error {text : String} : HasErrorTexts body [text] → Reports body ("MDX error: " ++ text)
  | errors {texts : List String} : HasErrorTexts body texts → 2 ≤ texts.length →
      Reports body ("MDX errors: " ++ "; ".intercalate texts)
  | fault {text : String} : HasErrorTexts body [] → HasFaultText body text →
      Reports body ("SOAP fault: " ++ text)
  | unknown : HasErrorTexts body [] → (¬ ∃ text, HasFaultText body text) →
      Reports body
        "Protocol error: Encountered an unexpected MDX error. No response was provided."

/-! ## How they are found -/

/-- Nothing is found exactly if there is nothing to be found. -/
theorem eq_none_iff_not_exists {α : Type} {found? : Option α} {p : α → Prop}
    (h : ∀ a, found? = some a ↔ p a) : found? = none ↔ ¬ ∃ a, p a := by
  rw [Option.eq_none_iff_forall_ne_some, not_exists]
  exact forall_congr' fun a => not_congr (h a)

/-- The element that a body returns, if it returns one. -/
def returned? (body : Node) : Option Node :=
  (body.child? (analysisName "ExecuteResponse")).bind fun response =>
    response.child? (analysisName "return")

theorem returned?_eq_some_iff {body returned : Node} :
    returned? body = some returned ↔ IsReturned body returned := by
  simp only [returned?, IsReturned, Option.bind_eq_some_iff, Node.child?_eq_some_iff]

theorem returned?_eq_none_iff {body : Node} :
    returned? body = none ↔ ¬ ∃ returned, IsReturned body returned :=
  eq_none_iff_not_exists fun _ => returned?_eq_some_iff

theorem IsReturned.unique {body returned other : Node} (h : IsReturned body returned)
    (hother : IsReturned body other) : returned = other := by
  rw [← returned?_eq_some_iff] at h hother
  exact Option.some.inj (h.symm.trans hother)

/-- The description of an error, if it is not empty. -/
def errorText? (node : Node) : Option String :=
  if node.hasName ⟨some exceptionUri, "Error"⟩ then
    (node.attribute? "Description").filter fun text => !text.isEmpty
  else none

theorem errorText?_eq_some_iff {node : Node} {text : String} :
    errorText? node = some text ↔ HasErrorText node text := by
  rw [errorText?, HasErrorText]
  split
  · next hname => simp [hname, Option.filter_eq_some_iff]
  · next hname => simp [hname]

theorem errorMessages_eq_filterMap (returned : Node) :
    errorMessages returned = returned.descendants.filterMap errorText? := by
  rw [errorMessages, List.filterMap_filter]
  rfl

/-- What a body returns is no error itself. -/
theorem errorText?_returned {body returned : Node} (h : IsReturned body returned) :
    errorText? returned = none := by
  obtain ⟨response, -, before, after, -, hname, -⟩ := h
  rw [errorText?, if_neg]
  intro herror
  have heq := Node.eq_of_hasName hname herror
  simp [analysisName] at heq

theorem hasErrorTexts_messages (body : Node) :
    HasErrorTexts body (((returned? body).map errorMessages).getD []) := by
  cases h : returned? body with
  | none => exact .inr ⟨returned?_eq_none_iff.1 h, rfl⟩
  | some returned =>
    have hreturned := returned?_eq_some_iff.1 h
    refine .inl ⟨returned, hreturned, ?_⟩
    have hlists := Node.lists_filterMap_descendants (errorText?_returned hreturned)
    simp only [errorText?_eq_some_iff, ← errorMessages_eq_filterMap] at hlists
    exact hlists

theorem faultText?_eq_some_iff {body : Node} {text : String} :
    faultText? body = some text ↔ HasFaultText body text := by
  simp only [faultText?, HasFaultText, Option.bind_eq_bind, Option.bind_eq_some_iff,
    Node.child?_eq_some_iff, Node.childCalled?_eq_some_iff]
  constructor
  · rintro ⟨fault, hfault, string, hstring, raw, hraw, htext⟩
    cases hblank : Text.isAllBlank raw with
    | true => simp [hblank] at htext
    | false =>
      refine ⟨fault, string, raw, hfault, hstring, hraw, hblank, ?_⟩
      simpa [hblank, eq_comm] using htext
  · rintro ⟨fault, string, raw, hfault, hstring, hraw, hblank, rfl⟩
    exact ⟨fault, hfault, string, hstring, raw, hraw, by simp [hblank]⟩

theorem faultText?_eq_none_iff {body : Node} :
    faultText? body = none ↔ ¬ ∃ text, HasFaultText body text :=
  eq_none_iff_not_exists fun _ => faultText?_eq_some_iff

theorem HasErrorTexts.unique {body : Node} {texts others : List String}
    (h : HasErrorTexts body texts) (hothers : HasErrorTexts body others) : texts = others := by
  rcases h with ⟨returned, hreturned, hlists⟩ | ⟨hnone, rfl⟩
  · rcases hothers with ⟨other, hother, hlists'⟩ | ⟨hnone, -⟩
    · rw [hreturned.unique hother] at hlists
      exact hlists.unique hlists'
    · exact absurd ⟨returned, hreturned⟩ hnone
  · rcases hothers with ⟨other, hother, -⟩ | ⟨-, rfl⟩
    · exact absurd ⟨other, hother⟩ hnone
    · rfl

/-- A body reports one message, that of its fault. -/
theorem reports_iff {body : Node} {message : String} :
    Reports body message ↔ (faultOf body (returned? body)).message = message := by
  have hfound := hasErrorTexts_messages body
  rw [faultOf]
  -- From here on the descriptions that were found are any that the body has.
  generalize ((returned? body).map errorMessages).getD [] = messages at hfound
  constructor
  · intro h
    cases h with
    | error htexts =>
      rw [hfound.unique htexts]
      rfl
    | @errors texts htexts hlength =>
      rw [hfound.unique htexts]
      match texts, hlength with
      | _ :: _ :: _, _ => rfl
    | fault hnone hfault =>
      rw [hfound.unique hnone, faultText?_eq_some_iff.2 hfault]
      rfl
    | unknown hnone hblank =>
      rw [hfound.unique hnone, faultText?_eq_none_iff.2 hblank]
      rfl
  · rintro rfl
    match messages, hfound with
    | [], hnone =>
      cases hfault : faultText? body with
      | some text => exact .fault hnone (faultText?_eq_some_iff.1 hfault)
      | none => exact .unknown hnone (faultText?_eq_none_iff.1 hfault)
    | [_], htexts => exact .error htexts
    | _ :: _ :: _, htexts => exact .errors htexts (by simp)

/-- The cellset in what a body returns, if there is one. -/
def returnedCellset? (body : Node) : Option Node :=
  (returned? body).bind fun returned => returned.child? ⟨some datasetUri, "root"⟩

theorem returnedCellset?_eq_some_iff {body root : Node} :
    returnedCellset? body = some root ↔ IsReturnedCellset body root := by
  simp only [returnedCellset?, IsReturnedCellset, Option.bind_eq_some_iff, returned?_eq_some_iff,
    Node.child?_eq_some_iff]

theorem returnedCellset?_eq_none_iff {body : Node} :
    returnedCellset? body = none ↔ ¬ ∃ root, IsReturnedCellset body root :=
  eq_none_iff_not_exists fun _ => returnedCellset?_eq_some_iff

theorem cellsetOfBody?_eq (body : Node) :
    cellsetOfBody? body =
      match returnedCellset? body with
      | some root => Cellset.ofElement? root
      | none => .error (faultOf body (returned? body)).toError :=
  rfl

/-- **A reply comes to its cellset or to the most specific fault.** Where the body leads to a
cellset, the outcome is the cellset that this element stands for, whatever else the envelope holds.
Where it does not, the outcome is an error of the transport with the one message that the body
reports. -/
theorem reply_comes_to {reply : String} {envelope body : Node}
    (hreply : Xml.document? reply = some envelope)
    (henvelope : envelope.hasName (soapName "Envelope") = true)
    (hbody : envelope.IsFirstChild (·.hasName (soapName "Body")) body) :
    (∀ root, IsReturnedCellset body root →
      cellsetOfReply? reply = Cellset.ofElement? root) ∧
    ((¬ ∃ root, IsReturnedCellset body root) →
      ∃ message, (∀ other, Reports body other ↔ message = other) ∧
        cellsetOfReply? reply = .error (.transport message)) := by
  have hfound : cellsetOfReply? reply = cellsetOfBody? body := by
    rw [cellsetOfReply?, hreply]
    simp only [cellsetOfEnvelope?, henvelope, if_true, Node.child?_eq_some_iff.2 hbody]
  rw [hfound, cellsetOfBody?_eq]
  constructor
  · intro root hroot
    rw [returnedCellset?_eq_some_iff.2 hroot]
  · intro hnone
    rw [returnedCellset?_eq_none_iff.2 hnone]
    exact ⟨_, fun _ => reports_iff, rfl⟩

/-- A reply with a SOAP fault only. -/
private def loginReply : String :=
  "<Envelope xmlns='" ++ soapUri ++ "'><Body><Fault><faultstring> Login failed. </faultstring>"
    ++ "</Fault></Body></Envelope>"

/-- Whether the envelope of the reply has a body without a cellset. -/
private def loginReplyLacksCellset : Bool :=
  match Xml.document? loginReply with
  | some envelope =>
    envelope.hasName (soapName "Envelope") &&
      match envelope.child? (soapName "Body") with
      | some body => (returnedCellset? body).isNone
      | none => false
  | none => false

/-- A reply without a cellset is reported by its fault. -/
theorem login_failure_reported :
    ∃ envelope body, Xml.document? loginReply = some envelope ∧
      envelope.hasName (soapName "Envelope") = true ∧
      envelope.IsFirstChild (·.hasName (soapName "Body")) body ∧
      (¬ ∃ root, IsReturnedCellset body root) ∧
      ∃ message, (∀ other, Reports body other ↔ message = other) ∧
        cellsetOfReply? loginReply = .error (.transport message) := by
  have hlacks : loginReplyLacksCellset = true := by decide +kernel
  unfold loginReplyLacksCellset at hlacks
  split at hlacks
  · next envelope hreply =>
    rw [Bool.and_eq_true] at hlacks
    obtain ⟨henvelope, hlacks⟩ := hlacks
    split at hlacks
    · next body hbody =>
      have hfirst := Node.child?_eq_some_iff.1 hbody
      have hnone : ¬ ∃ root, IsReturnedCellset body root :=
        returnedCellset?_eq_none_iff.1 (Option.isNone_iff_eq_none.1 hlacks)
      exact ⟨envelope, body, hreply, henvelope, hfirst, hnone,
        (reply_comes_to hreply henvelope hfirst).2 hnone⟩
    · cases hlacks
  · cases hlacks

end CubeQuery.Xmla
