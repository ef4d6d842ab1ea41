import CubeQuery.Xml.Node
import CubeQuery.Xml.Token

set_option autoImplicit false

/-!
# Reading documents

From tokens to the tree of a well-formed document with namespaces. Open elements form a stack; a
closing tag must bear the name of the innermost one as it was written. Adjacent character data and
CDATA sections are one text node, and an empty one is none.

The first declaration of a name in the innermost element that declares it gives its namespace.
-/

namespace CubeQuery.Xml

/-- The namespaces in scope: the URI of each declared prefix, and of the default for none. -/
abbrev Scope := List (Option String × String)

/-- What the namespaces of XML itself begin with. -/
def standardRoot : String := "http://www.w3.org/"

/-- The namespace that the prefix `xml` stands for. -/
def xmlUri : String := standardRoot ++ "XML/1998/namespace"

/-- The namespace of declarations, which no prefix may stand for. -/
def xmlnsUri : String := standardRoot ++ "2000/xmlns/"

/-- The declarations and the plain attributes of a tag. -/
structure TagAttributes where
  declared : Scope
  plain : List RawAttribute

/-- Sorts the attributes of a tag into declarations and plain ones, refusing false declarations. -/
def TagAttributes.ofRaw? (read : TagAttributes) : List RawAttribute → Option TagAttributes
  | [] => some read
  | a :: rest =>
    let uri := a.value
    if a.name.scope = "xmlns" then
      let declared := some a.name.localName
      let isXml := uri = xmlUri
      if uri = xmlnsUri || (a.name.localName = "xml") != isXml
          || read.declared.any (·.1 == declared) then
        none
      else if isXml then ofRaw? read rest
      else ofRaw? { read with declared := read.declared ++ [(declared, uri)] } rest
    else if a.name.localName = "xmlns" then
      if uri = xmlUri || uri = xmlnsUri then none
      else ofRaw? { read with declared := read.declared ++ [(none, uri)] } rest
    else ofRaw? { read with plain := read.plain ++ [a] } rest

/-- The namespace of a prefix; an undeclared prefix is none. -/
def Scope.resolve? (scope : Scope) (pre : String) : Option (Option String) :=
  let key := if pre.isEmpty then none else some pre
  match scope.find? fun entry => entry.1 == key with
  | some entry => some (some entry.2)
  | none => if pre.isEmpty then some none else none

/-- An attribute with its name resolved: without a prefix it is in no namespace. -/
def Scope.attribute? (scope : Scope) (raw : RawAttribute) : Option Attribute := do
  let uri ←
    if raw.name.scope = "xml" then some (some xmlUri)
    else if raw.name.scope.isEmpty then some none
    else scope.resolve? raw.name.scope
  some ⟨⟨uri, raw.name.localName⟩, raw.value⟩

/-- Whether no two attributes have one name. -/
def distinctNames (attributes : List Attribute) : Bool :=
  match attributes with
  | [] => true
  | a :: rest => rest.all (·.name != a.name) && distinctNames rest

/-- An element that is not closed yet, its children in reverse. -/
structure Frame where
  raw : RawName
  name : Name
  attributes : List Attribute
  scope : Scope
  children : List Node

/-- Opens an element in a scope. -/
def Frame.open? (scope : Scope) (raw : RawName) (rawAttributes : List RawAttribute) :
    Option Frame := do
  if raw.scope = "xmlns" then none
  let tag ← TagAttributes.ofRaw? ⟨[], []⟩ rawAttributes
  let scope := tag.declared ++ scope
  let attributes ← tag.plain.mapM scope.attribute?
  if !distinctNames attributes then none
  let uri ← scope.resolve? raw.scope
  some ⟨raw, ⟨uri, raw.localName⟩, attributes, scope, []⟩

/-- The element of a frame that is closed. -/
def Frame.close (frame : Frame) : Node :=
  .element frame.name frame.attributes frame.children.reverse

/-- Adds a child. -/
def Frame.add (frame : Frame) (node : Node) : Frame :=
  { frame with children := node :: frame.children }

/-- Adds character data, to the text before it if there is one. -/
def Frame.addText (frame : Frame) (content : String) : Frame :=
  if content.isEmpty then frame
  else
    match frame.children with
    | .text before :: rest => { frame with children := .text (before ++ content) :: rest }
    | _ => frame.add (.text content)

/-- How far a document is read: its root once closed, and the open elements, innermost first. -/
structure Progress where
  root : Option Node
  frames : List Frame

/-- Puts a finished element into its parent, or makes it the root. -/
def Progress.finish? (p : Progress) (node : Node) : Option Progress :=
  match p.frames with
  | [] => if p.root.isSome then none else some ⟨some node, []⟩
  | parent :: rest => some { p with frames := parent.add node :: rest }

/-- The scope of the innermost open element. -/
def Progress.scope (p : Progress) : Scope :=
  (p.frames.head?.map (·.scope)).getD []

/-- Reads one token. Outside the root only blanks, comments and instructions may stand. -/
def Progress.read? (p : Progress) (token : Token) : Option Progress :=
  match token, p.frames with
  | .opening name attributes, frames => do
    if frames.isEmpty && p.root.isSome then none
    let frame ← Frame.open? p.scope name attributes
    some { p with frames := frame :: frames }
  | .empty name attributes, _ => do
    let frame ← Frame.open? p.scope name attributes
    p.finish? frame.close
  | .closing name, frame :: rest =>
    if name = frame.raw then { p with frames := rest }.finish? frame.close else none
  | .characters raw, frame :: rest => do
    let content ← charData? raw
    some { p with frames := frame.addText content :: rest }
  | .cdata raw, frame :: rest =>
    some { p with frames := frame.addText (sectionData raw) :: rest }
  | .comment content, frame :: rest =>
    some { p with frames := frame.add (.comment content) :: rest }
  | .instruction target content, frame :: rest =>
    some { p with frames := frame.add (.instruction target content) :: rest }
  | .characters raw, [] => if raw.all isSpace then some p else none
  | .comment _, [] => some p
  | .instruction _ _, [] => some p
  | .closing _, [] => none
  | .cdata _, [] => none

/-- The root element of the document that a text is, if it is a well-formed one. -/
def document? (s : String) : Option Node := do
  let cs := match s.toList with
    | '\uFEFF' :: rest => rest
    | cs => cs
  if !cs.all isChar then none
  let tokens ← tokens? (← afterDeclaration? cs)
  let progress ← tokens.foldlM Progress.read? ⟨none, []⟩
  if progress.frames.isEmpty then progress.root else none

end CubeQuery.Xml
