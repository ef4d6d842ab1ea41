set_option autoImplicit false

/-!
# Document trees

The nodes of a document with resolved names, and the few questions that are asked of them.
-/

namespace CubeQuery.Xml

/-- A resolved name: the URI of its namespace, if it is in one, and its local part. -/
structure Name where
  uri : Option String
  localName : String
deriving DecidableEq, Repr, Inhabited

/-- An attribute with a resolved name. Declarations of namespaces are no attributes. -/
structure Attribute where
  name : Name
  value : String
deriving DecidableEq, Repr, Inhabited

/-- A node of a document. -/
inductive Node where
  | element (name : Name) (attributes : List Attribute) (children : List Node)
  | text (content : String)
  | comment (content : String)
  | instruction (target content : String)
deriving Inhabited

namespace Node

/-- Whether a node is an element. -/
def isElement : Node → Bool
  | element _ _ _ => true
  | _ => false

/-- The children of an element; other nodes have none. -/
def children : Node → List Node
  | element _ _ children => children
  | _ => []

/-- The attributes of an element; other nodes have none. -/
def attributes : Node → List Attribute
  | element _ attributes _ => attributes
  | _ => []

/-- The local name of an element. -/
def localName? : Node → Option String
  | element name _ _ => some name.localName
  | _ => none

/-- Whether a node is an element with a local name, in any namespace. -/
def isCalled (node : Node) (localName : String) : Bool :=
  node.localName? == some localName

/-- Whether a node is an element with a resolved name. -/
def hasName (node : Node) (name : Name) : Bool :=
  match node with
  | element other _ _ => other == name
  | _ => false

/-- The value of the attribute with a name in no namespace. -/
def attribute? (node : Node) (name : String) : Option String :=
  (node.attributes.find? fun a => a.name == ⟨none, name⟩).map (·.value)

/-- The text that an element begins with: that of its first child, if this is text. -/
def text? (node : Node) : Option String :=
  match node.children with
  | text content :: _ => some content
  | _ => none

/-- The child elements with a local name. -/
def childrenCalled (node : Node) (localName : String) : List Node :=
  node.children.filter (·.isCalled localName)

/-- The first child element with a local name. -/
def childCalled? (node : Node) (localName : String) : Option Node :=
  node.children.find? (·.isCalled localName)

/-- The first child element with a resolved name. -/
def child? (node : Node) (name : Name) : Option Node :=
  node.children.find? (·.hasName name)

mutual

/-- A node and all nodes below it, in document order. -/
def descendants : Node → List Node
  | element name attributes children =>
    element name attributes children :: descendantsOf children
  | text content => [text content]
  | comment content => [comment content]
  | instruction target content => [instruction target content]

/-- Several nodes and all nodes below them, in document order. -/
def descendantsOf : List Node → List Node
  | [] => []
  | node :: rest => descendants node ++ descendantsOf rest

end

end Node

end CubeQuery.Xml
