set_option autoImplicit false

/-!
# Request envelopes

The SOAP envelope around a statement. The statement stands in CDATA sections, split where it holds
their end mark; the values of properties are escaped.
-/

namespace CubeQuery.Xmla

/-- The namespace of SOAP envelopes. -/
def soapUri : String := "http://schemas.xmlsoap.org/soap/envelope/"

/-- The namespace of XML for Analysis. -/
def analysisUri : String := "urn:schemas-microsoft-com:xml-analysis"

/-- The properties that go with every statement. -/
structure Properties where
  catalog : String
  timeoutSeconds : UInt64
  locale : UInt32
  extra : List (String × String)
deriving DecidableEq, Repr, Inhabited

/-- The properties for a catalog: an hour of server time, and the neutral English locale. -/
def Properties.ofCatalog (catalog : String) : Properties :=
  ⟨catalog, 3600, 9, []⟩

/-- A character as it is written in an element's text. -/
def escapeChar : Char → List Char
  | '&' => "&amp;".toList
  | '<' => "&lt;".toList
  | '>' => "&gt;".toList
  | '"' => "&quot;".toList
  | '\'' => "&apos;".toList
  | c => [c]

/-- A text as it is written in an element. -/
def escape (s : String) : String :=
  String.ofList (s.toList.flatMap escapeChar)

/-- The mark that opens a CDATA section. -/
def sectionOpening : String := "<![CDATA["

/-- The mark that ends a CDATA section. -/
def sectionEnd : String := "]]>"

/-- Characters as written in CDATA sections, between the first opening and the last end mark. A
section ends inside of every end mark that the characters hold. -/
def splitSections : List Char → List Char
  | ']' :: ']' :: '>' :: rest =>
    ']' :: ']' :: ((sectionEnd ++ sectionOpening).toList ++ '>' :: splitSections rest)
  | c :: rest => c :: splitSections rest
  | [] => []

/-- An element with a text. -/
def textElement (name text : String) : String :=
  "<" ++ name ++ ">" ++ text ++ "</" ++ name ++ ">"

/-- The elements of the properties, in order. -/
def Properties.elements (p : Properties) : List String :=
  [textElement "Catalog" (escape p.catalog), textElement "ShowHiddenCubes" "True",
      textElement "Timeout" (toString p.timeoutSeconds.toNat),
      textElement "LocaleIdentifier" (toString p.locale.toNat)]
    ++ p.extra.map fun (name, value) => textElement name (escape value)

/-- The element of a statement. -/
def statementElement (statement : String) : String :=
  textElement "Statement"
    (sectionOpening ++ String.ofList (splitSections statement.toList) ++ sectionEnd)

/-- The lines of an envelope around the element of a statement and the elements of properties. -/
def envelopeLines (statement : String) (properties : List String) : List String :=
  ["<Envelope xmlns=\"" ++ soapUri ++ "\">",
    "  <Body>",
    "    <Execute xmlns=\"" ++ analysisUri ++ "\">",
    "      <Command>",
    "        " ++ statement,
    "      </Command>",
    "      <Properties>",
    "        <PropertyList>"]
  ++ properties.map (fun element => "          " ++ element)
  ++ ["        </PropertyList>",
    "      </Properties>",
    "    </Execute>",
    "  </Body>",
    "</Envelope>"]

/-- The envelope around a statement. -/
def envelope (statement : String) (p : Properties) : String :=
  "\n".intercalate (envelopeLines (statementElement statement) p.elements)

end CubeQuery.Xmla
