import CubeQuery.Session.Transport
import CubeQuery.Xmla.Reply

set_option autoImplicit false

/-!
# Connections

A connection knows the address of a server and what goes with every request. It needs a catalog. How
a request reaches the server is left to an exchange, which the connection is given; a request to an
address that is no absolute HTTP address is refused without it.
-/

namespace CubeQuery.Xmla

/-- User name and password. -/
structure Credentials where
  username : String
  password : String
deriving DecidableEq, Repr, Inhabited

/-- What a connection is made from. -/
structure Settings where
  url : String
  properties : Properties
  credentials : Option Credentials
  timeoutMillis : Option UInt64
deriving DecidableEq, Repr, Inhabited

namespace Settings

/-- The settings for an address, without the slashes at its end. -/
def ofUrl (url : String) : Settings :=
  ⟨String.ofList (Text.dropTrailing (· == '/') url.toList), Properties.ofCatalog "", none, none⟩

/-- The settings with a catalog. -/
def withCatalog (s : Settings) (catalog : String) : Settings :=
  { s with properties := { s.properties with catalog := catalog } }

/-- The settings with credentials. -/
def withCredentials (s : Settings) (username password : String) : Settings :=
  { s with credentials := some ⟨username, password⟩ }

/-- The settings with a limit for the time of a request. -/
def withTimeout (s : Settings) (millis : UInt64) : Settings :=
  { s with timeoutMillis := some millis }

/-- The settings with a limit for the time on the server. -/
def withServerTimeout (s : Settings) (seconds : UInt64) : Settings :=
  { s with properties := { s.properties with timeoutSeconds := seconds } }

/-- The settings with a locale. -/
def withLocale (s : Settings) (locale : UInt32) : Settings :=
  { s with properties := { s.properties with locale := locale } }

/-- The settings with one more property. -/
def withProperty (s : Settings) (name value : String) : Settings :=
  { s with properties := { s.properties with extra := s.properties.extra ++ [(name, value)] } }

end Settings

/-- A connection to a server: settings with a catalog. -/
structure Connection where
  settings : Settings
  hasCatalog : settings.properties.catalog ≠ ""

/-- The connection that settings make. -/
def Connection.ofSettings? (settings : Settings) : Except Fault Connection :=
  if h : settings.properties.catalog = "" then .error (.protocol "A catalog must be specified")
  else .ok ⟨settings, h⟩

/-- A request to a server. -/
structure HttpRequest where
  url : String
  contentType : String
  credentials : Option Credentials
  timeoutMillis : UInt64
  body : String
deriving DecidableEq, Repr, Inhabited

/-- Sends a request and returns the body of the reply. -/
abbrev Exchange (m : Type → Type) := HttpRequest → m (Except Fault String)

/-- Whether an address is an absolute HTTP address with a host. -/
def isHttpUrl (url : String) : Bool :=
  let cs := url.toList.map Text.lower
  ["http://", "https://"].any fun scheme =>
    scheme.toList.isPrefixOf cs
      && (cs.drop scheme.length).head?.any fun c => c != '/' && c != '?' && c != '#' && c != ':'

namespace Connection

/-- The request for a statement. -/
def request (c : Connection) (statement : String) : HttpRequest where
  url := c.settings.url
  contentType := "text/xml"
  credentials := c.settings.credentials
  timeoutMillis := c.settings.timeoutMillis.getD 30000
  body := envelope statement c.settings.properties

/-- Sends a statement and returns the body of the reply. -/
def execute {m : Type → Type} [Monad m] (c : Connection) (exchange : Exchange m)
    (statement : String) : m (Except Fault String) :=
  if isHttpUrl c.settings.url then exchange (c.request statement)
  else pure (.error (.connection "HTTP request failed: the address is not an HTTP address"))

/-- A connection as a transport of statements. -/
def transport {m : Type → Type} [Monad m] (c : Connection) (exchange : Exchange m) :
    Session.Transport m := fun statement => do
  match ← c.execute exchange statement with
  | .ok reply => pure (cellsetOfReply? reply)
  | .error fault => pure (.error fault.toError)

end Connection

end CubeQuery.Xmla
