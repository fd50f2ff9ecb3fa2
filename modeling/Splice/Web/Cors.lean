import Splice.Settings
import Splice.Text.Blank
import Splice.Text.Lowercase
import Splice.Text.Separated
import Splice.Web.Message
import Splice.Web.Pattern

/-!
# Requests from other origins

A page of another origin may use the service if its origin is listed or belongs to a pattern. Every
answer to a request that names its origin says that credentials are allowed, and names the origin
if that is allowed. Before an unusual request a browser asks first, in a preflight, whether origin,
method and header fields are allowed; it is told which of them are not. A request that crosses into
a private network never is.
-/

namespace Splice.Web

/-- The origins that may use the service. -/
structure Cors where
  origins : List String
  pattern : Pattern
  deriving Repr

/-- A request that is asked for in a preflight. -/
structure Preflight where
  origin : String
  method : String
  /-- The header fields that it will have besides the usual ones. -/
  fields : Option String
  /-- Whether it crosses into a private network. -/
  crossesInward : Bool
  deriving DecidableEq, Repr

namespace Cors

/-- The origins of the settings. -/
def ofSettings (settings : Settings) : Cors where
  origins := (settings.corsOrigins ++ [settings.frontendUrl]).filter (· != "")
  pattern := Pattern.ofText settings.corsOriginRegex

/-- The methods that may be used. -/
def methods : List String := ["GET", "POST", "PUT", "DELETE", "OPTIONS"]

/-- The header fields that may be sent, in small letters. -/
def headerFields : List String :=
  ["accept", "accept-language", "content-language", "content-type", "authorization",
   "x-requested-with"]

/-- Whether an origin may use the service. -/
def allows (cors : Cors) (origin : String) : Bool :=
  cors.origins.contains origin || cors.pattern.accepts origin

/-- The header fields of every answer to a request that names its origin. -/
def headers (cors : Cors) (origin : String) : List (String × String) :=
  ("access-control-allow-credentials", "true") ::
    if cors.allows origin then [("access-control-allow-origin", origin)] else []

/-- Whether all header fields of a list may be sent. -/
def allowsFields (list : String) : Bool :=
  (Text.partsAt ',' list).all fun name => headerFields.contains (Text.trim (Text.lower name))

/-- What is not allowed about a request to come. -/
def objections (cors : Cors) (p : Preflight) : List String :=
  (if cors.allows p.origin then [] else ["origin"])
    ++ (if methods.contains p.method then [] else ["method"])
    ++ (if (p.fields.map allowsFields).getD true then [] else ["headers"])
    ++ (if p.crossesInward then ["private-network"] else [])

/-- The answer to a preflight. -/
def preflight (cors : Cors) (p : Preflight) : Response :=
  let response := match cors.objections p with
    | [] => Response.text 200 "OK"
    | objections => Response.text 400 ("Disallowed CORS " ++ ", ".intercalate objections)
  response.withHeaders
    (("access-control-allow-methods", ", ".intercalate methods) :: cors.headers p.origin)

end Cors

end Splice.Web
