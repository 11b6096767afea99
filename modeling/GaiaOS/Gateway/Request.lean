/-
A request on its way through the gateway: what it carries, and what the authentication
providers attach to it, after `auth/roles.py`, `db/models/user.py` and the uses of
`request.state` in `gateway/` and `auth/`.

Roles are text in the users table and are compared as text.  A header that is absent is
`none`; one that is there may still be empty, and the code tests for both at once.
-/
import GaiaOS.Schemas.AgentIo

namespace GaiaOS

/-- `Role`. -/
inductive Role
  | user
  | researcher
  | admin
  deriving DecidableEq, Repr

/-- The text of a role, which is what it is stored as. -/
def Role.value : Role → String
  | .user => "user"
  | .researcher => "researcher"
  | .admin => "admin"

/-- A row of the users table, as far as a request is decided by it. -/
structure User where
  id : Uuid
  role : String
  isActive : Bool
  isVerified : Bool
  deletedAt : Option Int
  deriving DecidableEq

structure Request where
  method : String
  path : String
  authorization : Option String
  xApiKey : Option String
  xForwardedFor : Option String
  clientHost : Option String

/-- What is attached to `request.state`; an attribute never set reads as `none`. -/
structure RequestState where
  user : Option User := none
  apiKeyId : Option String := none
  apiKeyError : Option (String × String) := none

/-- `HTTPException`, with the two headers the code sets. -/
structure HttpException where
  statusCode : Nat
  detail : String
  wwwAuthenticate : Option String := none
  retryAfter : Option Int := none
  deriving DecidableEq, Repr

/-- A header that is there and not empty. -/
def presentHeader (header : Option String) : Option String :=
  header.filter fun text => text ≠ ""

end GaiaOS
