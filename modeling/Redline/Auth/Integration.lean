import Redline.Auth.PrivateKey
import Redline.Json.Quantity

/-!
# The app's identity

What the app shows of itself to the hosting site: its number, its private key
and the address it talks to.
-/

namespace Redline.Auth

/-- The identity of the app. -/
structure Integration where
  appId : Int
  key : Text
  address : String
deriving Repr

def publicAddress : String := "https://api.github.com"

/-- The address of the site at a host, or the public one if no host is given. -/
def addressOf (host : Json) : String :=
  if host.truthy then "https://" ++ String.ofList host.display ++ "/api/v3" else publicAddress

/-- The identity from its settings.  The key is formatted first, then the
number is read. -/
def Integration.create (appId key host : Json) : Except Fault Integration :=
  match key with
  | .str k => do
      let n ← appId.toInteger
      return ⟨n, formatKey k.toList, addressOf host⟩
  | v => .error (.noMember v.sortName "strip")

end Redline.Auth
