/-!
# Endpoints

A datagram goes from one endpoint to another. An endpoint is an address and a
port; its text joins them with a colon.
-/

namespace CameraFleet

/-- Where datagrams are sent from and to. -/
structure Endpoint where
  /-- The host address, as text. -/
  address : String
  /-- The port number. -/
  port : Int
  deriving Repr, DecidableEq, Inhabited

namespace Endpoint

/-- An endpoint as `address:port`. -/
def text (endpoint : Endpoint) : String :=
  endpoint.address ++ ":" ++ toString endpoint.port

instance : ToString Endpoint := ⟨text⟩

end Endpoint
end CameraFleet
