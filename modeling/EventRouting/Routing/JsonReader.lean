import EventRouting.Routing.Router
import EventRouting.Value.Json

set_option autoImplicit false

namespace EventRouting

/-- Reads JSON texts: a text of one value, one of an array of values, and a route file. For a text
that it cannot read it has a message. -/
structure JsonReader where
  value : String → Except String Json
  values : String → Except String (List Json)
  routes : String → Except String (List Route)

def JsonReader.event (reader : JsonReader) (text : String) : Except String Event :=
  (reader.value text).map Event.ofJson

end EventRouting
