import AgentRuns.Text.Blank

/-!
# Endpoints of signals

Signals are sent to a path below a base address. An address that already ends
with the path is taken as it is; one that ends with the version that the path
begins with is completed. One slash at the end of the base does not count. Without
a base there is no endpoint.
-/

namespace AgentRuns.Telemetry

/-- The version segment that begins every signal's path. -/
def version : Text := "/v1"

/-- The address that a signal is sent to, empty without a base. -/
def endpoint (base : Option Text) (path : Text) : Text :=
  let address : Text := Text.strip (base.getD [])
  if address.isEmpty || address.endsWith path then address
  else
    let address : Text := if address.endsWith "/" then address.dropLast else address
    if address.endsWith version then address ++ path.drop version.length
    else address ++ path

end AgentRuns.Telemetry
