import Turnstile.Text.Url

/-!
Addresses of key-value servers.
-/

namespace Turnstile.CacheUrl

def schemes : List String := ["redis", "rediss", "redis+unix", "unix"]

/-- The address can be used, or why it cannot. -/
def check (s : String) : Except String Unit :=
  match Url.ofText s with
  | .ok url =>
    if !schemes.contains url.scheme then .error "Redis URL did not parse- InvalidClientConfig"
    else if (url.scheme == "redis" || url.scheme == "rediss") && url.host.isEmpty then
      .error "Missing hostname- InvalidClientConfig"
    else .ok ()
  | .error _ => .error "Redis URL did not parse- InvalidClientConfig"

end Turnstile.CacheUrl
