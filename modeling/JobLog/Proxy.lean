/-!
# Proxies

Requests may go through a proxy that environment variables name. A run needs a well formed one, if
there is one at all.
-/

namespace JobLog.Proxy

/-- The variables that name a proxy, the first one that is set counts. -/
def variableNames : List String := ["HTTPS_PROXY", "https_proxy", "HTTP_PROXY", "http_proxy"]

/-- The schemes of proxies. -/
def schemes : List String := ["http", "socks", "socks4", "socks4a", "socks5"]

/-- The proxy that the environment names. -/
def named? (env : String → Option String) : Option String := variableNames.findSome? env

/-- The text before and behind the first `://`. -/
def cutScheme? (before : List Char) : List Char → Option (List Char × List Char)
  | ':' :: '/' :: '/' :: s => some (before.reverse, s)
  | c :: s => cutScheme? (c :: before) s
  | [] => none

/-- What stands behind the scheme, if that is one of a proxy or missing. -/
def withoutScheme? (s : List Char) : Option (List Char) :=
  match cutScheme? [] s with
  | none => some s
  | some (scheme, r) => if schemes.any fun x => x.toList = scheme then some r else none

/-- The name and the password in front of the last `@` stand on both sides of a colon. -/
def hasCredentials (s : List Char) : Bool :=
  match s.reverse.dropWhile (· ≠ '@') with
  | [] => true
  | _ :: credentials => credentials.contains ':'

/-- The text names a proxy; slashes at its end do not count. -/
def isWellFormed (proxy : String) : Bool :=
  match withoutScheme? (proxy.toList.reverse.dropWhile (· == '/')).reverse with
  | none => false
  | some s => hasCredentials s

/-- The environment names no proxy or a well formed one. -/
def isUsable (env : String → Option String) : Bool := (named? env).all isWellFormed

end JobLog.Proxy
