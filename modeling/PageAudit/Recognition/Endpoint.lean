import PageAudit.Text.Blank
import PageAudit.Text.Search

/-!
Where a recognition service is asked whether it is there: at the origin of its endpoint.
-/

namespace PageAudit.Recognition

def endsAuthority (c : Char) : Bool := c == '/' || c == '?' || c == '#'

/-- The scheme of an endpoint and what follows it; without a scheme it is plain HTTP. -/
def splitScheme (endpoint : List Char) : List Char × List Char :=
  (Text.splitOnce "://".toList endpoint).getD ("http".toList, endpoint)

def authority (address : List Char) : List Char := address.takeWhile (!endsAuthority ·)

def defaultAuthority : List Char := "127.0.0.1:8866".toList

def probeUrl (endpoint : String) : String :=
  let (scheme, address) := splitScheme endpoint.toList
  let host := authority address
  String.ofList (scheme ++ "://".toList ++ if host.isEmpty then defaultAuthority else host)

end PageAudit.Recognition
