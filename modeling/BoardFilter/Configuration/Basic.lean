import BoardFilter.Line
import BoardFilter.Site.Client

/-!
# Configuration

What the user asks for: the lines of the first session and what they never hide, and how the site
is reached.
-/

namespace BoardFilter

namespace Configuration

structure Blacklist where
  lines : List String := []
  enabled : Bool := true
  exemptFavorites : Bool := false
  exemptUploads : Bool := false
  whitelist : List String := []
deriving DecidableEq, Repr, Inhabited

def Blacklist.exemptions (b : Blacklist) (user : Option Nat) : Exemptions :=
  { favorites := b.exemptFavorites
    uploadsOf := if b.exemptUploads then user else none
    whitelist := b.whitelist.map Text.lowercase }

end Configuration

structure Configuration where
  blacklist : Configuration.Blacklist := {}
  site : Site.Config := {}
deriving DecidableEq, Repr, Inhabited

end BoardFilter
