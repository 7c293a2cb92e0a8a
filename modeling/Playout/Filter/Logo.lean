import Playout.Config.Basic
import Playout.Filter.Operator
import Playout.Site

/-!
# The logo

The logo is shown if it is configured and its file is there.
-/

namespace Playout.Filter.Logo

/-- Whether there is a logo to show. -/
def isAvailable {α : Type} (site : Site) (c : Config α) : Bool :=
  c.processing.addLogo && site.isFile c.processing.logo

/-- The chain that loads the logo, with or without its end; empty if there is no logo to show. -/
def chainText (site : Site) (c : Config Float) (ended : Bool) : String :=
  if isAvailable site c then
    logoBody c.processing.logo c.processing.logoOpacity ++
      (if ended then logoTail c.processing.logoFilter else "")
  else ""

end Playout.Filter.Logo
