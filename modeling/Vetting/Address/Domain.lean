import Vetting.Pattern.Match
import Vetting.Pattern.Parse

/-!
# Domain names

Labels parted by points, with one more point allowed at the end, in 253 characters at
most. A label has 1 to 63 letters, digits and hyphens, with no hyphen at either end.
One pattern says all of this, and a name has to match it as a whole.
-/
namespace Vetting.Address
open Pattern

def labelPattern : String := "(?!-)[A-Za-z0-9-]\x7b1,63\x7d(?<!-)"

def domainPattern : String :=
  "(?=.\x7b1,253\x7d$)" ++ labelPattern ++ "(\\." ++ labelPattern ++ ")*\\.?"

def domainRegex : Except Fault Regex := Regex.parse domainPattern.toList

def isDomain (s : List Char) : Bool :=
  match domainRegex with
  | .ok p => p.matchesAll s
  | .error _ => false

end Vetting.Address
