import Vetting.Proofs.Chain.History
import Vetting.Proofs.Chain.Reference
import Vetting.Proofs.Rules.Contract

/-!
# When fields are isolated

A field is an affair of its own if it fails whenever none of its alternatives passes, and if
what is written back comes from an alternative that does. The chain of a field begins over
what the node of the container can fall back on, so that a clean node there stands in for a
failed field. So fields are isolated exactly in containers whose node has no clean ancestor.
-/
namespace Vetting
variable {mail : Rules.MailReader}

namespace Field
variable {σ : Setting} {data current : Value} {path : String} {bs rs fallback : List Strand}

end Field

namespace World
variable {w u : World} {k : Nat}

end World

namespace Run
variable {σ : Setting} {w u : World} {k : Nat} {es : List (Value × Value)}

end Run

section
variable {σ : Setting} {w : World} {k : Nat} {es : List (Value × Value)}

end

end Vetting
