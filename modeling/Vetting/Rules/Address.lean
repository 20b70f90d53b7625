import Vetting.Address.Domain
import Vetting.Address.Url
import Vetting.Rules.Kind

/-!
# Rules on addresses

Only texts are addresses. None of these rules looks an address up: all of them go by how
it is written. How the address of a mailbox is written is for the surroundings to say.
-/
namespace Vetting.Rules
open Vetting.Address

/-- The judge of texts as addresses of mailboxes. It comes to a verdict on every text. -/
structure MailReader where
  accepts : List Char → Bool

/-- The one that no text pleases. -/
def MailReader.none : MailReader := ⟨fun _ => false⟩

/-- A rule that texts of some form pass. -/
def writtenAs (name : String) (passes : List Char → Bool) : Rule :=
  plainRule name fun
    | .text s => passes s.toList
    | _ => false

def email (mail : MailReader) : Rule := writtenAs "email" mail.accepts

def ip : Rule := writtenAs "ip" fun s => (version? s).isSome

def ipv4 : Rule := writtenAs "ipv4" fun s => version? s == some 4

def ipv6 : Rule := writtenAs "ipv6" fun s => version? s == some 6

def domain : Rule := writtenAs "domain" isDomain

def url : Rule := writtenAs "url" isUrl

end Vetting.Rules
