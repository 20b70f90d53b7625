import Vetting.Catalog
import Vetting.Chain.Run
import Vetting.Config
import Vetting.Rules.Standard

/-!
# Configured validations

The setting that a configuration describes: all standard rules, and messages from the
catalog that it names, laid over the standard ones. Files and what is told by others than
this library come from its surroundings.
-/
namespace Vetting

structure Surroundings where
  files : Named String
  /-- What the text of a document says. -/
  read : String → Except Trouble Value
  members : Template.Members
  mail : Rules.MailReader

def Translator.ofConfig (s : Surroundings) (c : Config) : Except Failure Translator :=
  if c.messagesFile.truth then
    (Catalog.load s.read s.files c.messagesFile c.locale (textTemplates defaultMessages)).map
      (.catalog s.members)
  else .ok .standard

def Setting.ofConfig (s : Surroundings) (c : Config) : Except Failure Setting :=
  (Translator.ofConfig s c).map fun t => ⟨Rules.standard s.mail, t, c.throwEarly⟩

end Vetting
