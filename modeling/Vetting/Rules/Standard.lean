import Vetting.Rules.Address
import Vetting.Rules.Code
import Vetting.Rules.Comparison
import Vetting.Rules.Document
import Vetting.Rules.Json
import Vetting.Rules.Length
import Vetting.Rules.Number
import Vetting.Rules.Pattern
import Vetting.Rules.Text

/-!
# The standard rules

Every rule of the library with the names it goes by. Rules that put a new value in the
place of the old one come first, then the rules that only judge.
-/
namespace Vetting.Rules

def transformers : List (String × List String × Rule) :=
  [("asTrim", ["as_trim"], asTrim),
   ("asUppercase", ["as_uppercase"], asUppercase),
   ("asLowercase", ["as_lowercase"], asLowercase),
   ("asExtract", ["as_extract"], asExtract),
   ("asDigits", ["as_digits"], asDigits),
   ("asTruncate", ["as_truncate"], asTruncate),
   ("asLimit", ["as_limit"], asLimit),
   ("asReplace", ["as_replace"], asReplace),
   ("asPregReplace", ["as_preg_replace", "asRegexReplace"], asPregReplace),
   ("asJsonEncode", ["as_json_encode"], asJsonEncode),
   ("asJsonDecode", ["as_json_decode"], asJsonDecode),
   ("asRound", ["as_round"], asRound),
   ("asFloor", ["as_floor"], asFloor),
   ("asCeil", ["as_ceil"], asCeil),
   ("asDecimal", ["as_decimal"], asDecimal),
   ("asCardNumber", ["as_card_number"], asCardNumber),
   ("asCpf", ["as_cpf"], asCpf),
   ("asCnpj", ["as_cnpj"], asCnpj)]

def validators (mail : MailReader) : List (String × List String × Rule) :=
  [("eq", [], eq),
   ("seq", [], seq),
   ("between", [], between),
   ("gt", [], gt),
   ("gte", [], gte),
   ("lt", [], lt),
   ("lte", [], lte),
   ("in", ["oneOf", "one_of"], isIn),
   ("lbetween", [], lbetween),
   ("lgt", [], lgt),
   ("lgte", [], lgte),
   ("llt", [], llt),
   ("llte", [], llte),
   ("array", [], array),
   ("string", ["str"], string),
   ("boolean", ["bool"], boolean),
   ("integer", ["int"], integer),
   ("numeric", [], numeric),
   ("float", [], float),
   ("null", [], null),
   ("req", [], req),
   ("date", [], date),
   ("email", [], email mail),
   ("ip", [], ip),
   ("ipv4", [], ipv4),
   ("ipv6", [], ipv6),
   ("domain", [], domain),
   ("url", [], url),
   ("digits", [], digits),
   ("alpha", [], alpha),
   ("alphanumeric", [], alphanumeric),
   ("currency", [], currency),
   ("country2", [], country2),
   ("country3", [], country3)]

def standard (mail : MailReader) : Registry Rule :=
  registerAll Registry.empty (transformers ++ validators mail)

end Vetting.Rules
