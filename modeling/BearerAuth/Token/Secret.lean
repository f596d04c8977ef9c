/-!
# Secrets

The text of a token is kept where no log shows it: a secret shows the same words whatever it holds.
-/

namespace BearerAuth.Token

/-- A text that is not shown. -/
structure Secret where
  exposed : String
  deriving DecidableEq

namespace Secret

/-- What stands in the place of the text. -/
def redaction : String := "<redacted>"

def shown (_ : Secret) : String := redaction

/-- How a secret is shown with the name of its kind. -/
def shownNamed (_ : Secret) : String :=
  "TokenSecret(\"" ++ redaction ++ "\")"

end Secret

end BearerAuth.Token
