/-!
# Tokens

The words of HTTP: methods and the names of headers are tokens, and the values of headers are texts
without control characters.
-/

namespace SdkForge.Http

/-- Whether a character can stand in a token. -/
def inToken (c : Char) : Bool := c.isAlphanum || "!#$%&'*+-.^_`|~".toList.contains c

/-- Whether a text is a token. -/
def isToken (text : String) : Bool := !text.isEmpty && text.toList.all inToken

/-- Whether a text can be the value of a header. -/
def isHeaderValue (text : String) : Bool :=
  text.toList.all fun c => c == '\t' || (0x20 ≤ c.toNat && c.toNat != 0x7F)

/-- Whether the value of a header is plain text: a tab and the visible characters of ASCII. -/
def isPlain (value : String) : Bool :=
  value.toList.all fun c => c == '\t' || (0x20 ≤ c.toNat && c.toNat < 0x7F)

end SdkForge.Http
