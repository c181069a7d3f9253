import RowGuard.Yaml.Content

/-!
# Reading a document

A text that holds printable characters only is cut into tokens, the tokens make up a tree, and the
tree stands for a value.
-/

namespace RowGuard.Yaml

/-- Whether a character may stand in a document. -/
def isPrintable (c : Char) : Bool :=
  c = '\t' || c = '\n' || c = '\r' || (' ' ≤ c && c ≤ '~') || c = '\u0085'
    || ('\u00a0' ≤ c && c ≤ '\ufffd') || 0x10000 ≤ c.toNat

/-- The value of a document. Half of a character in two halves, escaped by itself, is read as
U+FFFD, and a name inside the node that it names stands for nothing. -/
def read (text : List Char) : Except Error Value :=
  if text.all isPrintable then Tree.ofTokens (tokens text) >>= Tree.value else .error .malformed

end RowGuard.Yaml
