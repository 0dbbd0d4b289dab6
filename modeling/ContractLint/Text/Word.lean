/-! Characters of words, before any look at their properties. -/

namespace ContractLint.Text

/-- Characters that may continue a word: letters, digits and the underscore of the ASCII range, and
everything outside that range. -/
def isWordChar (c : Char) : Bool := c.isAlphanum || c = '_' || 128 ≤ c.toNat

end ContractLint.Text
