/-! Texts in columns. -/

namespace ContractLint.Text

def blanks (count : Nat) : String := String.ofList (List.replicate count ' ')

/-- Fills a text up with blanks behind it. -/
def padEnd (text : String) (width : Nat) : String := text ++ blanks (width - text.length)

/-- Fills a text up with blanks before it. -/
def padStart (text : String) (width : Nat) : String := blanks (width - text.length) ++ text

end ContractLint.Text
