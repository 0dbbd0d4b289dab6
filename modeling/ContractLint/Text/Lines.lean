/-! Lines of a text. -/

namespace ContractLint.Text

end ContractLint.Text
