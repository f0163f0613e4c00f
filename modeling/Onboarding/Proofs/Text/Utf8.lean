import Onboarding.Text.Utf8

namespace Onboarding.Text

section Forms

variable {a b c d : Nat} {rest : List Nat}

end Forms

end Onboarding.Text
