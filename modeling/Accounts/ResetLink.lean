import Accounts.Text.FormEncoding

/-! # Reset links

A reset link carries the token as a form field behind the address of the page.
-/
namespace Accounts

def resetLink (base token : String) : String :=
  base ++ "?token=" ++ Text.FormEncoding.encode token

end Accounts
