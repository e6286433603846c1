import Custody.Text.Literal

namespace Custody

structure KeyStore where
  path : String
  user : String
  password : String
  deriving DecidableEq

namespace KeyStore

def shownParts (store : KeyStore) : List (String × String) :=
  [("path",Text.quoted store.path),("user",Text.quoted store.user),
   ("password",Text.quoted "<redacted>")]

def redacted (store : KeyStore) : String :=
  let parts := store.shownParts.map fun part => part.1 ++ ": " ++ part.2
  "KeyStoreLocation \x7b " ++ ", ".intercalate parts ++ " \x7d"

def redactedLines (store : KeyStore) : String :=
  let parts := store.shownParts.map fun part => "    " ++ part.1 ++ ": " ++ part.2 ++ ",\n"
  "KeyStoreLocation \x7b\n" ++ String.join parts ++ "\x7d"

end KeyStore

end Custody
