import GuardedText.Cipher.Gcm
import GuardedText.Settings.VariableFile
import GuardedText.Text.Address
import GuardedText.Text.Case

/-! Sealed files of variables. Each variable of such a file holds, sealed and in base 64, the text
of a file of variables for one environment. A key is an address: its password holds the key of the
cipher, and a field of its query names the environment. -/

namespace GuardedText.SealedFile

/-- Why a key opens nothing. -/
inductive Error where
  | noAddress
  | noPassword
  | noEnvironment
  | notFound (variableName : String)
  | keyTooShort
  /-- The text was sealed under another key, or changed. -/
  | refused
  deriving DecidableEq, Repr

def Error.message : Error → String
  | .noAddress => "INVALID_DOTENV_KEY: Wrong format. Must be in valid uri format"
  | .noPassword => "INVALID_DOTENV_KEY: Missing key part"
  | .noEnvironment => "INVALID_DOTENV_KEY: Missing environment part"
  | .notFound name => String.join ["NOT_FOUND_DOTENV_ENVIRONMENT: Cannot locate environment ", name,
      " in your .env.vault file."]
  | .keyTooShort => "INVALID_DOTENV_KEY: It must be 64 characters long (or more)"
  | .refused => "DECRYPTION_FAILED: Please check your DOTENV_KEY"

/-- The last `n` members of a list. -/
def takeLast {α : Type} (n : Nat) (xs : List α) : List α :=
  xs.drop (xs.length - n)

/-- The key of the cipher in a password: 64 hexadecimal digits at its end. -/
def cipherKey? (password : String) : Option (List UInt8) :=
  let key := Text.Encoding.bytesOfHex (takeLast 64 password.toList)
  if key.length = 32 then some key else none

/-- Unseals bytes: a nonce of 12, the sealed text, and a tag of 16. -/
def open? (key bytes : List UInt8) : Option String :=
  let text := (bytes.take (bytes.length - 16)).drop 12
  if bytes.length < 16 then none
  else (Cipher.Gcm.unseal? key (bytes.take 12) text (takeLast 16 bytes)).map Text.Utf8.decode

/-- The variable that holds the sealed text for an environment. -/
def variableName (environment : String) : String :=
  String.join ["DOTENV_VAULT_", Text.upper environment]

/-- What a key asks for: the password and the variable of its environment. -/
def asked (key : String) : Except Error (String × String) :=
  match Text.Address.read? key with
  | none => .error .noAddress
  | some address =>
    let environment := (address.field? "environment").getD ""
    if address.password = "" then .error .noPassword
    else if environment = "" then .error .noEnvironment
    else .ok (address.password, variableName environment)

/-- The text that one key opens among the variables of a sealed file. Of two settings of a variable
the last counts. -/
def openWith (found : List (String × String)) (key : String) : Except Error String := do
  let (password, name) ← asked key
  let sealed := (found.reverse.lookup name).getD ""
  if sealed = "" then .error (.notFound name)
  match cipherKey? password with
  | none => .error .keyTooShort
  | some key =>
    (open? key (Text.Encoding.bytesOfBase64 sealed.toList)).elim (.error .refused) .ok

/-- The text that the first fit key opens, or why the last of them opens nothing. -/
def openWithFirst (found : List (String × String)) : List String → Except Error String
  | [] => .error .noAddress
  | [key] => openWith found key
  | key :: keys =>
    match openWith found key with
    | .ok text => .ok text
    | .error _ => openWithFirst found keys

/-- The variables that keys, with commas between them, open among those of a sealed file. -/
def read (found : List (String × String)) (keys : String) :
    Except Error (List (String × String)) :=
  (openWithFirst found ((Text.split ',' keys).map fun key =>
    String.ofList (Text.trim key.toList))).map VariableFile.read

end GuardedText.SealedFile
