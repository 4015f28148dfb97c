import ValidatorWatch.Text.Blank
/-!
# Public keys of validators

A validator is known by its secp256k1 public key, written in hexadecimal digits. Settings hold the
compressed form: 02 or 03 for the parity of y, then x. Services also use the uncompressed form, 04
with x and y, or x and y alone.

Two keys match if they are the same text after normalisation, or have the same compressed form.
-/

namespace ValidatorWatch.PublicKey

/-- Without blanks at the ends and without `0x`, in lower case. -/
def normalizeChars (cs : List Char) : List Char :=
  let stripped :=
    match Text.trimChars cs with
    | '0' :: 'x' :: rest => rest
    | '0' :: 'X' :: rest => rest
    | rest => rest
  stripped.map Char.toLower

/-- Without blanks at the ends and without `0x`, in lower case. -/
def normalize (key : String) : String :=
  String.ofList (normalizeChars key.toList)

/-- Whether a text starts with the marks of a compressed key. -/
def isCompressedMark (cs : List Char) : Bool :=
  cs.take 2 = ['0', '2'] || cs.take 2 = ['0', '3']

/-- Whether a key has the compressed form: 66 hexadecimal digits, of which the first two are 02
or 03. -/
def isValid (key : String) : Bool :=
  key.utf8ByteSize = 66 && isCompressedMark key.toList && key.toList.all Text.isHexDigit

/-- The compressed form of x and y. -/
def compressPoint (point : List Char) : Option (List Char) := do
  let last ← point.getLast?
  let value ← Text.hexValue? last
  return '0' :: (if value % 2 = 0 then '2' else '3') :: point.take 64

/-- The compressed form of a key in any of the three forms. -/
def compress? (key : List Char) : Option (List Char) :=
  if !key.all Text.isHexDigit then none
  else if key.length = 66 && isCompressedMark key then some key
  else if key.length = 130 && key.take 2 = ['0', '4'] then compressPoint (key.drop 2)
  else if key.length = 128 then compressPoint key
  else none

/-- Whether a key from the settings and the key of a service name the same validator. Texts of fewer
than 64 bytes are no keys. -/
def keysMatch (configured nodeId : String) : Bool :=
  let a := normalize configured
  let b := normalize nodeId
  if a.utf8ByteSize < 64 || b.utf8ByteSize < 64 then false
  else if a = b then true
  else
    match compress? a.toList, compress? b.toList with
    | some a, some b => a = b
    | _, _ => false

end ValidatorWatch.PublicKey
